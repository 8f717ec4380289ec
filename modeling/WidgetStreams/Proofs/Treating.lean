import WidgetStreams.Proofs.Sound

/-!
# What a step is to a handle

This file tells what a step may be to one handle. Most steps leave a handle as it is
and say nothing of it; the others make it, dispose it, give it an action, or take its
subscription a stage further.

## Main definitions

- `Event.handle?` — the handle of which an event tells
- `Toolkit.Treats` — what a step may be to a handle

## Main results

- `Step.treats` — every step is one of these to every handle
- `Step.disposed_or`, `Step.action_or` — where a disposal, or an action in place, comes from
-/

namespace WidgetStreams

open History

variable {σ : Type} {m : Manners} {v w : Toolkit σ} {b : BridgeId} {h k : HandleId}

-- ════════════════════════════════════════════════════════════════════════
-- Reading after a change
-- ════════════════════════════════════════════════════════════════════════

namespace Toolkit

theorem get_withBridge (w : Toolkit σ) (b k : BridgeId) (f : Bridge → Bridge) :
    (w.withBridge b f).bridges.get k = if b = k then f (w.bridges.get k) else w.bridges.get k :=
  Registry.get_modify _ _ _ _

/-- A bridge that is changed stays with its handle. -/
theorem closed_withBridge (w : Toolkit σ) (b k : BridgeId) {f : Bridge → Bridge}
    (hf : ∀ x, (f x).handle = x.handle) : (w.withBridge b f).closed k = w.closed k := by
  rw [closed, get_withBridge]
  split
  · rw [hf]
    rfl
  · rfl

theorem closed_starting (w : Toolkit σ) (b k : BridgeId) (signal : Signal) :
    (w.starting b signal).closed k = w.closed k :=
  closed_withBridge w b k (f := fun bridge => { bridge with delivering := some w.here })
    fun _ => rfl

theorem closed_advancing (w : Toolkit σ) (b k : BridgeId) (signal : Signal) (rest : List Signal) :
    (w.advancing b signal rest).closed k = w.closed k :=
  closed_withBridge w b k (f := fun bridge => { bridge with queue := rest }) fun _ => rfl

/-- A handle that there is stays as disposed as it was when another is added. -/
theorem disposed_addingHandle (hh : w.HasHandle h) (x : Handle) :
    (w.addingHandle x).disposed h = w.disposed h := by
  rw [disposed, Registry.get, addingHandle, Registry.find?_add_of_isSome hh]
  rfl

/-- A bridge that there is stays as it was when another is opened. -/
theorem get_opening (hb : w.HasBridge b) (observer : Observer) :
    (w.opening observer).bridges.get b = w.bridges.get b := by
  rw [Registry.get, opening, Registry.find?_add_of_isSome hb]
  rfl

theorem Sound.closed_opening (hs : w.Sound) (hb : w.HasBridge b) (observer : Observer) :
    (w.opening observer).closed b = w.closed b := by
  rw [closed, get_opening hb]
  exact disposed_addingHandle (hs.owned hb) {}

/-- A new bridge is open. -/
theorem Sound.closed_opening_next (hs : w.Sound) (observer : Observer) :
    (w.opening observer).closed w.bridges.next = false := by
  have hbridge : (w.opening observer).bridges.get w.bridges.next =
      { handle := w.handles.next, observer := observer } := by
    rw [Registry.get, hs.find?_opening, if_pos rfl]
    rfl
  have hhandle : (w.addingHandle {}).handles.find? w.handles.next = some {} := by
    rw [hs.find?_addingHandle, if_pos rfl]
  rw [closed, hbridge, disposed, Registry.get]
  exact congrArg (fun x => (x.getD default).disposed) hhandle

theorem disposed_disposing (w : Toolkit σ) (h k : HandleId) :
    (w.disposing h).disposed k = if h = k then true else w.disposed k := by
  by_cases e : h = k <;> simp only [disposing] <;> split <;>
    simp [disposed, withHandle, noted, releasing, withScreen, e]

theorem get_disposing (w : Toolkit σ) (h k : HandleId) :
    (w.disposing h).handles.get k =
      if h = k then { disposed := true, action := none } else w.handles.get k := by
  by_cases e : h = k <;> simp only [disposing] <;> split <;>
    simp [withHandle, noted, releasing, withScreen, e]

theorem get_arming (w : Toolkit σ) (h k : HandleId) (action : Release) :
    (w.arming h action).handles.get k =
      if h = k ∧ w.disposed h = false then { w.handles.get k with action := some action }
      else w.handles.get k := by
  simp only [arming]
  split
  · next d => rw [if_neg (by simp [d])]; rfl
  · next d =>
    by_cases e : h = k
    · subst e
      simp [withHandle, noted, d]
    · simp [withHandle, noted, e]

@[simp] theorem bridges_arming (w : Toolkit σ) (h : HandleId) (action : Release) :
    (w.arming h action).bridges = w.bridges := by
  simp only [arming]
  split <;> rfl

@[simp] theorem bridges_registering (w : Toolkit σ) (h : HandleId) (b : BridgeId)
    (binding : Binding) (owner : Nat) (judge : Judge) :
    (w.registering h b binding owner judge).bridges = w.bridges := by
  rw [registering, bridges_arming]
  rfl

@[simp] theorem bridges_disposing (w : Toolkit σ) (h : HandleId) :
    (w.disposing h).bridges = w.bridges := by
  simp only [disposing]
  split <;> rfl

theorem disposed_registering (w : Toolkit σ) (h k : HandleId) (b : BridgeId) (binding : Binding)
    (owner : Nat) (judge : Judge) :
    (w.registering h b binding owner judge).disposed k = w.disposed k :=
  disposed_arming _ _ _ _

/-- A fresh number stands for no handle. -/
theorem Sound.not_hasHandle_next (hs : w.Sound) : ¬ w.HasHandle w.handles.next := by
  rw [HasHandle, hs.freshHandles _ (Nat.le_refl _)]
  exact Bool.false_ne_true

end Toolkit

-- ════════════════════════════════════════════════════════════════════════
-- What a step may be to a handle
-- ════════════════════════════════════════════════════════════════════════

/-- The handle of which an event tells: that it is disposed, that an action is put in place or run
    for it, or that its subscription is a stage further. -/
def Event.handle? : Event → Option HandleId
  | .disposed h | .armed h _ | .releasing h _ => some h
  | e => subscription? e

theorem Event.handle?_of_isAside {e : Event} (he : e.isAside = true) : e.handle? = none := by
  cases e <;> first | rfl | cases he

theorem History.milestone?_of_handle?_ne {e : Event} (he : e.handle? ≠ some k) :
    milestone? k e = none := by
  rw [milestone?, if_neg]
  rintro hs
  cases e <;> first | exact he hs | cases hs

theorem History.release?_of_handle?_ne {e : Event} (he : e.handle? ≠ some k) :
    release? k e = none := by
  cases e with
  | releasing h => exact if_neg fun hk => he (congrArg some hk)
  | _ => rfl

theorem Cause.handle?_eq_none {s : Screen} {signal : Signal} {notes : List Event}
    (hc : Cause m w b s signal notes) : ∀ e ∈ notes, e.handle? = none := by
  cases hc <;> simp [Event.handle?, subscription?]

/-- **What a step may be to a handle** `k`. -/
inductive Toolkit.Treats (v : Toolkit σ) (k : HandleId) : Toolkit σ → Prop
  /-- It leaves the handle as it is. -/
  | apart {w : Toolkit σ} (es : List Event) (journal : w.journal = (v.notedAll es).journal)
      (events : ∀ e ∈ es, e.handle? ≠ some k) (handle : w.handles.get k = v.handles.get k) :
      Treats v k w
  /-- It makes the handle, with an action of the client's at most. -/
  | made {w : Toolkit σ} {x : Handle} (es : List Event) (new : k = v.handles.next)
      (journal : w.journal = (v.notedAll es).journal)
      (events : ∀ e ∈ es, e.handle? = subscription? e)
      (handle : w.handles.get k = x) (client : ∀ a, x.action = some a → ∃ n, a = .client n) :
      Treats v k w
  /-- It disposes the handle. -/
  | disposed (alive : v.disposed k = false) : Treats v k (v.disposing k)
  /-- It gives the handle an action of the client's. -/
  | armed {n : Nat} : Treats v k (v.arming k (.client n))
  /-- It gives the subscription up. -/
  | withdrawn {b : BridgeId} {source : Source}
      (stages : milestones k v.journal = [.subscribing k b source]) (closed : v.disposed k = true) :
      Treats v k (v.noted (.withdrawn k))
  /-- It begins to register the subscription. -/
  | attaching {b : BridgeId} {source : Source}
      (stages : milestones k v.journal = [.subscribing k b source]) :
      Treats v k (v.noted (.attaching k source))
  /-- It registers the subscription with a widget. -/
  | registered {b : BridgeId} {binding : Binding} {owner : Nat} {judge : Judge}
      (stages : milestones k v.journal =
        [.subscribing k b (.widget binding owner judge),
          .attaching k (.widget binding owner judge)])
      (alive : v.disposed k = false) :
      Treats v k ((v.registering k b binding owner judge).noted
        (.attached k (v.keyOf b binding owner judge) false))
  /-- It registers the subscription with a widget, and the bridge takes a value. -/
  | started {b : BridgeId} {binding : Binding} {owner : Nat} {judge : Judge} {signal : Signal}
      (stages : milestones k v.journal =
        [.subscribing k b (.widget binding owner judge),
          .attaching k (.widget binding owner judge)])
      (alive : v.disposed k = false) :
      Treats v k (((v.registering k b binding owner judge).noted
        (.attached k (v.keyOf b binding owner judge) true)).starting b signal)
  /-- It registers the subscription with a source of the client's. -/
  | registeredClient {b : BridgeId} {callback : Nat} {thread : Thread} {key : Option Nat}
      (stages : milestones k v.journal =
        [.subscribing k b (.client callback thread), .attaching k (.client callback thread)]) :
      Treats v k ((v.noted (.registered k (.client callback thread) key)).arming k
        (.detach (.client callback thread) key))
  /-- The registration with a source of the client's is complete. -/
  | attached {b : BridgeId} {callback : Nat} {thread : Thread} {key : Option Nat} (warm : Bool)
      (stages : milestones k v.journal = [.subscribing k b (.client callback thread),
        .attaching k (.client callback thread), .registered k (.client callback thread) key]) :
      Treats v k (v.noted (.attached k key warm))
  /-- It hands the handle over to whom subscribed. -/
  | concluded {b : BridgeId} {source : Source}
      (stages : milestones k v.journal = [.subscribing k b source, .withdrawn k] ∨
        ∃ key warm, milestones k v.journal = [.subscribing k b source, .attaching k source,
          .registered k source key, .attached k key warm]) :
      Treats v k (v.noted (.concluded k))

namespace Toolkit.Treats

/-- What is only noted of a handle leaves every other one as it is. -/
theorem of_noted {e : Event} (he : e.handle? = some h) (hk : h = k → v.Treats k (v.noted e)) :
    v.Treats k (v.noted e) := by
  by_cases hhk : h = k
  · exact hk hhk
  · refine .apart [e] rfl (List.forall_mem_singleton.mpr ?_) rfl
    rw [he]
    exact fun heq => hhk (Option.some.inj heq)

/-- An action is put in place for another handle. -/
theorem of_arming {u : Toolkit σ} {action : Release} {es : List Event} (hne : h ≠ k)
    (hj : (u.arming h action).journal = (v.notedAll es).journal)
    (hes : ∀ e ∈ es, e.handle? ≠ some k) (hh : u.handles = v.handles) :
    v.Treats k (u.arming h action) := by
  refine .apart es hj hes ?_
  rw [get_arming, if_neg fun he => hne he.1, hh]

/-- Another handle is the one of a subscription that a widget registers. -/
theorem of_registering {binding : Binding} {owner : Nat} {judge : Judge} (es : List Event)
    (hd : v.disposed h = false) (hne : h ≠ k)
    (hj : w.journal = ((v.registering h b binding owner judge).notedAll es).journal)
    (hes : ∀ e ∈ es, e.handle? ≠ some k)
    (hh : w.handles = (v.registering h b binding owner judge).handles) : v.Treats k w := by
  refine .apart _ (hj.trans (journal_notedAll_registering hd es)) ?_ ?_
  · simpa [Event.handle?, subscription?, hne] using hes
  · rw [hh, registering, get_arming, if_neg fun he => hne he.1]
    rfl

end Toolkit.Treats

/-- **Every step is one of these to every handle.** -/
theorem Step.treats (hs : v.Sound) (h : Step m v w) (k : HandleId) : v.Treats k w := by
  have hadding : ∀ x es, w.handles = (v.addingHandle x).handles →
      w.journal = (v.notedAll es).journal → (∀ e ∈ es, e.handle? = subscription? e) →
      (v.handles.next ≠ k → ∀ e ∈ es, e.handle? ≠ some k) →
      (∀ a, x.action = some a → ∃ n, a = .client n) → v.Treats k w := by
    intro x es hh hj hsub hes hx
    have hget : w.handles.get k = if v.handles.next = k then x else v.handles.get k := by
      rw [hh, Registry.get, hs.find?_addingHandle]
      split <;> rfl
    by_cases hk : v.handles.next = k
    · exact .made es hk.symm hj hsub (hget.trans (if_pos hk)) hx
    · exact .apart es hj (hes hk) (hget.trans (if_neg hk))
  have hcause : ∀ {b s signal notes es}, Cause m v b s signal notes →
      w.journal = (v.notedAll (notes ++ es)).journal → (∀ e ∈ es, e.handle? = none) →
      w.handles = v.handles → v.Treats k w := by
    intro b s signal notes es cause hj hes hh
    refine .apart _ hj (fun e he => ?_) (by rw [hh])
    obtain he | he := List.mem_append.mp he
    · simp [cause.handle?_eq_none e he]
    · simp [hes e he]
  cases h with
  | note he => exact .apart [_] rfl (by simp [Event.handle?_of_isAside he]) rfl
  | change h => exact .apart [] h.journal (by simp) (by rw [h.handles])
  | newHandle disposed action =>
    refine hadding _ [] rfl rfl (by simp) (by simp) fun a ha => ?_
    obtain ⟨n, -, rfl⟩ := Option.map_eq_some_iff.mp ha
    exact ⟨n, rfl⟩
  | newBridge => exact hadding {} [] rfl rfl (by simp) (by simp) (by simp)
  | subscribe =>
    refine hadding {} [_, _, _] rfl rfl (by simp [Event.handle?]) (fun hk => ?_) (by simp)
    simp [Event.handle?, subscription?, hk]
  | @dispose l hh hd =>
    by_cases hlk : l = k
    · subst hlk
      exact .disposed hd
    · refine .apart _ (Toolkit.journal_disposing v l) ?_ ?_
      · simp [Event.handle?, hlk]
      · rw [Toolkit.get_disposing, if_neg hlk]
  | @arm l n hh =>
    by_cases hlk : l = k
    · subst hlk
      exact .armed
    · refine .of_arming hlk (Toolkit.journal_arming v l _) ?_ rfl
      split <;> simp [Event.handle?, hlk]
  | start hb hc hd cause =>
    exact hcause cause (Toolkit.journal_notedAll_starting _ _ _ _)
      (by simp [Event.handle?, subscription?]) rfl
  | queue hm hb hc hd cause =>
    exact hcause cause (Toolkit.journal_notedAll_queueing _ _ _ _)
      (by simp [Event.handle?, subscription?]) rfl
  | comeBack | advance | listen | unlisten | removeListener | pass | hear | operate | alter
  | flag =>
    exact .apart [_] rfl (by simp [Event.handle?, subscription?]) rfl
  | drop | finish | unwind => exact .apart [] rfl (by simp) rfl
  | withdraw hm hd => exact .of_noted rfl fun hlk => by subst hlk; exact .withdrawn hm hd
  | attach hm => exact .of_noted rfl fun hlk => by subst hlk; exact .attaching hm
  | @registerWidget l b binding owner judge hm hd =>
    by_cases hlk : l = k
    · subst hlk
      exact .registered hm hd
    · exact .of_registering [_] hd hlk rfl (by simp [Event.handle?, subscription?, hlk]) rfl
  | @registerWarm l b binding owner judge hm hd =>
    by_cases hlk : l = k
    · subst hlk
      exact .started hm hd
    · refine .of_registering [_, _, _] hd hlk (Toolkit.journal_starting _ _ _) ?_ rfl
      simp [Event.handle?, subscription?, hlk]
  | @registerClient l b callback thread key hm =>
    by_cases hlk : l = k
    · subst hlk
      exact .registeredClient hm
    · refine .of_arming hlk (Toolkit.journal_registeringClient v l callback thread key) ?_ rfl
      split <;> simp [Event.handle?, subscription?, hlk]
  | attached warm hm => exact .of_noted rfl fun hlk => by subst hlk; exact .attached warm hm
  | conclude hm => exact .of_noted rfl fun hlk => by subst hlk; exact .concluded hm

/-- A handle that a step finds disposed and did not dispose was disposed before. -/
theorem Step.disposed_or (hs : v.Sound) (h : Step m v w) (hk : v.HasHandle k)
    (hd : w.disposed k = true) : v.disposed k = true ∨ Occurred (.disposed k) w.journal := by
  cases h.treats hs k with
  | apart es hj hes hh => exact .inl (by rwa [Toolkit.disposed, hh] at hd)
  | made es hnew => exact absurd (hnew ▸ hk) hs.not_hasHandle_next
  | disposed =>
    rw [Toolkit.journal_disposing, Toolkit.occurred_notedAll]
    exact .inr (.inl List.mem_cons_self)
  | armed => exact .inl (by rwa [Toolkit.disposed_arming] at hd)
  | registeredClient =>
    rw [Toolkit.disposed_arming] at hd
    exact .inl hd
  | registered | started => exact .inl ((v.disposed_registering _ _ _ _ _ _).symm.trans hd)
  | withdrawn | attaching | attached | concluded => exact .inl hd

/-- An action that is in place after a step was in place before, or was put in place, or is the
    client's. -/
theorem Step.action_or (hs : v.Sound) (h : Step m v w) {action : Release}
    (ha : (w.handles.get k).action = some action) :
    (v.handles.get k).action = some action ∨ Occurred (.armed k action) w.journal ∨
      ∃ n, action = .client n := by
  have harming : ∀ {u : Toolkit σ} {a}, ((u.arming k a).handles.get k).action = some action →
      (u.handles.get k).action = some action ∨
        Occurred (.armed k action) (u.arming k a).journal := by
    intro u a hx
    rw [Toolkit.get_arming] at hx
    split at hx
    · cases hx
      rw [Toolkit.journal_arming, Toolkit.occurred_notedAll]
      exact .inr (.inl List.mem_cons_self)
    · exact .inl hx
  cases h.treats hs k with
  | apart es hj hes hh => exact .inl (by rwa [hh] at ha)
  | made es hnew hj hes hh hclient => exact .inr (.inr (hclient action (hh ▸ ha)))
  | disposed =>
    rw [Toolkit.get_disposing, if_pos rfl] at ha
    cases ha
  | armed | registeredClient => exact (harming ha).imp id .inl
  | registered =>
    exact (harming ha).imp id fun ho => .inl (ho.mono (Grows.noted _ _).journal)
  | started =>
    exact (harming ha).imp id fun ho =>
      .inl (ho.mono ((Grows.noted _ _).trans (Grows.starting _ _ _)).journal)
  | withdrawn | attaching | attached | concluded => exact .inl ha

end WidgetStreams
