import WidgetStreams.Proofs.Undoing

/-!
# Who has a slot

This file reads off the journal who has the slot at a point that holds one
listener, and proves that the slot holds the listener of its owner.

## Main definitions

- `Owner`, `History.owner` — who has a slot: the latest one to register, until somebody gives it up
- `History.Stands` — a slot holds what its owner registered
- `Toolkit.Owned` — the invariant of a slot
- `Toolkit.Hands` — what may happen to a slot
- `Toolkit.Held` — the part of the invariant that no action of the client's disturbs

## Main results

- `Step.hands` — what a step does to a slot
- `Step.owned`, `Step.held` — every step keeps the invariant, and that part of it

## Design notes

A disposal empties the slot of its subscription whoever has it by then. This is
what the library does, so this is what `History.owner` says.
-/

namespace WidgetStreams

open History

/-- An **owner** of a slot. -/
inductive Owner
  /-- A listener that was put there directly. -/
  | raw (listener : Listener)
  /-- The subscription with a handle. -/
  | subscriber (handle : HandleId)
  deriving Repr, DecidableEq

/-- Whether an event says that a slot changes hands. -/
def Event.handsOver : Event → Bool
  | .registered _ (.widget _ _ _) _ | .installed _ _ | .cleared _ | .disposed _ => true
  | _ => false

namespace History

/-- The subscription with a handle was registered at a point. -/
def member (p : Point) (h : HandleId) (j : List Entry) : Bool :=
  j.any fun x =>
    match x.event with
    | .registered handle (.widget binding n _) _ => handle == h && binding.point n == p
    | _ => false

/-- **Who has the slot** at a point. A newcomer takes it from the one before; whoever empties it
    directly, and any of its subscriptions that is disposed, leaves it to nobody. -/
def owner (p : Point) : List Entry → Option Owner
  | [] => none
  | x :: earlier =>
    match x.event with
    | .registered h (.widget binding n _) _ =>
      if binding.point n = p then some (.subscriber h) else owner p earlier
    | .installed q listener => if q = p then some (.raw listener) else owner p earlier
    | .cleared q => if q = p then none else owner p earlier
    | .disposed h => if member p h earlier then none else owner p earlier
    | _ => owner p earlier

/-- **The window of a subscription**: the native events that came to the slot at a point while the
    subscription had it. -/
def window (p : Point) (h : HandleId) : List Entry → List NativeEvent
  | [] => []
  | x :: earlier =>
    match x.event with
    | .dispatched q e _ =>
      if q = p ∧ owner p earlier = some (.subscriber h) then window p h earlier ++ [e]
      else window p h earlier
    | _ => window p h earlier

/-- **A slot holds what its owner registered.** -/
def Stands (p : Point) (j : List Entry) : Option Owner → Option Listener → Prop
  | none, content => content = none
  | some (.raw listener), content => content = some listener ∧ listener.isRaw = true
  | some (.subscriber h), content => ∃ binding b judge, binding.site = p.site ∧
      content = some (.forward binding b judge) ∧
      Occurred (.subscribing h b (.widget binding p.owner judge)) j

variable {p : Point} {h : HandleId} {i j : List Entry} {e : Event}

theorem Stands.mono {o : Option Owner} {content : Option Listener} (hs : Stands p i o content)
    (hij : i <:+ j) : Stands p j o content := by
  obtain _ | listener | h := o
  · exact hs
  · exact hs
  · obtain ⟨binding, b, judge, hsite, hcontent, x, hx, he⟩ := hs
    exact ⟨binding, b, judge, hsite, hcontent, x, hij.subset hx, he⟩

/-- A slot is filled if and only if it has an owner. -/
theorem Stands.isSome {o : Option Owner} {content : Option Listener} (hs : Stands p j o content) :
    content.isSome = o.isSome := by
  obtain _ | listener | h := o
  · rw [show content = none from hs]
    rfl
  · rw [hs.1]
    rfl
  · obtain ⟨binding, b, judge, -, rfl, -⟩ := hs
    rfl

theorem member_eq_true : member p h j = true ↔ ∃ binding n judge key,
    Occurred (.registered h (.widget binding n judge) key) j ∧ binding.point n = p := by
  rw [member, List.any_eq_true]
  constructor
  · rintro ⟨x, hx, he⟩
    split at he
    · next k binding n judge key hk =>
      simp only [Bool.and_eq_true, beq_iff_eq] at he
      obtain ⟨rfl, hp⟩ := he
      exact ⟨binding, n, judge, key, ⟨x, hx, hk⟩, hp⟩
    · cases he
  · rintro ⟨binding, n, judge, key, ⟨x, hx, he⟩, hp⟩
    refine ⟨x, hx, ?_⟩
    rw [he]
    simp [hp]

theorem member_mono (hm : member p h i = true) (hij : i <:+ j) : member p h j = true := by
  obtain ⟨x, hx, he⟩ := List.any_eq_true.mp hm
  exact List.any_eq_true.mpr ⟨x, hij.subset hx, he⟩

theorem owner_cons_of_not_handsOver {x : Entry} (hx : x.event.handsOver = false) :
    owner p (x :: j) = owner p j := by
  obtain ⟨t, e⟩ := x
  cases e with
  | registered h source key =>
    cases source with
    | widget => cases hx
    | client => rfl
  | installed | cleared | disposed => cases hx
  | _ => rfl

/-- A subscription that has the slot was registered there. -/
theorem member_of_owner (ho : owner p j = some (.subscriber h)) : member p h j = true := by
  induction j with
  | nil => cases ho
  | cons x j ih =>
    have hrest : owner p j = some (.subscriber h) → member p h (x :: j) = true :=
      fun ho => member_mono (ih ho) (List.suffix_cons _ _)
    rw [owner] at ho
    split at ho
    · next k binding n judge key he =>
      split at ho
      · next hp =>
        cases ho
        exact member_eq_true.mpr ⟨binding, n, judge, key, ⟨x, List.mem_cons_self, he⟩, hp⟩
      · exact hrest ho
    · split at ho
      · cases ho
      · exact hrest ho
    · split at ho
      · cases ho
      · exact hrest ho
    · split at ho
      · cases ho
      · exact hrest ho
    · exact hrest ho

end History

variable {σ : Type} {m : Manners} {v w : Toolkit σ} {p : Point} {h k : HandleId}

theorem History.owner_notedAll {es : List Event} (hes : ∀ e ∈ es, e.handsOver = false) :
    owner p (w.notedAll es).journal = owner p w.journal :=
  Toolkit.read_notedAll (fun e he _ _ hx => owner_cons_of_not_handsOver (hx ▸ hes e he)) w

namespace Toolkit

/-- The handles of subscriptions at a point were given no action of the client's. -/
def Undisturbed (w : Toolkit σ) (p : Point) : Prop :=
  ∀ h, member p h w.journal = true → rearmed h w.journal = false

/-- Handles are undisturbed where client code gave no handle an action. -/
theorem undisturbed_of_all (hj : (w.journal.all fun x =>
    match x.event with
    | .armed _ (.client _) => false
    | _ => true) = true) : w.Undisturbed p := by
  intro h _
  rw [rearmed, List.any_eq_false]
  intro x hx hr
  have hquiet := List.all_eq_true.mp hj x hx
  split at hr
  · next he =>
    rw [he] at hquiet
    cases hquiet
  · cases hr

/-- What was not disturbed in the end was not disturbed before. -/
theorem Undisturbed.of_grows (hw : w.Undisturbed p) (hg : Grows v w) : v.Undisturbed p := by
  intro h hm
  refine rearmed_eq_false.mpr fun n hn => ?_
  exact rearmed_eq_false.mp (hw h (member_mono hm hg.journal)) n (hn.mono hg.journal)

/-- **The invariant of a slot**: it holds what its owner registered, and a subscription that has it
    is not disposed. -/
structure Owned (w : Toolkit σ) (p : Point) : Prop where
  stands : Stands p w.journal (owner p w.journal) (w.screen.slot p).content
  alive : ∀ h, owner p w.journal = some (.subscriber h) → w.disposed h = false

/-- **An open subscription has in place what undoes its registration.** -/
theorem Tidy.action_of_registered (hw : w.Tidy) (hb : w.Backed) {source : Source}
    {key : Option Nat} (ho : Occurred (.registered h source key) w.journal)
    (ha : rearmed h w.journal = false) (hd : w.disposed h = false) :
    (w.handles.get h).action = some (.detach source key) := by
  obtain ⟨b, hsub⟩ := (hb.registered ho).1
  have hkept := hw h b _ hsub (rearmed_eq_false.mp ha)
  have hstage : Event.registered h source key ∈ milestones h w.journal :=
    mem_milestones.mpr ⟨ho, rfl⟩
  generalize hc : w.course h = c at hkept
  obtain ⟨disposed, action, stages, released⟩ := c
  simp only [course, Course.mk.injEq] at hc
  obtain ⟨hdisposed, haction, hstages, -⟩ := hc
  rw [hstages] at hstage
  rw [hdisposed] at hd
  rw [haction]
  cases hkept with
  | early hs => obtain rfl | rfl := hs <;> simp at hstage
  | withdrawn | undone => cases hd
  | @standing key _ hs =>
    obtain rfl | ⟨warm, rfl | rfl⟩ := hs <;> simp [stagesOf] at hstage <;> rw [hstage]

/-- An open subscription at a point has in place what empties the slot. -/
theorem Tidy.action_of_member (hw : w.Tidy) (hb : w.Backed) (hp : p.site.isShared = false)
    (hm : member p h w.journal = true) (ha : rearmed h w.journal = false)
    (hd : w.disposed h = false) :
    ∃ binding n judge, binding.point n = p ∧
      (w.handles.get h).action = some (.detach (.widget binding n judge) none) := by
  obtain ⟨binding, n, judge, key, ho, rfl⟩ := member_eq_true.mp hm
  obtain rfl := (hb.registered ho).2 binding n judge rfl hp
  exact ⟨binding, n, judge, rfl, hw.action_of_registered hb ho ha hd⟩

end Toolkit

/-- The run of an action empties no slot unless it undoes a registration with a widget. -/
theorem Toolkit.screen_arming (w : Toolkit σ) (h : HandleId) {action : Release}
    (ha : ∀ s, action.undone s = s) : (w.arming h action).screen = w.screen := by
  simp only [Toolkit.arming]
  split
  · exact ha _
  · rfl

theorem Toolkit.screen_registering (w : Toolkit σ) {b : BridgeId} {binding : Binding} {n : Nat}
    {judge : Judge} (hd : w.disposed h = false) :
    (w.registering h b binding n judge).screen =
      (w.screen.install (binding.point n) (.forward binding b judge)).2 := by
  have hd' : (Toolkit.noted { w with
      screen := (w.screen.install (binding.point n) (.forward binding b judge)).2 }
      (.registered h (.widget binding n judge)
        (w.screen.install (binding.point n) (.forward binding b judge)).1)).disposed h = false := hd
  rw [Toolkit.registering, Toolkit.arming, hd']
  rfl

theorem Cause.not_handsOver {u : Toolkit σ} {b : BridgeId} {s : Screen} {signal : Signal}
    {notes : List Event} (hc : Cause m u b s signal notes) : ∀ e ∈ notes, e.handsOver = false := by
  cases hc <;> simp [Event.handsOver]

theorem Event.handsOver_of_isAside {e : Event} (he : e.isAside = true) : e.handsOver = false := by
  cases e <;> first | rfl | cases he

namespace Toolkit

/-- What the disposal of a handle makes of the screen. -/
theorem screen_disposing (w : Toolkit σ) (h : HandleId) :
    (w.disposing h).screen = match (w.handles.get h).action with
      | none => w.screen
      | some action => action.undone w.screen := by
  simp only [disposing]
  cases (w.handles.get h).action <;> rfl

theorem owner_disposing (w : Toolkit σ) (p : Point) (h : HandleId) :
    owner p (w.disposing h).journal =
      if member p h w.journal then none else owner p w.journal := by
  rw [journal_disposing, notedAll_cons, owner_notedAll]
  · rfl
  · intro e he
    obtain ⟨action, -, rfl⟩ := List.mem_map.mp he
    rfl

/-- The disposal of a subscription at another point leaves the slot as it is. -/
theorem slot_disposing (hb : w.Backed) (hm : ¬ member p h w.journal = true) :
    (w.disposing h).screen.slot p = w.screen.slot p := by
  rw [screen_disposing]
  cases ha : (w.handles.get h).action with
  | none => rfl
  | some action =>
    cases action with
    | client => rfl
    | detach source key =>
      cases source with
      | client => rfl
      | widget binding n judge =>
        have hne : binding.point n ≠ p := fun e =>
          hm (member_eq_true.mpr ⟨binding, n, judge, key, hb.action ha, e⟩)
        exact Screen.slot_uninstall_of_ne hne key

theorem owner_registering (p : Point) (hd : w.disposed h = false) (b : BridgeId) (binding : Binding)
    (n : Nat) (judge : Judge) (warm : Bool) :
    owner p ((w.registering h b binding n judge).noted
      (.attached h (w.keyOf b binding n judge) warm)).journal =
        if binding.point n = p then some (.subscriber h) else owner p w.journal := by
  rw [journal_noted_registering hd]
  rfl

theorem slot_registering (hp : p.site.isShared = false) (hd : w.disposed h = false) (b : BridgeId)
    (binding : Binding) (n : Nat) (judge : Judge) (warm : Bool) :
    ((w.registering h b binding n judge).noted
      (.attached h (w.keyOf b binding n judge) warm)).screen.slot p =
        if binding.point n = p then ⟨some (.forward binding b judge)⟩ else w.screen.slot p := by
  change (w.registering h b binding n judge).screen.slot p = _
  rw [screen_registering w hd, Screen.slot_install hp]

end Toolkit

-- ════════════════════════════════════════════════════════════════════════
-- What a step does to a slot
-- ════════════════════════════════════════════════════════════════════════

namespace Toolkit

/-- **What may happen to a slot** from one moment to the next. -/
inductive Hands (v w : Toolkit σ) (p : Point) : Prop
  /-- It stays as it is, and with its owner. -/
  | stays (owner : owner p w.journal = owner p v.journal)
      (slot : w.screen.slot p = v.screen.slot p)
      (alive : ∀ k, History.owner p v.journal = some (.subscriber k) → w.disposed k = v.disposed k)
  /-- It is emptied, and left to nobody. -/
  | empties (owner : owner p w.journal = none) (content : (w.screen.slot p).content = none)
  /-- It is left to nobody when a subscription there is disposed. -/
  | disposes (h : HandleId) (member : member p h v.journal = true) (alive : v.disposed h = false)
      (owner : owner p w.journal = none) (screen : w.screen = (v.disposing h).screen)
  /-- A newcomer takes it. -/
  | passes (o : Owner) (owner : owner p w.journal = some o)
      (stands : Stands p w.journal (some o) (w.screen.slot p).content)
      (alive : ∀ k, o = .subscriber k → w.disposed k = false)

namespace Hands

/-- A disposal is one of a subscription at the point, or leaves the slot as it is. -/
theorem disposing (hb : w.Backed) (hd : w.disposed h = false) : w.Hands (w.disposing h) p := by
  have howner := w.owner_disposing p h
  by_cases hm : member p h w.journal = true
  · rw [if_pos hm] at howner
    exact .disposes h hm hd howner rfl
  · rw [if_neg hm] at howner
    refine .stays howner (slot_disposing hb hm) fun k hk => ?_
    have hne : h ≠ k := by
      rintro rfl
      exact hm (member_of_owner hk)
    rw [disposed_disposing, if_neg hne]

/-- **A subscription takes the slot** at its own point, and no other one. -/
theorem registering (hp : p.site.isShared = false) (hd : w.disposed h = false) {b : BridgeId}
    {binding : Binding} {n : Nat} {judge : Judge} (warm : Bool)
    (ho : Occurred (.subscribing h b (.widget binding n judge)) w.journal) :
    w.Hands ((w.registering h b binding n judge).noted
      (.attached h (w.keyOf b binding n judge) warm)) p := by
  have howner := owner_registering p hd b binding n judge warm
  have hslot := slot_registering hp hd b binding n judge warm
  have hdisposed : ∀ k, ((w.registering h b binding n judge).noted
      (.attached h (w.keyOf b binding n judge) warm)).disposed k = w.disposed k :=
    fun k => w.disposed_registering h k b binding n judge
  have hgrows := (Grows.registering w h b binding n judge).trans
    (.noted _ (.attached h (w.keyOf b binding n judge) warm))
  by_cases e : binding.point n = p
  · rw [if_pos e] at howner hslot
    refine .passes _ howner ?_ fun k hk => ?_
    · rw [hslot]
      subst e
      exact ⟨binding, b, judge, rfl, rfl, ho.mono hgrows.journal⟩
    · cases hk
      exact (hdisposed h).trans hd
  · rw [if_neg e] at howner hslot
    exact .stays howner hslot fun k _ => hdisposed k

/-- The start of a delivery does nothing to a slot. -/
theorem starting (h : v.Hands w p) (b : BridgeId) (signal : Signal) :
    v.Hands (w.starting b signal) p := by
  have howner : owner p (w.starting b signal).journal = owner p w.journal := by
    rw [journal_starting, owner_notedAll (by simp [Event.handsOver])]
  cases h with
  | stays ho hslot ha => exact .stays (howner.trans ho) hslot ha
  | empties ho hcontent => exact .empties (howner.trans ho) hcontent
  | disposes k hm ha ho hscreen => exact .disposes k hm ha (howner.trans ho) hscreen
  | passes o ho hs ha =>
    exact .passes o (howner.trans ho) (hs.mono (Grows.starting w b signal).journal) ha

/-- **A listener that is put there directly takes the slot.** -/
theorem listening (w : Toolkit σ) (hp : p.site.isShared = false) (q : Point) {listener : Listener}
    (hl : listener.isRaw = true) :
    w.Hands ((w.withScreen fun s => (s.install q listener).2).noted (.installed q listener)) p := by
  have howner : owner p ((w.withScreen fun s => (s.install q listener).2).noted
      (.installed q listener)).journal =
        if q = p then some (.raw listener) else owner p w.journal := rfl
  have hslot : ((w.withScreen fun s => (s.install q listener).2).noted
      (.installed q listener)).screen.slot p =
        if q = p then ⟨some listener⟩ else w.screen.slot p := Screen.slot_install hp listener
  by_cases e : q = p
  · rw [if_pos e] at howner hslot
    refine .passes _ howner ?_ fun k hk => by cases hk
    rw [hslot]
    exact ⟨rfl, hl⟩
  · rw [if_neg e] at howner hslot
    exact .stays howner hslot fun _ _ => rfl

/-- **Emptying the slot directly leaves it to nobody.** -/
theorem unlistening (w : Toolkit σ) (p q : Point) :
    w.Hands ((w.withScreen fun s => s.clearListener q).noted (.cleared q)) p := by
  have howner : owner p ((w.withScreen fun s => s.clearListener q).noted (.cleared q)).journal =
      if q = p then none else owner p w.journal := rfl
  have hslot : ((w.withScreen fun s => s.clearListener q).noted (.cleared q)).screen.slot p =
      if q = p then ⟨none⟩ else w.screen.slot p := Screen.slot_clearListener _ _ _
  by_cases e : q = p
  · rw [if_pos e] at howner hslot
    exact .empties howner (congrArg Slot.content hslot)
  · rw [if_neg e] at howner hslot
    exact .stays howner hslot fun _ _ => rfl

end Hands

end Toolkit

/-- **Whatever a step does**, a slot stays with its owner as it is, or is left to nobody, or is
    taken by a newcomer. -/
theorem Step.hands (hs : v.Sound) (hb : v.Backed) (hp : p.site.isShared = false)
    (h : Step m v w) : v.Hands w p := by
  have hhandle : ∀ {k}, owner p v.journal = some (.subscriber k) → v.HasHandle k := by
    intro k hk
    obtain ⟨binding, n, judge, key, ho, -⟩ := member_eq_true.mp (member_of_owner hk)
    exact hs.knows ho
  have hsame : ∀ es, w.journal = (v.notedAll es).journal → (∀ e ∈ es, e.handsOver = false) →
      w.screen.slot p = v.screen.slot p →
      (∀ k, v.HasHandle k → w.disposed k = v.disposed k) → v.Hands w p :=
    fun es hj hes hslot hd =>
      .stays (by rw [hj, owner_notedAll hes]) hslot fun k hk => hd k (hhandle hk)
  have hadding : ∀ x k, v.HasHandle k → (v.addingHandle x).disposed k = v.disposed k :=
    fun x _ hk => Toolkit.disposed_addingHandle hk x
  cases h with
  | note he =>
    exact hsame [_] rfl (by simpa using Event.handsOver_of_isAside he) rfl fun _ _ => rfl
  | change h =>
    refine hsame [] h.journal (by simp) (Screen.slot_congr h.slots p) fun k _ => ?_
    rw [Toolkit.disposed, h.handles]
    rfl
  | newHandle => exact hsame [] rfl (by simp) rfl (hadding _)
  | dispose hh hd => exact .disposing hb hd
  | @arm l n hh =>
    refine hsame _ (Toolkit.journal_arming v l (.client n)) ?_ ?_ fun k _ =>
      Toolkit.disposed_arming v l k _
    · split <;> simp [Event.handsOver]
    · rw [Toolkit.screen_arming v l fun _ => rfl]
  | newBridge => exact hsame [] rfl (by simp) rfl (hadding {})
  | start hb hc hd cause =>
    refine hsame _ (Toolkit.journal_notedAll_starting _ _ _ _) ?_
      (Screen.slot_congr cause.registrations.1 p) fun _ _ => rfl
    exact List.forall_mem_append.mpr ⟨cause.not_handsOver, by simp [Event.handsOver]⟩
  | queue hm hb hc hd cause =>
    refine hsame _ (Toolkit.journal_notedAll_queueing _ _ _ _) ?_
      (Screen.slot_congr cause.registrations.1 p) fun _ _ => rfl
    exact List.forall_mem_append.mpr ⟨cause.not_handsOver, by simp [Event.handsOver]⟩
  | comeBack | advance | withdraw | attach | attached | conclude | removeListener | hear | operate
  | flag =>
    exact hsame [_] rfl (by simp [Event.handsOver]) rfl fun _ _ => rfl
  | alter h =>
    exact hsame [_] rfl (by simp [Event.handsOver]) (Screen.slot_congr h.slots p) fun _ _ => rfl
  | drop | finish | unwind => exact hsame [] rfl (by simp) rfl fun _ _ => rfl
  | pass turn =>
    exact hsame [_] rfl (by simp [Event.handsOver]) (Screen.slot_congr turn.slots p) fun _ _ => rfl
  | subscribe => exact hsame [_, _, _] rfl (by simp [Event.handsOver]) rfl (hadding {})
  | registerWidget hm hd => exact .registering hp hd false (hs.hasHandle_of_subscribing hm).2
  | registerWarm hm hd =>
    exact (Toolkit.Hands.registering hp hd true (hs.hasHandle_of_subscribing hm).2).starting _ _
  | @registerClient l c callback thread key hm =>
    refine hsame _ (Toolkit.journal_registeringClient v l callback thread key) ?_ ?_ fun k _ =>
      Toolkit.disposed_arming _ _ _ _
    · split <;> simp [Event.handsOver]
    · rw [Toolkit.screen_arming _ _ fun _ => rfl]
      rfl
  | listen hl => exact .listening v hp _ hl
  | unlisten => exact .unlistening v p _

/-- **Every step keeps the invariant of a slot**, as long as the handles of its subscriptions are
    given no action of the client's. -/
theorem Step.owned (hs : v.Sound) (ht : v.Tidy) (hb : v.Backed) (hp : p.site.isShared = false)
    (hu : v.Undisturbed p) (hv : v.Owned p) (h : Step m v w) : w.Owned p := by
  cases h.hands hs hb hp with
  | stays howner hslot halive =>
    refine ⟨?_, fun k hk => ?_⟩
    · rw [howner, hslot]
      exact hv.stands.mono h.grows.journal
    · rw [howner] at hk
      exact (halive k hk).trans (hv.alive k hk)
  | empties howner hcontent =>
    refine ⟨?_, by simp [howner]⟩
    rw [howner, hcontent]
    rfl
  | disposes l hm hd howner hscreen =>
    -- what the disposal runs is what empties the slot
    obtain ⟨binding, n, judge, rfl, ha⟩ := ht.action_of_member hb hp hm (hu l hm) hd
    refine ⟨?_, by simp [howner]⟩
    rw [howner, hscreen, Toolkit.screen_disposing, ha]
    simp [Release.undone, Screen.uninstall, Stands]
  | passes o howner hstands halive =>
    refine ⟨?_, fun k hk => ?_⟩
    · rw [howner]
      exact hstands
    · rw [howner] at hk
      exact halive k (Option.some.inj hk)

/-- **A slot has its holder**: it holds what its owner registered, if it has one. -/
def Toolkit.Held (w : Toolkit σ) (p : Point) : Prop :=
  ∀ o, owner p w.journal = some o → Stands p w.journal (some o) (w.screen.slot p).content

/-- **Every step keeps the holder of a slot**, whatever actions the client gives to handles. -/
theorem Step.held (hs : v.Sound) (hb : v.Backed) (hp : p.site.isShared = false) (hv : v.Held p)
    (h : Step m v w) : w.Held p := by
  intro o ho
  cases h.hands hs hb hp with
  | stays howner hslot =>
    rw [howner] at ho
    rw [hslot]
    exact (hv o ho).mono h.grows.journal
  | empties howner | disposes _ _ _ howner =>
    rw [howner] at ho
    cases ho
  | passes o' howner hstands =>
    rw [howner] at ho
    cases ho
    exact hstands

end WidgetStreams
