import WidgetStreams.Proofs.Step

/-!
# Handles and bridges under fresh numbers

This file proves what holds of a toolkit at every moment, whatever a program
does: numbers are never given out twice, and whatever refers to a handle or to
a bridge refers to one that there is.

## Main definitions

- `Grows` — what is never taken back
- `Toolkit.Sound` — every reference leads somewhere

## Main results

- `Step.grows`, `Steps.grows` — nothing is taken back
- `Step.sound`, `Steps.sound` — references stay sound
-/

namespace WidgetStreams

open History

variable {σ : Type} {m : Manners} {v w u : Toolkit σ}

/-- **Growth**: handles and bridges stay, a disposed handle stays disposed, a bridge stays with its
    handle, and the journal keeps its entries. -/
structure Grows (v w : Toolkit σ) : Prop where
  hasHandle : ∀ {h}, v.HasHandle h → w.HasHandle h
  disposed : ∀ {h}, v.disposed h = true → w.disposed h = true
  hasBridge : ∀ {b}, v.HasBridge b → w.HasBridge b
  handle : ∀ {b}, v.HasBridge b → (w.bridges.get b).handle = (v.bridges.get b).handle
  journal : v.journal <:+ w.journal

theorem Toolkit.hasHandle_of_disposed {h : HandleId} (hd : w.disposed h = true) :
    w.HasHandle h := by
  by_contra hh
  have hn : w.handles.find? h = none := Option.not_isSome_iff_eq_none.mp hh
  rw [Toolkit.disposed, Registry.get, hn] at hd
  cases hd

theorem History.Occurred.mono {e : Event} (h : Occurred e v.journal)
    (hj : v.journal <:+ w.journal) : Occurred e w.journal := by
  obtain ⟨x, hx, he⟩ := h
  exact ⟨x, hj.subset hx, he⟩

theorem History.Enrolled.mono {b : BridgeId} {binding : Binding} {owner : Nat} {judge : Judge}
    (h : Enrolled b binding owner judge v.journal) (hj : v.journal <:+ w.journal) :
    Enrolled b binding owner judge w.journal := by
  obtain ⟨k, key, hs, hr⟩ := h
  exact ⟨k, key, hs.mono hj, hr.mono hj⟩

namespace Grows

theorem refl (w : Toolkit σ) : Grows w w := ⟨id, id, id, fun _ => rfl, List.suffix_refl _⟩

theorem trans (h : Grows v w) (h' : Grows w u) : Grows v u where
  hasHandle hh := h'.hasHandle (h.hasHandle hh)
  disposed hd := h'.disposed (h.disposed hd)
  hasBridge hb := h'.hasBridge (h.hasBridge hb)
  handle hb := (h'.handle (h.hasBridge hb)).trans (h.handle hb)
  journal := h.journal.trans h'.journal

theorem noted (w : Toolkit σ) (e : Event) : Grows w (w.noted e) :=
  ⟨id, id, id, fun _ => rfl, List.suffix_cons _ _⟩

theorem notedAll (w : Toolkit σ) (es : List Event) : Grows w (w.notedAll es) :=
  ⟨id, id, id, fun _ => rfl, List.suffix_append _ _⟩

theorem withScreen (w : Toolkit σ) (f : Screen → Screen) : Grows w (w.withScreen f) :=
  ⟨id, id, id, fun _ => rfl, List.suffix_refl _⟩

theorem showing (w : Toolkit σ) (s : Screen) : Grows w (w.showing s) :=
  ⟨id, id, id, fun _ => rfl, List.suffix_refl _⟩

/-- What is noted while the screen changes takes nothing back. -/
theorem telling (w : Toolkit σ) (s : Screen) (es : List Event) :
    Grows w ((w.showing s).notedAll es) :=
  (showing w s).trans (notedAll _ _)

theorem withHandle (w : Toolkit σ) (h : HandleId) {f : Handle → Handle}
    (hf : ∀ x, x.disposed = true → (f x).disposed = true) : Grows w (w.withHandle h f) where
  hasHandle {k} hk := by
    by_cases e : h = k <;> simp_all [Toolkit.HasHandle, Toolkit.withHandle]
  disposed {k} hk := by
    by_cases e : h = k <;> simp_all [Toolkit.disposed, Toolkit.withHandle]
  hasBridge := id
  handle _ := rfl
  journal := List.suffix_refl _

theorem withBridge (w : Toolkit σ) (b : BridgeId) {f : Bridge → Bridge}
    (hf : ∀ x, (f x).handle = x.handle) : Grows w (w.withBridge b f) where
  hasHandle := id
  disposed := id
  hasBridge {k} hk := by
    by_cases e : b = k <;> simp_all [Toolkit.HasBridge, Toolkit.withBridge]
  handle {k} _ := by
    by_cases e : b = k <;> simp_all [Toolkit.withBridge]
  journal := List.suffix_refl _

theorem addingHandle (w : Toolkit σ) (x : Handle) : Grows w (w.addingHandle x) where
  hasHandle hk := by
    rw [Toolkit.HasHandle, Toolkit.addingHandle, Registry.find?_add_of_isSome hk]
    exact hk
  disposed hk := by
    have hh := Toolkit.hasHandle_of_disposed hk
    rw [Toolkit.disposed, Registry.get, Toolkit.addingHandle, Registry.find?_add_of_isSome hh]
    exact hk
  hasBridge := id
  handle _ := rfl
  journal := List.suffix_refl _

theorem opening (w : Toolkit σ) (observer : Observer) : Grows w (w.opening observer) where
  hasHandle := (addingHandle w {}).hasHandle
  disposed := (addingHandle w {}).disposed
  hasBridge hk := by
    rw [Toolkit.HasBridge, Toolkit.opening, Registry.find?_add_of_isSome hk]
    exact hk
  handle hk := by
    rw [Registry.get, Toolkit.opening, Registry.find?_add_of_isSome hk, Registry.get]
  journal := List.suffix_refl _

theorem starting (w : Toolkit σ) (b : BridgeId) (signal : Signal) :
    Grows w (w.starting b signal) := by
  refine trans (withBridge w b ?_) (notedAll _ _)
  exact fun _ => rfl

theorem queueing (w : Toolkit σ) (b : BridgeId) (signal : Signal) :
    Grows w (w.queueing b signal) := by
  refine trans (withBridge w b ?_) (noted _ _)
  exact fun _ => rfl

theorem advancing (w : Toolkit σ) (b : BridgeId) (signal : Signal) (rest : List Signal) :
    Grows w (w.advancing b signal rest) := by
  refine trans (withBridge w b ?_) (noted _ _)
  exact fun _ => rfl

theorem releasing (w : Toolkit σ) (h : HandleId) (action : Release) :
    Grows w (w.releasing h action) :=
  (withScreen w _).trans (noted _ _)

theorem disposing (w : Toolkit σ) (h : HandleId) : Grows w (w.disposing h) := by
  have hmarked :
      Grows w ((w.withHandle h fun x => { x with disposed := true, action := none }).noted
      (.disposed h)) := (withHandle w h fun _ _ => rfl).trans (noted _ _)
  simp only [Toolkit.disposing]
  split
  · exact hmarked
  · exact hmarked.trans (releasing _ _ _)

theorem arming (w : Toolkit σ) (h : HandleId) (action : Release) :
    Grows w (w.arming h action) := by
  simp only [Toolkit.arming]
  split
  · exact (noted _ _).trans (releasing _ _ _)
  · exact (noted _ _).trans (withHandle _ h fun _ hx => hx)

theorem registering (w : Toolkit σ) (h : HandleId) (b : BridgeId) (binding : Binding)
    (owner : Nat) (judge : Judge) : Grows w (w.registering h b binding owner judge) := by
  have hinstalled := withScreen w fun s =>
    (s.install (binding.point owner) (.forward binding b judge)).2
  exact (hinstalled.trans (noted _ _)).trans (arming _ _ _)

theorem of_aside (h : Aside v w) : Grows v w where
  hasHandle hh := by rw [Toolkit.HasHandle, h.handles]; exact hh
  disposed hd := by rw [Toolkit.disposed, h.handles]; exact hd
  hasBridge hb := by rw [Toolkit.HasBridge, h.bridges]; exact hb
  handle _ := by rw [h.bridges]
  journal := h.journal ▸ List.suffix_refl _

end Grows

/-- Undoing a registration registers nothing. -/
theorem Release.holds_of_undone {action : Release} {s : Screen} {p : Point}
    {listener : Listener} (h : (action.undone s).Holds p listener) : s.Holds p listener := by
  cases action with
  | client => exact h
  | detach source key =>
    cases source with
    | widget => exact h.of_uninstall
    | client => exact h

/-- No step takes anything back. -/
theorem Step.grows (h : Step m v w) : Grows v w := by
  cases h with
  | note => exact .noted _ _
  | change h => exact .of_aside h
  | newHandle => exact .addingHandle _ _
  | dispose => exact .disposing _ _
  | arm => exact .arming _ _ _
  | newBridge => exact .opening _ _
  | start => exact (Grows.telling _ _ _).trans (.starting _ _ _)
  | queue => exact (Grows.telling _ _ _).trans (.queueing _ _ _)
  | comeBack => exact .noted _ _
  | advance => exact .advancing _ _ _ _
  | drop => exact .withBridge _ _ fun _ => rfl
  | finish => exact .withBridge _ _ fun _ => rfl
  | unwind => exact .withBridge _ _ fun _ => rfl
  | subscribe => exact ((Grows.opening _ _).trans (.noted _ _)).trans (.starting _ _ _)
  | withdraw => exact .noted _ _
  | attach => exact .noted _ _
  | registerWidget => exact (Grows.registering _ _ _ _ _ _).trans (.noted _ _)
  | registerWarm =>
    exact ((Grows.registering _ _ _ _ _ _).trans (.noted _ _)).trans (.starting _ _ _)
  | registerClient => exact (Grows.noted _ _).trans (.arming _ _ _)
  | attached => exact .noted _ _
  | conclude => exact .noted _ _
  | listen => exact (Grows.withScreen _ _).trans (.noted _ _)
  | unlisten => exact (Grows.withScreen _ _).trans (.noted _ _)
  | removeListener => exact (Grows.withScreen _ _).trans (.noted _ _)
  | pass => exact (Grows.showing _ _).trans (.noted _ _)
  | hear | operate => exact .noted _ _
  | alter => exact (Grows.showing _ _).trans (.noted _ _)
  | flag => exact (Grows.withScreen _ _).trans (.noted _ _)

/-- No number of steps takes anything back. -/
theorem Steps.grows (h : Steps m v w) : Grows v w := by
  induction h with
  | refl => exact .refl _
  | tail _ h ih => exact ih.trans h.grows

namespace Toolkit

/-- What an event is about is there. -/
def Knows (w : Toolkit σ) : Event → Prop
  | .accepted b _ _ | .began b _ | .ended b => w.HasBridge b
  | .subscribing h b _ => w.HasBridge b ∧ (w.bridges.get b).handle = h
  | .disposed h | .armed h _ | .releasing h _ | .withdrawn h | .attaching h _ | .registered h _ _
  | .attached h _ _ | .concluded h => w.HasHandle h
  | _ => True

/-- A listener of a subscription stands where the subscription was registered. -/
def Placed (w : Toolkit σ) (p : Point) : Listener → Prop
  | .forward binding b judge =>
    binding.site = p.site ∧ Enrolled b binding p.owner judge w.journal
  | _ => True

/-- **Soundness**: numbers that are not given out yet stand for nothing, and whatever is referred to
    is there. -/
structure Sound (w : Toolkit σ) : Prop where
  freshHandles : ∀ k, w.handles.next ≤ k → w.handles.find? k = none
  freshBridges : ∀ k, w.bridges.next ≤ k → w.bridges.find? k = none
  owned : ∀ {b}, w.HasBridge b → w.HasHandle (w.bridges.get b).handle
  knows : ∀ {e}, Occurred e w.journal → w.Knows e
  placed : ∀ {p listener}, w.screen.Holds p listener → w.Placed p listener
  held : ∀ {s h}, h ∈ w.scopes.get s → w.HasHandle h

/-- A toolkit with nothing but a client's state is sound. -/
theorem sound_start (client : σ) : ({ client := client } : Toolkit σ).Sound where
  freshHandles _ _ := rfl
  freshBridges _ _ := rfl
  owned h := by cases h
  knows h := absurd h (not_occurred_nil _)
  placed h := by obtain h | h := h <;> cases h
  held h := by cases h

theorem Knows.mono {e : Event} (h : v.Knows e) (hg : Grows v w) : w.Knows e := by
  cases e with
  | accepted | began | ended => exact hg.hasBridge h
  | subscribing => exact ⟨hg.hasBridge h.1, (hg.handle h.1).trans h.2⟩
  | disposed | armed | releasing | withdrawn | attaching | registered | attached | concluded =>
    exact hg.hasHandle h
  | _ => trivial

theorem Placed.mono {p : Point} {listener : Listener} (h : v.Placed p listener)
    (hg : Grows v w) : w.Placed p listener := by
  cases listener with
  | forward => exact ⟨h.1, h.2.mono hg.journal⟩
  | _ => trivial

theorem knows_of_isAside {e : Event} (he : e.isAside = true) : w.Knows e := by
  cases e <;> trivial

namespace Sound

theorem noted (hs : w.Sound) {e : Event} (he : w.Knows e) : (w.noted e).Sound where
  freshHandles := hs.freshHandles
  freshBridges := hs.freshBridges
  owned := hs.owned
  knows ho := by
    obtain rfl | ho := occurred_cons.mp ho
    · exact he.mono (.noted _ _)
    · exact (hs.knows ho).mono (.noted _ _)
  placed hl := (hs.placed hl).mono (.noted _ _)
  held := hs.held

theorem notedAll (hs : w.Sound) {es : List Event} (he : ∀ e ∈ es, w.Knows e) :
    (w.notedAll es).Sound := by
  induction es generalizing w with
  | nil => exact hs
  | cons e es ih =>
    rw [notedAll_cons]
    refine ih (hs.noted (he e List.mem_cons_self)) fun a ha => ?_
    exact (he a (List.mem_cons_of_mem _ ha)).mono (.noted _ _)

theorem withScreen (hs : w.Sound) {f : Screen → Screen}
    (hf : ∀ {p l}, (f w.screen).Holds p l → w.screen.Holds p l ∨ w.Placed p l) :
    (w.withScreen f).Sound where
  freshHandles := hs.freshHandles
  freshBridges := hs.freshBridges
  owned := hs.owned
  knows ho := (hs.knows ho).mono (.withScreen _ _)
  placed hl := ((hf hl).elim hs.placed id).mono (.withScreen _ _)
  held := hs.held

theorem showing (hs : w.Sound) {s : Screen} (slots : s.slots = w.screen.slots)
    (rosters : s.rosters = w.screen.rosters) : (w.showing s).Sound :=
  hs.withScreen (f := fun _ => s) fun {p l} hl => .inl <| by
    simpa [Screen.Holds, Screen.slot, Screen.roster, slots, rosters] using hl

/-- The handle exists, so no fresh number is touched. -/
theorem withHandle (hs : w.Sound) {h : HandleId} (hh : w.HasHandle h) {f : Handle → Handle}
    (hf : ∀ x, x.disposed = true → (f x).disposed = true) : (w.withHandle h f).Sound where
  freshHandles k hk := by
    have hn := hs.freshHandles k hk
    have hne : h ≠ k := by
      rintro rfl
      rw [HasHandle, hn] at hh
      cases hh
    rw [Toolkit.withHandle, Registry.find?_modify, if_neg hne]
    exact hn
  freshBridges := hs.freshBridges
  owned hb := (Grows.withHandle w h hf).hasHandle (hs.owned hb)
  knows ho := (hs.knows ho).mono (.withHandle w h hf)
  placed hl := (hs.placed hl).mono (.withHandle w h hf)
  held hl := (Grows.withHandle w h hf).hasHandle (hs.held hl)

theorem withBridge (hs : w.Sound) {b : BridgeId} (hb : w.HasBridge b) {f : Bridge → Bridge}
    (hf : ∀ x, (f x).handle = x.handle) : (w.withBridge b f).Sound where
  freshHandles := hs.freshHandles
  freshBridges k hk := by
    have hn := hs.freshBridges k hk
    have hne : b ≠ k := by
      rintro rfl
      rw [HasBridge, hn] at hb
      cases hb
    rw [Toolkit.withBridge, Registry.find?_modify, if_neg hne]
    exact hn
  owned {k} hk := by
    have hk' : w.HasBridge k := by
      by_cases e : b = k
      · exact e ▸ hb
      · simpa [HasBridge, Toolkit.withBridge, e] using hk
    rw [(Grows.withBridge w b hf).handle hk']
    exact hs.owned hk'
  knows ho := (hs.knows ho).mono (.withBridge w b hf)
  placed hl := (hs.placed hl).mono (.withBridge w b hf)
  held := hs.held

theorem find?_addingHandle (hs : w.Sound) (x : Handle) (k : HandleId) :
    (w.addingHandle x).handles.find? k =
      if w.handles.next = k then some x else w.handles.find? k :=
  Registry.find?_add (hs.freshHandles _ (Nat.le_refl _)) x k

theorem addingHandle (hs : w.Sound) (x : Handle) : (w.addingHandle x).Sound where
  freshHandles k hk := by
    have hk' : w.handles.next + 1 ≤ k := hk
    rw [hs.find?_addingHandle x k, if_neg (by omega)]
    exact hs.freshHandles k (by omega)
  freshBridges := hs.freshBridges
  owned hb := (Grows.addingHandle w x).hasHandle (hs.owned hb)
  knows ho := (hs.knows ho).mono (.addingHandle w x)
  placed hl := (hs.placed hl).mono (.addingHandle w x)
  held hl := (Grows.addingHandle w x).hasHandle (hs.held hl)

theorem find?_opening (hs : w.Sound) (observer : Observer) (k : BridgeId) :
    (w.opening observer).bridges.find? k =
      if w.bridges.next = k then some { handle := w.handles.next, observer := observer }
      else w.bridges.find? k :=
  Registry.find?_add (hs.freshBridges _ (Nat.le_refl _)) _ k

theorem opening (hs : w.Sound) (observer : Observer) : (w.opening observer).Sound where
  freshHandles := (hs.addingHandle {}).freshHandles
  freshBridges k hk := by
    have hk' : w.bridges.next + 1 ≤ k := hk
    rw [hs.find?_opening observer k, if_neg (by omega)]
    exact hs.freshBridges k (by omega)
  owned {k} hk := by
    have hnew : (w.opening observer).HasHandle w.handles.next := by
      have hf := hs.find?_addingHandle {} w.handles.next
      rw [if_pos rfl] at hf
      exact Option.isSome_iff_exists.mpr ⟨_, hf⟩
    have hf := hs.find?_opening observer k
    by_cases e : w.bridges.next = k
    · rw [if_pos e] at hf
      rw [Registry.get, hf]
      exact hnew
    · rw [if_neg e] at hf
      have hk' : w.HasBridge k := by rw [HasBridge, ← hf]; exact hk
      rw [(Grows.opening w observer).handle hk']
      exact (Grows.opening w observer).hasHandle (hs.owned hk')
  knows ho := (hs.knows ho).mono (.opening w observer)
  placed hl := (hs.placed hl).mono (.opening w observer)
  held hl := (Grows.opening w observer).hasHandle (hs.held hl)

theorem of_aside (hs : v.Sound) (h : Aside v w) : w.Sound where
  freshHandles := by rw [h.handles]; exact hs.freshHandles
  freshBridges := by rw [h.bridges]; exact hs.freshBridges
  owned hb := by
    rw [HasHandle, h.bridges, h.handles]
    exact hs.owned (by rwa [HasBridge, h.bridges] at hb)
  knows ho := (hs.knows (by rwa [h.journal] at ho)).mono (.of_aside h)
  placed {p l} hl := by
    have hl' : v.screen.Holds p l := by
      simpa [Screen.Holds, Screen.slot, Screen.roster, h.slots, h.rosters] using hl
    exact (hs.placed hl').mono (.of_aside h)
  held {s k} hk := by
    obtain hk | hk := h.held s k hk
    · exact (Grows.of_aside h).hasHandle (hs.held hk)
    · exact (Grows.of_aside h).hasHandle hk

theorem starting (hs : w.Sound) {b : BridgeId} (hb : w.HasBridge b) (signal : Signal) :
    (w.starting b signal).Sound := by
  refine (hs.withBridge hb ?_).notedAll fun e he => ?_
  · exact fun _ => rfl
  · have hb' := (Grows.starting w b signal).hasBridge hb
    simp only [List.mem_cons, List.not_mem_nil, or_false] at he
    obtain rfl | rfl := he
    · exact hb'
    · exact hb'

theorem queueing (hs : w.Sound) {b : BridgeId} (hb : w.HasBridge b) (signal : Signal) :
    (w.queueing b signal).Sound := by
  refine (hs.withBridge hb ?_).noted ?_
  · exact fun _ => rfl
  · exact (Grows.queueing w b signal).hasBridge hb

theorem advancing (hs : w.Sound) {b : BridgeId} (hb : w.HasBridge b) (signal : Signal)
    (rest : List Signal) : (w.advancing b signal rest).Sound := by
  refine (hs.withBridge hb ?_).noted ?_
  · exact fun _ => rfl
  · exact (Grows.advancing w b signal rest).hasBridge hb

theorem dropping (hs : w.Sound) {b : BridgeId} (hb : w.HasBridge b) : (w.dropping b).Sound :=
  hs.withBridge hb fun _ => rfl

theorem finishing (hs : w.Sound) {b : BridgeId} (hb : w.HasBridge b) : (w.finishing b).Sound :=
  hs.withBridge hb fun _ => rfl

theorem releasing (hs : w.Sound) {h : HandleId} (hh : w.HasHandle h) (action : Release) :
    (w.releasing h action).Sound :=
  (hs.withScreen fun hl => .inl (Release.holds_of_undone hl)).noted hh

theorem disposing (hs : w.Sound) {h : HandleId} (hh : w.HasHandle h) : (w.disposing h).Sound := by
  have hg := Grows.withHandle w h (f := fun x => { x with disposed := true, action := none })
    fun _ _ => rfl
  have hmarked := (hs.withHandle hh (f := fun x => { x with disposed := true, action := none })
    fun _ _ => rfl).noted (e := .disposed h) (hg.hasHandle hh)
  simp only [Toolkit.disposing]
  split
  · exact hmarked
  · exact hmarked.releasing (hg.hasHandle hh) _

theorem arming (hs : w.Sound) {h : HandleId} (hh : w.HasHandle h) (action : Release) :
    (w.arming h action).Sound := by
  have harmed := hs.noted (e := .armed h action) hh
  simp only [Toolkit.arming]
  split
  · exact harmed.releasing hh _
  · exact harmed.withHandle hh fun _ hx => hx

theorem registering (hs : w.Sound) {h : HandleId} {b : BridgeId} {binding : Binding} {owner : Nat}
    {judge : Judge} (hh : w.HasHandle h)
    (ho : Occurred (.subscribing h b (.widget binding owner judge)) w.journal) :
    (w.registering h b binding owner judge).Sound := by
  have hnoted := hs.noted (e := .registered h (.widget binding owner judge)
    (w.screen.install (binding.point owner) (.forward binding b judge)).1) hh
  have hinstalled := hnoted.withScreen
    (f := fun s => (s.install (binding.point owner) (.forward binding b judge)).2) fun hl => by
      obtain hl | ⟨rfl, rfl⟩ := hl.of_install
      · exact .inl hl
      · exact .inr ⟨rfl, h, _, occurred_cons.mpr (.inr ho), occurred_cons.mpr (.inl rfl)⟩
  exact hinstalled.arming hh _

end Sound

end Toolkit

/-- A bridge that delivers is there. -/
theorem Toolkit.hasBridge_of_delivering {b : BridgeId} (hd : w.delivering b ≠ none) :
    w.HasBridge b := by
  by_contra hb
  have hn : w.bridges.find? b = none := Option.not_isSome_iff_eq_none.mp hb
  rw [Toolkit.delivering, Registry.get, hn] at hd
  exact hd rfl

/-- A subscription that has come anywhere has a handle. -/
theorem Toolkit.Sound.hasHandle_of_subscribing (hs : w.Sound) {h : HandleId} {b : BridgeId}
    {source : Source} {rest : List Event}
    (hm : milestones h w.journal = .subscribing h b source :: rest) :
    w.HasHandle h ∧ Occurred (.subscribing h b source) w.journal := by
  have ho : Occurred (.subscribing h b source) w.journal :=
    (mem_milestones.mp (hm ▸ List.mem_cons_self)).1
  obtain ⟨hb, rfl⟩ := hs.knows ho
  exact ⟨hs.owned hb, ho⟩

/-- What the journal says before a bridge takes a signal is about nothing new. -/
theorem Cause.knows {b : BridgeId} {s : Screen} {signal : Signal} {notes : List Event}
    (h : Cause m w b s signal notes) : ∀ e ∈ notes, w.Knows e := by
  cases h <;> simp [Toolkit.Knows]

/-- What a widget changes before it tells of an event is no registration. -/
theorem Cause.registrations {b : BridgeId} {s : Screen} {signal : Signal} {notes : List Event}
    (h : Cause m w b s signal notes) :
    s.slots = w.screen.slots ∧ s.rosters = w.screen.rosters := by
  cases h with
  | slot turn => exact ⟨turn.slots, turn.rosters⟩
  | _ => exact ⟨rfl, rfl⟩

theorem Screen.slot_congr {s t : Screen} (h : s.slots = t.slots) (p : Point) :
    s.slot p = t.slot p := by
  rw [Screen.slot, h]
  rfl

/-- A toolkit that is about to tell of an event is sound. -/
theorem Toolkit.Sound.telling (hs : w.Sound) {b : BridgeId} {s : Screen} {signal : Signal}
    {notes : List Event} (cause : Cause m w b s signal notes) :
    ((w.showing s).notedAll notes).Sound :=
  (hs.showing cause.registrations.1 cause.registrations.2).notedAll cause.knows

/-- Every step keeps references sound. -/
theorem Step.sound (hs : v.Sound) (h : Step m v w) : w.Sound := by
  cases h with
  | note he => exact hs.noted (Toolkit.knows_of_isAside he)
  | change h => exact hs.of_aside h
  | newHandle => exact hs.addingHandle _
  | dispose hh => exact hs.disposing hh
  | arm hh => exact hs.arming hh _
  | newBridge => exact hs.opening _
  | start hb _ _ cause =>
    exact (hs.telling cause).starting ((Grows.telling v _ _).hasBridge hb) _
  | queue _ hb _ _ cause =>
    exact (hs.telling cause).queueing ((Grows.telling v _ _).hasBridge hb) _
  | comeBack _ hd => exact hs.noted (Toolkit.hasBridge_of_delivering hd)
  | advance _ hd => exact hs.advancing (Toolkit.hasBridge_of_delivering hd) _ _
  | drop _ hd => exact hs.dropping (Toolkit.hasBridge_of_delivering hd)
  | finish _ hd => exact hs.finishing (Toolkit.hasBridge_of_delivering hd)
  | unwind _ _ hd => exact hs.finishing (Toolkit.hasBridge_of_delivering hd)
  | subscribe source observer =>
    have hf := hs.find?_opening observer v.bridges.next
    rw [if_pos rfl] at hf
    have hb : (v.opening observer).HasBridge v.bridges.next :=
      Option.isSome_iff_exists.mpr ⟨_, hf⟩
    have hh : ((v.opening observer).bridges.get v.bridges.next).handle = v.handles.next := by
      rw [Registry.get, hf]
      rfl
    have hnoted := (hs.opening observer).noted
      (e := .subscribing v.handles.next v.bridges.next source) ⟨hb, hh⟩
    exact hnoted.starting hb _
  | withdraw hm => exact hs.noted (hs.hasHandle_of_subscribing hm).1
  | attach hm => exact hs.noted (hs.hasHandle_of_subscribing hm).1
  | @registerWidget h b binding owner judge hm hd =>
    obtain ⟨hh, ho⟩ := hs.hasHandle_of_subscribing hm
    have hg := Grows.registering v h b binding owner judge
    exact (hs.registering hh ho).noted (e := .attached h _ false) (hg.hasHandle hh)
  | @registerWarm h b binding owner judge hm hd hc hi =>
    obtain ⟨hh, ho⟩ := hs.hasHandle_of_subscribing hm
    have hg := Grows.registering v h b binding owner judge
    have hnoted := (hs.registering hh ho).noted
      (e := .attached h (v.keyOf b binding owner judge) true) (hg.hasHandle hh)
    exact hnoted.starting (hg.hasBridge (hs.knows ho).1) _
  | @registerClient h b callback thread key hm =>
    have hh := (hs.hasHandle_of_subscribing hm).1
    exact (hs.noted (e := .registered h (.client callback thread) key) hh).arming hh _
  | attached _ hm => exact hs.noted (hs.hasHandle_of_subscribing hm).1
  | conclude hm =>
    obtain hm | ⟨key, warm, hm⟩ := hm
    · exact hs.noted (hs.hasHandle_of_subscribing hm).1
    · exact hs.noted (hs.hasHandle_of_subscribing hm).1
  | listen hl =>
    refine (hs.withScreen fun h => ?_).noted trivial
    obtain h | ⟨rfl, rfl⟩ := h.of_install
    · exact .inl h
    · next listener =>
      cases listener with
      | forward => cases hl
      | _ => exact .inr trivial
  | unlisten => exact (hs.withScreen fun h => .inl h.of_clearListener).noted trivial
  | removeListener => exact (hs.withScreen fun h => .inl h.of_removeListener).noted trivial
  | pass turn => exact (hs.showing turn.slots turn.rosters).noted trivial
  | hear | operate => exact hs.noted trivial
  | alter h => exact (hs.showing h.slots h.rosters).noted trivial
  | flag => exact (hs.withScreen fun h => .inl h).noted trivial

/-- Any number of steps keeps references sound. -/
theorem Steps.sound (hs : v.Sound) (h : Steps m v w) : w.Sound := by
  induction h with
  | refl => exact hs
  | tail _ h ih => exact h.sound ih

end WidgetStreams
