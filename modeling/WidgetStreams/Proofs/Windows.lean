import WidgetStreams.Proofs.Befalling

/-!
# What subscriptions at a slot receive

This file proves that a subscription at a point for one listener receives the
native events that came while it had the slot, after the value with which it
started, and nothing else.

## Main definitions

- `History.View`, `View.Fits` — what a subscription received, and what it should have received
- `Toolkit.ReachesOwners`, `Toolkit.ReachesHolders` — what comes to a slot reaches its owner
- `Toolkit.Refines` — a slot behaves as its owner says

## Main results

- `Step.windowed` — every step keeps what subscriptions received
- `Code.slots_follow_owners` — slots behave as their owners say

## Design notes

The results on values need callbacks that make no bridge take a signal, so that
no signal waits and every event is delivered when it comes.
-/

namespace WidgetStreams

open History

-- ════════════════════════════════════════════════════════════════════════
-- What a subscription received
-- ════════════════════════════════════════════════════════════════════════

/-- The value that a signal hands over. -/
def Signal.value? : Signal → Option Payload
  | .next value => some value
  | _ => none

/-- Whether an event is none of what comes to a slot, of what a certain bridge hands over, and of
    the start of its subscription with a value. -/
def Event.isUnseen (h : HandleId) (b : BridgeId) : Event → Bool
  | .began bridge (.next _) => bridge != b
  | .attached handle _ warm => handle != h || !warm
  | .dispatched _ _ _ => false
  | _ => true

theorem Event.isUnseen_of_isForeign {h : HandleId} {b : BridgeId} {e : Event}
    (he : e.isForeign h b = true) : e.isUnseen h b = true := by
  cases e with
  | dispatched => cases he
  | began c signal => cases signal <;> exact he
  | attached => exact he
  | _ => rfl

namespace History

/-- The values with which a bridge called its observer. -/
def values (b : BridgeId) (j : List Entry) : List Payload := (began b j).filterMap Signal.value?

/-- The subscription with a handle started with a value. -/
def warmed (h : HandleId) (j : List Entry) : Bool :=
  j.any fun x =>
    match x.event with
    | .attached handle _ true => handle == h
    | _ => false

/-- **What the journal tells of a subscription** at a point. -/
structure View where
  /-- The values that were handed over. -/
  values : List Payload
  /-- The native events that came while the subscription had the slot. -/
  window : List NativeEvent
  /-- The subscription started with a value. -/
  warmed : Bool

/-- What the journal tells of the subscription with handle `h` and bridge `b`. -/
def view (p : Point) (h : HandleId) (b : BridgeId) (j : List Entry) : View :=
  ⟨values b j, window p h j, warmed h j⟩

/-- **The values fit the window**: first the value with which the subscription started, if it did,
    and then what the binding makes of the events, one after the other. -/
def View.Fits (binding : Binding) (s : View) : Prop :=
  ∃ initial : Option Payload, initial.isSome = s.warmed ∧
    s.values = initial.toList ++ s.window.filterMap binding.payload?

variable {p : Point} {h : HandleId} {b : BridgeId} {j : List Entry} {t : Thread}

namespace View.Fits

variable {binding : Binding} {s : View} {e : NativeEvent}

/-- An event of the kind of the binding is handed over. -/
theorem deliver (hs : s.Fits binding) {value : Payload} (hv : binding.payload? e = some value) :
    View.Fits binding { s with values := s.values ++ [value], window := s.window ++ [e] } := by
  obtain ⟨initial, hi, hvalues⟩ := hs
  refine ⟨initial, hi, ?_⟩
  rw [hvalues, List.filterMap_append, List.append_assoc]
  simp [hv]

/-- An event of another kind is not. -/
theorem pass (hs : s.Fits binding) (hv : binding.payload? e = none) :
    View.Fits binding { s with window := s.window ++ [e] } := by
  obtain ⟨initial, hi, hvalues⟩ := hs
  refine ⟨initial, hi, ?_⟩
  rw [hvalues, List.filterMap_append]
  simp [hv]

/-- The value with which a subscription starts comes before all events. -/
theorem warm (hs : s.Fits binding) (hw : s.window = []) (hc : s.warmed = false) (value : Payload) :
    View.Fits binding { s with values := s.values ++ [value], warmed := true } := by
  obtain ⟨initial, hi, hvalues⟩ := hs
  rw [hc, Option.isSome_eq_false_iff, Option.isNone_iff_eq_none] at hi
  refine ⟨some value, rfl, ?_⟩
  rw [hvalues, hw, hi]
  rfl

end View.Fits

theorem values_cons {x : Entry} (hx : mark? b x.event = none) : values b (x :: j) = values b j := by
  simp [values, began, marks, hx]

/-- The value of a signal is handed over when the call with it begins. -/
theorem values_cons_began {c : BridgeId} {signal : Signal} :
    values b (⟨t, .began c signal⟩ :: j) =
      values b j ++ if c = b then signal.value?.toList else [] := by
  by_cases e : c = b <;> cases signal <;>
    simp [values, began, marks, mark?, Mark.signal?, Signal.value?, e]

/-- Nothing is handed over when a call comes back. -/
theorem values_cons_ended {c : BridgeId} : values b (⟨t, .ended c⟩ :: j) = values b j := by
  by_cases e : c = b <;> simp [values, began, marks, mark?, Mark.signal?, e]

theorem view_cons_of_isUnseen {x : Entry} (hx : x.event.isUnseen h b = true) :
    view p h b (x :: j) = view p h b j := by
  obtain ⟨t, e⟩ := x
  cases e with
  | dispatched => cases hx
  | began c signal =>
    have hnone : (if c = b then signal.value?.toList else []) = [] := by
      cases signal with
      | next value => exact if_neg (by simpa [Event.isUnseen] using hx)
      | _ => exact ite_self _
    simp only [view, values_cons_began, hnone, List.append_nil]
    rfl
  | attached k key warm =>
    have hwarmed : warmed h (⟨t, .attached k key warm⟩ :: j) = warmed h j := by
      cases warm with
      | false => rfl
      | true =>
        have hne : k ≠ h := by simpa [Event.isUnseen] using hx
        simp [warmed, hne]
    simp only [view, hwarmed]
    rfl
  | ended c =>
    simp only [view, values_cons_ended]
    rfl
  | _ => rfl

theorem view_cons_began {value : Payload} : view p h b (⟨t, .began b (.next value)⟩ :: j) =
    { view p h b j with values := (view p h b j).values ++ [value] } := by
  simp only [view, values_cons_began, if_pos]
  rfl

theorem view_cons_dispatched {q : Point} {e : NativeEvent} {reached : Option Listener} :
    view p h b (⟨t, .dispatched q e reached⟩ :: j) =
      if q = p ∧ owner p j = some (.subscriber h) then
        { view p h b j with window := (view p h b j).window ++ [e] }
      else view p h b j := by
  simp only [view, values_cons (x := ⟨t, .dispatched q e reached⟩) rfl, window]
  split <;> rfl

theorem view_cons_attached {key : Option Nat} :
    view p h b (⟨t, .attached h key true⟩ :: j) = { view p h b j with warmed := true } := by
  have hvalues : values b (⟨t, .attached h key true⟩ :: j) = values b j := values_cons rfl
  simp only [view, hvalues, window, warmed, List.any_cons, BEq.rfl, Bool.true_or]

/-- A subscription that was not registered at a point had no window there. -/
theorem window_eq_nil (hm : member p h j = false) : window p h j = [] := by
  induction j with
  | nil => rfl
  | cons x j ih =>
    have hj : member p h j = false := by
      rw [← Bool.not_eq_true] at hm ⊢
      exact fun hj => hm (member_mono hj (List.suffix_cons _ _))
    rw [window]
    split
    · split
      · next ho =>
        rw [member_of_owner ho.2] at hj
        cases hj
      · exact ih hj
    · exact ih hj

/-- A subscription that is about to be registered is not registered yet. -/
theorem not_registered_of_milestones {source source' : Source} {key : Option Nat}
    (hm : milestones h j = [.subscribing h b source, .attaching h source]) :
    ¬ Occurred (.registered h source' key) j := by
  intro ho
  have hin := mem_milestones.mpr ⟨ho, rfl⟩
  rw [hm] at hin
  simp at hin

theorem member_of_milestones {source : Source}
    (hm : milestones h j = [.subscribing h b source, .attaching h source]) :
    member p h j = false := by
  rw [← Bool.not_eq_true, member_eq_true]
  rintro ⟨binding, n, judge, key, ho, -⟩
  exact not_registered_of_milestones hm ho

theorem warmed_of_milestones {source : Source}
    (hm : milestones h j = [.subscribing h b source, .attaching h source]) :
    warmed h j = false := by
  rw [warmed, List.any_eq_false]
  intro x hx he
  split at he
  · next k key hk =>
    obtain rfl := eq_of_beq he
    have hin := mem_milestones.mpr ⟨⟨x, hx, hk⟩, rfl⟩
    rw [hm] at hin
    simp at hin
  · cases he

end History

variable {σ τ α : Type} {m : Manners} {v w : Toolkit σ} {p : Point} {h k : HandleId} {b : BridgeId}
  {source : Source}

theorem History.view_notedAll {es : List Event} (hes : ∀ e ∈ es, e.isUnseen h b = true) :
    view p h b (w.notedAll es).journal = view p h b w.journal :=
  Toolkit.read_notedAll (fun e he _ _ hx => view_cons_of_isUnseen (hx ▸ hes e he)) w

/-- The registration of a subscription tells nothing of what it received. -/
theorem History.view_registering {c : BridgeId} {binding : Binding} {n : Nat} {judge : Judge}
    (hd : w.disposed k = false) :
    view p h b (w.registering k c binding n judge).journal = view p h b w.journal := by
  rw [Toolkit.journal_registering, view_notedAll]
  simp [hd, Event.isUnseen]

-- ════════════════════════════════════════════════════════════════════════
-- Nothing waits
-- ════════════════════════════════════════════════════════════════════════

/-- No signal waits at any bridge. -/
def Toolkit.Unqueued (w : Toolkit σ) : Prop := ∀ b, w.queue b = []

theorem Toolkit.Unqueued.withBridge (hw : w.Unqueued) (c : BridgeId) {f : Bridge → Bridge}
    (hf : ∀ x, x.queue = [] → (f x).queue = []) : (w.withBridge c f).Unqueued := by
  intro b
  rw [queue, get_withBridge]
  split
  · exact hf _ (hw b)
  · exact hw b

theorem Toolkit.Unqueued.opening (hw : w.Unqueued) (observer : Observer) :
    (w.opening observer).Unqueued := by
  intro b
  obtain he | he := w.bridges.get_add_or { handle := w.handles.next, observer := observer } b
  · exact (congrArg Bridge.queue he).trans (hw b)
  · exact congrArg Bridge.queue he

theorem Toolkit.Unqueued.starting (hw : w.Unqueued) (c : BridgeId) (signal : Signal) :
    (w.starting c signal).Unqueued := hw.withBridge c fun _ hx => hx

/-- **Nothing waits** if callbacks make no bridge take a signal. -/
theorem Step.unqueued (hm : m.signals = false) (hv : v.Unqueued) (h : Step m v w) :
    w.Unqueued := by
  have hsame : w.bridges = v.bridges → w.Unqueued := by
    intro hb b
    rw [Toolkit.queue, hb]
    exact hv b
  cases h with
  | change h => exact hsame h.bridges
  | newBridge observer => exact hv.opening observer
  | dispose => exact hsame (Toolkit.bridges_disposing _ _)
  | arm => exact hsame (Toolkit.bridges_arming _ _ _)
  | @start c s signal notes =>
    exact Toolkit.Unqueued.withBridge (w := (v.showing s).notedAll notes) hv c fun _ hx => hx
  | queue hsig =>
    rw [hm] at hsig
    cases hsig
  | @advance c signal rest hr hd hc hf hq =>
    rw [hv c] at hq
    cases hq
  | drop => exact hv.withBridge _ fun _ _ => rfl
  | finish => exact hv.withBridge _ fun _ hx => hx
  | unwind => exact hv.withBridge _ fun _ hx => hx
  | subscribe source observer => exact (hv.opening observer).withBridge _ fun _ hx => hx
  | registerWidget => exact hsame (Toolkit.bridges_registering _ _ _ _ _ _)
  | @registerWarm l c binding n judge =>
    have hregistered : ((v.registering l c binding n judge).noted
        (.attached l (v.keyOf c binding n judge) true)).Unqueued := by
      intro b
      change ((v.registering l c binding n judge).bridges.get b).queue = []
      rw [Toolkit.bridges_registering]
      exact hv b
    exact hregistered.starting c _
  | registerClient => exact hsame (Toolkit.bridges_arming _ _ _)
  | _ => exact hsame rfl

-- ════════════════════════════════════════════════════════════════════════
-- Values and windows
-- ════════════════════════════════════════════════════════════════════════

namespace Toolkit

/-- **A slot with the listener of a subscription** has the subscription as its owner. -/
theorem Owned.owner_eq (hw : w.Owned p) (hone : w.Single) (hs : w.Sound) {binding : Binding}
    {judge : Judge} (hc : (w.screen.slot p).content = some (.forward binding b judge))
    (ho : Occurred (.subscribing h b source) w.journal) :
    owner p w.journal = some (.subscriber h) := by
  have hstands := hw.stands
  rw [hc] at hstands
  obtain howner | ⟨_ | _, howner⟩ := Option.eq_none_or_eq_some (owner p w.journal) <;>
    rw [howner] at hstands
  · cases hstands
  · obtain ⟨hl, hraw⟩ := hstands
    cases hl
    cases hraw
  · obtain ⟨binding', c, judge', -, hl, hk⟩ := hstands
    cases hl
    rw [howner, (hone.of_bridge hs ho hk).1]

/-- **An owner that is a subscription** has its own listener in the slot. -/
theorem Owned.content_eq (hw : w.Owned p) (hone : w.Single) {binding : Binding} {judge : Judge}
    (howner : owner p w.journal = some (.subscriber h))
    (ho : Occurred (.subscribing h b (.widget binding p.owner judge)) w.journal) :
    (w.screen.slot p).content = some (.forward binding b judge) := by
  have hstands := hw.stands
  rw [howner] at hstands
  obtain ⟨binding', c, judge', -, hcontent, hk⟩ := hstands
  obtain ⟨rfl, hsource⟩ := hone _ _ _ _ _ ho hk
  cases hsource
  exact hcontent

/-- **Subscriptions received what they should**: what they received fits their windows. -/
def Windowed (w : Toolkit σ) (p : Point) : Prop :=
  ∀ h b binding judge, binding.site = p.site →
    Occurred (.subscribing h b (.widget binding p.owner judge)) w.journal →
      (view p h b w.journal).Fits binding

/-- What the journal tells of a subscription that is not there. -/
theorem Sound.view_eq (hs : w.Sound) (hh : ¬ w.HasHandle h) (hb : ¬ w.HasBridge b) :
    view p h b w.journal = ⟨[], [], false⟩ := by
  have hwindow : window p h w.journal = [] := by
    refine window_eq_nil ?_
    rw [← Bool.not_eq_true, member_eq_true]
    rintro ⟨binding, n, judge, key, ho, -⟩
    exact hh (hs.knows ho)
  have hwarmed : warmed h w.journal = false := by
    rw [warmed, List.any_eq_false]
    intro x hx he
    split at he
    · next k key hk =>
      obtain rfl := eq_of_beq he
      exact hh (hs.knows (e := .attached k key true) ⟨x, hx, hk⟩)
    · cases he
  rw [view, hwindow, hwarmed, values, began, hs.marks_eq_nil hb]
  rfl

end Toolkit

/-- **Every step keeps what subscriptions received**, if callbacks make no bridge take a signal and
    nobody else emits on the bridges of widgets. -/
theorem Step.windowed (hsig : m.signals = false) (hev : m.everywhere = false) (hs : v.Sound)
    (hone : v.Single) (hp : p.site.isShared = false) (hown : v.Owned p) (hq : v.Unqueued)
    (hv : v.Windowed p) (h : Step m v w) : w.Windowed p := by
  intro k b binding judge hsite how
  obtain ho | ⟨rfl, rfl, observer, rfl⟩ := h.occurred_subscribing hs how
  swap
  · -- the subscription is new
    have hview : view p v.handles.next v.bridges.next
        (v.subscribing (.widget binding p.owner judge) observer).journal = ⟨[], [], false⟩ := by
      rw [Toolkit.subscribing, Toolkit.journal_starting, view_notedAll (by simp [Event.isUnseen]),
        Toolkit.journal_noted, view_cons_of_isUnseen rfl, Toolkit.journal_opening]
      exact hs.view_eq hs.not_hasHandle_next hs.not_hasBridge_next
    change (view p v.handles.next v.bridges.next (v.subscribing _ observer).journal).Fits binding
    rw [hview]
    exact ⟨none, rfl, rfl⟩
  have hfits := hv k b binding judge hsite ho
  have hpoint : binding.point p.owner = p := Point.ext hsite rfl
  have hsame : ∀ es, w.journal = (v.notedAll es).journal → (∀ e ∈ es, e.isUnseen k b = true) →
      (view p k b w.journal).Fits binding := by
    intro es hj hes
    rw [hj, view_notedAll hes]
    exact hfits
  cases h.befalls hev hs hone ho with
  | quiet _ hj hes => exact hsame _ hj fun e he => Event.isUnseen_of_isForeign (hes e he)
  | registered hm hd =>
    rw [Toolkit.journal_noted, view_cons_of_isUnseen (by simp [Event.isUnseen]),
      view_registering hd]
    exact hfits
  | started hm hd =>
    rw [Toolkit.journal_starting]
    simp only [Toolkit.notedAll_cons, Toolkit.notedAll_nil, Toolkit.journal_noted, view_cons_began]
    rw [view_cons_of_isUnseen (x := ⟨_, .accepted b _ false⟩) rfl, view_cons_attached,
      view_registering hd]
    exact hfits.warm (window_eq_nil (member_of_milestones hm)) (warmed_of_milestones hm) _
  | advanced hqueue =>
    rw [hq b] at hqueue
    cases hqueue
  | @told w e value queued turn hcontent halive hmember hvalue hsignals hj =>
    obtain rfl : queued = false := by simpa [hsig] using hsignals
    rw [hpoint] at hcontent hj
    rw [hj]
    simp only [takings, List.cons_append, List.nil_append, Toolkit.notedAll_cons,
      Toolkit.notedAll_nil, Toolkit.journal_noted, Bool.false_eq_true, if_false, view_cons_began]
    rw [view_cons_of_isUnseen (x := ⟨_, .accepted b _ false⟩) rfl,
      view_cons_of_isUnseen (x := ⟨_, .heard _ e⟩) rfl, view_cons_dispatched,
      if_pos ⟨rfl, hown.owner_eq hone hs hcontent ho⟩]
    exact hfits.deliver hvalue
  | notified hshared =>
    rw [hsite, hp] at hshared
    cases hshared
  | @toldOther w q e c binding' judge' value queued hcb turn hcontent hj =>
    have hother : ¬ (q = p ∧ owner p v.journal = some (.subscriber k)) := by
      rintro ⟨rfl, howner⟩
      rw [hown.content_eq hone howner ho] at hcontent
      cases hcontent
      exact hcb rfl
    rw [hj, List.cons_append, Toolkit.notedAll_cons, view_notedAll, Toolkit.journal_noted,
      view_cons_dispatched, if_neg hother]
    · exact hfits
    · cases queued <;> simp [takings, Event.isUnseen, hcb]
  | @notifiedOther w e c binding' judge' value queued hcb hscreen hj =>
    refine hsame _ hj ?_
    cases queued <;> simp [takings, Event.isUnseen, hcb]
  | @passed s q e turn hpass =>
    rw [Toolkit.journal_noted, view_cons_dispatched, Toolkit.journal_showing]
    by_cases hq : q = p ∧ owner p v.journal = some (.subscriber k)
    · obtain ⟨rfl, howner⟩ := hq
      rw [if_pos ⟨rfl, howner⟩]
      obtain hnone | hclosed := hpass (hpoint ▸ hown.content_eq hone howner ho)
      · exact hfits.pass hnone
      · rw [Toolkit.closed, (hs.knows ho).2, hown.alive k howner] at hclosed
        cases hclosed
    · rw [if_neg hq]
      exact hfits
  | ignored | heardOther | operating | altered | operated | flagged =>
    exact hsame [_] rfl (by simp [Event.isUnseen])

-- ════════════════════════════════════════════════════════════════════════
-- Slots
-- ════════════════════════════════════════════════════════════════════════

theorem Steps.unqueued {w : Toolkit Unit} (hm : m.signals = false) (h : Steps m Toolkit.fresh w) :
    w.Unqueued :=
  h.invariant (fun _ => rfl) fun _ ih h => h.unqueued hm ih

/-- A slot has its owner wherever steps lead. -/
theorem Steps.owned {w : Toolkit Unit} (hp : p.site.isShared = false)
    (h : Steps m Toolkit.fresh w) : w.Undisturbed p → w.Owned p := by
  refine h.invariant (I := fun w => w.Undisturbed p → w.Owned p)
    (fun _ => ⟨rfl, fun _ hk => by cases hk⟩) fun hv ih h hu => ?_
  have hu' := hu.of_grows h.grows
  exact h.owned hv.sound_of_fresh hv.tidy hv.backed hp hu' (ih hu')

/-- **What comes to a slot reaches its owner** of the time. -/
def Toolkit.ReachesOwners (w : Toolkit σ) (p : Point) : Prop :=
  Guarded (fun earlier e => ∀ event reached, e = .dispatched p event reached →
    Stands p earlier (owner p earlier) reached) w.journal

/-- **What comes to a slot that has an owner** reaches that owner. -/
def Toolkit.ReachesHolders (w : Toolkit σ) (p : Point) : Prop :=
  Guarded (fun earlier e => ∀ event reached, e = .dispatched p event reached →
    ∀ o, owner p earlier = some o → Stands p earlier (some o) reached) w.journal

/-- **Whoever has a slot throughout** is the one whom everything reaches that comes there. -/
theorem Toolkit.ReachesHolders.stands (hr : w.ReachesHolders p) {added base : List Entry}
    (hj : w.journal = added ++ base) {o : Owner}
    (ho : ∀ i, base <:+ i → i <:+ w.journal → owner p i = some o) {e : NativeEvent}
    {reached : Option Listener} (hd : Occurred (.dispatched p e reached) added) :
    Stands p w.journal (some o) reached := by
  obtain ⟨x, hx, he⟩ := hd
  obtain ⟨later, before, rfl⟩ := List.append_of_mem hx
  have hsplit : w.journal = later ++ x :: (before ++ base) := by
    rw [hj, List.append_assoc, List.cons_append]
  have hearlier : before ++ base <:+ w.journal := by
    rw [hsplit]
    exact (List.suffix_cons _ _).trans (List.suffix_append _ _)
  have hstands := hr later x _ hsplit e reached he o (ho _ (List.suffix_append _ _) hearlier)
  exact hstands.mono hearlier

theorem Steps.reached {w : Toolkit Unit} (hp : p.site.isShared = false)
    (h : Steps m Toolkit.fresh w) : w.Undisturbed p → w.ReachesOwners p := by
  refine h.invariant (I := fun w => w.Undisturbed p → w.ReachesOwners p) (fun _ => guarded_nil _)
    fun hv ih h hu => ?_
  have hu' := hu.of_grows h.grows
  refine (h.explained hv.sound_of_fresh).guarded (ih hu') fun i e _ _ he event reached hee => ?_
  subst hee
  obtain ⟨rfl, rfl⟩ := he
  exact (hv.owned hp hu').stands

/-- A slot has its holder wherever steps lead. -/
theorem Steps.held {w : Toolkit Unit} (hp : p.site.isShared = false)
    (h : Steps m Toolkit.fresh w) : w.Held p := by
  refine h.invariant (I := fun w => w.Held p) (fun _ ho => by cases ho) fun hv ih h => ?_
  exact h.held hv.sound_of_fresh hv.backed hp ih

theorem Steps.reachesHolders {w : Toolkit Unit} (hp : p.site.isShared = false)
    (h : Steps m Toolkit.fresh w) : w.ReachesHolders p := by
  refine h.invariant (I := fun w => w.ReachesHolders p) (guarded_nil _) fun hv ih h => ?_
  refine (h.explained hv.sound_of_fresh).guarded ih fun i e _ _ he event reached hee => ?_
  subst hee
  obtain ⟨rfl, rfl⟩ := he
  exact hv.held hp

theorem Steps.windowed {w : Toolkit Unit} (hm : m.signals = false) (hev : m.everywhere = false)
    (hp : p.site.isShared = false) (h : Steps m Toolkit.fresh w) :
    w.Undisturbed p → w.Windowed p := by
  refine h.invariant (I := fun w => w.Undisturbed p → w.Windowed p)
    (fun _ _ _ _ _ _ ho => absurd ho (not_occurred_nil _)) fun hv ih h hu => ?_
  have hu' := hu.of_grows h.grows
  exact h.windowed hm hev hv.sound_of_fresh hv.subscriptions_single hp (hv.owned hp hu')
    (hv.unqueued hm) (ih hu')

/-- **A slot behaves as its owner says.** -/
structure Toolkit.Refines (w : Toolkit σ) (p : Point) : Prop where
  /-- The slot holds what its owner registered. -/
  stands : Stands p w.journal (owner p w.journal) (w.screen.slot p).content
  /-- It is set if and only if it has an owner. -/
  isSet : (w.screen.slot p).isSet = (owner p w.journal).isSome
  /-- Whatever came to it reached its owner of the time, and nobody else. -/
  reached : w.ReachesOwners p
  /-- Every subscription received the events of its kind that came while it had the slot, after the
      value with which it started, if it did. -/
  received : w.Windowed p
  /-- Nothing is handed over after the disposal of a subscription. -/
  silent : ∀ h b source, Occurred (.subscribing h b source) w.journal →
    Guarded (fun earlier e =>
      Occurred (.disposed h) earlier → ∀ signal, e ≠ .began b signal) w.journal
  /-- A handle is disposed once. -/
  once : ∀ h,
    Guarded (fun earlier e => e = .disposed h → ¬ Occurred (.disposed h) earlier) w.journal

namespace Code

/-- **Slots behave as their owners say**: at every moment of every run in which callbacks make no
    bridge take a signal, and client code gives the handles of the subscriptions no other action. -/
theorem slots_follow_owners {code : Code m τ} {depth : Nat} {own : τ}
    {program : Program m τ True True α} (hm : m.signals = false) (hev : m.everywhere = false)
    (hp : p.site.isShared = false) {w : Toolkit Unit} (hw : w ∈ code.moments depth own program)
    (hu : w.Undisturbed p) : w.Refines p where
  stands := (Steps.owned hp (reachable hw) hu).stands
  isSet := (Steps.owned hp (reachable hw) hu).stands.isSome
  reached := Steps.reached hp (reachable hw) hu
  received := Steps.windowed hm hev hp (reachable hw) hu
  silent h b source ho := by
    obtain ⟨hb, rfl⟩ := (Steps.sound_of_fresh (reachable hw)).knows ho
    exact (Steps.told (reachable hw)).silent hb
  once := (Steps.told (reachable hw)).once

/-- A second subscription takes the slot of a view from the first one, which is disposed later. -/
def superseding : Program m Unit True True Unit :=
  .making (.newView .main) fun v =>
    .making (.subscribe ⟨.widget .focusChanges v .always, true⟩ (.client 0)) fun first =>
      .making (.requestFocus v) fun _ =>
        .making (.subscribe ⟨.widget .focusChangeEvents v .always, false⟩ (.client 0)) fun _ =>
          .making (.clearFocus v) fun _ =>
            .making (.dispose first) fun _ =>
              .making (.requestFocus v) fun _ => .done ()

/-- The disposal of the superseded subscription leaves the slot to nobody. -/
theorem slots_follow_owners_superseding :
    ∃ w ∈ (quiet ⟨true, true, false, false⟩).moments 5 () superseding,
      w.Undisturbed ⟨.focus, 1⟩ ∧ w.Refines ⟨.focus, 1⟩ ∧ owner ⟨.focus, 1⟩ w.journal = none ∧
      values 1 w.journal = [.flag false, .flag true] ∧
      values 2 w.journal = [.focusChange 1 false] := by
  have hw := List.head_mem (l := (quiet ⟨true, true, false, false⟩).moments 5 () superseding)
    (by decide +kernel)
  have hu : (((quiet ⟨true, true, false, false⟩).moments 5 () superseding).head
      (by decide +kernel)).Undisturbed ⟨.focus, 1⟩ :=
    Toolkit.undisturbed_of_all (by decide +kernel)
  exact ⟨_, hw, hu, slots_follow_owners rfl rfl rfl hw hu, by decide +kernel, by decide +kernel,
    by decide +kernel⟩

end Code

end WidgetStreams
