import Mathlib.Data.List.Chain
import WidgetStreams.Proofs.Delivery
import WidgetStreams.Proofs.Windows

/-!
# Mirrors keep up

This file proves that a subscription that starts with the state of its widget,
and delivers that state whenever it changes, does not fall behind: as long as it
has its slot, the latest value that its bridge took is the state of the widget.
This holds however deep the changes are nested, as a widget changes its state
and tells of it in one step.

## Main definitions

- `History.taken` — the values that a bridge took
- `Toolkit.HasSlot` — a subscription has its slot
- `Reflection`, `Reflection.Follows` — what a mirror took, and how it follows the widget

## Main results

- `Step.mirrored` — every step lets mirrors follow
- `Code.mirrors_keep_up` — what the observer of a mirror has received
-/

namespace WidgetStreams

open History

-- ════════════════════════════════════════════════════════════════════════
-- What a mirror took
-- ════════════════════════════════════════════════════════════════════════

namespace History

/-- The values that a bridge took, to hand them over at once or later. -/
def taken (b : BridgeId) (j : List Entry) : List Payload := (accepted b j).filterMap Signal.value?

/-- **What a mirror took**, and what its widget shows. -/
structure Reflection where
  /-- The values that the bridge took. -/
  taken : List Payload
  /-- The subscription started with a value. -/
  warmed : Bool
  /-- The subscription was registered with the widget. -/
  registered : Bool
  /-- The state of the widget. -/
  shown : Payload

/-- What the journal tells of the mirror with handle `h` and bridge `b` at a point. -/
def reflection (p : Point) (h : HandleId) (b : BridgeId) (shown : Payload) (j : List Entry) :
    Reflection :=
  ⟨taken b j, warmed h j, member p h j, shown⟩

/-- **A mirror follows its widget**; it has to do so only as long as it has its slot. -/
structure Reflection.Follows (binding : Binding) (hasSlot : Prop) (s : Reflection) : Prop where
  /-- Nothing is taken before the registration. -/
  early : s.registered = false → s.taken = []
  started : s.warmed = true → s.taken ≠ []
  /-- No value is taken twice in a row, but that a query may be set again. -/
  new : binding ≠ .queries → s.taken.IsChain (· ≠ ·)
  latest : hasSlot → ∀ value ∈ s.taken.getLast?, value = s.shown

variable {p : Point} {h : HandleId} {b : BridgeId} {j : List Entry} {t : Thread} {shown : Payload}

namespace Reflection.Follows

variable {binding : Binding} {P Q : Prop} {s : Reflection}

/-- A mirror that has taken nothing, and was to start with nothing, follows whatever is shown. -/
theorem of_nil (hs : s.taken = []) (hw : s.warmed = false) : s.Follows binding P where
  early _ := hs
  started h := by simp [hw] at h
  new _ := by simp [hs]
  latest _ value hv := by simp [hs] at hv

/-- What is shown may change when the mirror has lost its slot. -/
theorem showing (hs : s.Follows binding P) {value : Payload}
    (h : Q → P ∧ value = s.shown) : Reflection.Follows binding Q { s with shown := value } where
  early := hs.early
  started := hs.started
  new := hs.new
  latest hq := by
    obtain ⟨hp, rfl⟩ := h hq
    exact hs.latest hp

/-- **The mirror takes what is shown from now on.** -/
theorem tell (hs : s.Follows binding P) (hp : P) {value : Payload}
    (hnew : binding ≠ .queries → s.shown ≠ value) (hr : s.registered = true) :
    Reflection.Follows binding Q { s with taken := s.taken ++ [value], shown := value } where
  early h := by simp [hr] at h
  started _ := by simp
  new hb := by
    refine (hs.new hb).append (by simp) fun last hlast first hfirst => ?_
    obtain rfl : value = first := by simpa using hfirst
    rw [hs.latest hp last hlast]
    exact hnew hb
  latest _ last hlast := by
    obtain rfl : value = last := by simpa using hlast
    rfl

/-- **The mirror starts** with what is shown. -/
theorem start (ht : s.taken = [s.shown]) (hr : s.registered = true) : s.Follows binding P where
  early h := by simp [hr] at h
  started _ := by simp [ht]
  new _ := by simp [ht]
  latest _ value hv := by simpa [ht, eq_comm] using hv

end Reflection.Follows

end History

/-- Whether an event is none that tells of a certain subscription: that it is registered, that it
    starts with a value, or that its bridge takes one. -/
def Event.spares (h : HandleId) (b : BridgeId) : Event → Bool
  | .accepted bridge signal _ => bridge != b || signal.value?.isNone
  | .attached handle _ warm => handle != h || !warm
  | .registered handle (.widget _ _ _) _ => handle != h
  | _ => true

theorem Event.spares_of_isForeign {h : HandleId} {b : BridgeId} {e : Event}
    (he : e.isForeign h b = true) : e.spares h b = true := by
  cases e with
  | accepted c signal queued =>
    cases signal with
    | next value => exact (Bool.or_false _).trans he
    | _ => exact Bool.or_true _
  | attached => exact he
  | registered k source key => cases source <;> exact he
  | _ => rfl

namespace History

variable {p : Point} {h : HandleId} {b : BridgeId} {j : List Entry} {t : Thread} {shown : Payload}

theorem taken_cons_accepted {signal : Signal} {queued : Bool} :
    taken b (⟨t, .accepted b signal queued⟩ :: j) = taken b j ++ signal.value?.toList := by
  cases signal <;> simp [taken, accepted, accepted?, Signal.value?]

theorem reflection_cons_of_spares {x : Entry} (hx : x.event.spares h b = true) :
    reflection p h b shown (x :: j) = reflection p h b shown j := by
  obtain ⟨t, e⟩ := x
  cases e with
  | accepted c signal queued =>
    have htaken : taken b (⟨t, .accepted c signal queued⟩ :: j) = taken b j := by
      by_cases e : c = b
      · subst e
        have hnone : signal.value? = none := by simpa [Event.spares] using hx
        rw [taken_cons_accepted, hnone, Option.toList_none, List.append_nil]
      · simp [taken, accepted, accepted?, e]
    simp only [reflection, htaken]
    rfl
  | attached k key warm =>
    have hwarmed : warmed h (⟨t, .attached k key warm⟩ :: j) = warmed h j := by
      cases warm with
      | false => rfl
      | true =>
        have hne : k ≠ h := by simpa [Event.spares] using hx
        simp [warmed, hne]
    simp only [reflection, hwarmed]
    rfl
  | registered k source key =>
    cases source with
    | client => rfl
    | widget binding n judge =>
      have hne : k ≠ h := by simpa [Event.spares] using hx
      have hmember : member p h (⟨t, .registered k (.widget binding n judge) key⟩ :: j) =
          member p h j := by simp [member, hne]
      simp only [reflection, hmember]
      rfl
  | _ => rfl

end History

variable {σ τ α : Type} {m : Manners} {v w : Toolkit σ} {p : Point} {h k : HandleId} {b : BridgeId}

theorem History.reflection_notedAll {shown : Payload} {es : List Event}
    (hes : ∀ e ∈ es, e.spares h b = true) :
    reflection p h b shown (w.notedAll es).journal = reflection p h b shown w.journal :=
  Toolkit.read_notedAll (fun e he _ _ hx => reflection_cons_of_spares (hx ▸ hes e he)) w

theorem History.warmed_notedAll {es : List Event} (hes : ∀ e ∈ es, e.spares h b = true) :
    warmed h (w.notedAll es).journal = warmed h w.journal := by
  have hkept : reflection ⟨.page, 0⟩ h b .unit (w.notedAll es).journal =
      reflection ⟨.page, 0⟩ h b .unit w.journal := reflection_notedAll hes
  exact congrArg Reflection.warmed hkept

/-- A bridge takes a value. -/
theorem History.reflection_takings {shown value : Payload} {queued : Bool} {notes : List Event}
    (hes : ∀ e ∈ notes, e.spares h b = true) :
    reflection p h b shown (w.notedAll (notes ++ takings b value queued)).journal =
      { reflection p h b shown w.journal with
        taken := (reflection p h b shown w.journal).taken ++ [value] } := by
  have hnotes : reflection p h b shown (w.notedAll notes).journal =
      reflection p h b shown w.journal := reflection_notedAll hes
  rw [Toolkit.notedAll_append, takings, Toolkit.notedAll_cons, reflection_notedAll, ← hnotes]
  · simp only [reflection, Toolkit.journal_noted, taken_cons_accepted]
    rfl
  · cases queued <;> simp [Event.spares]

/-- The start of a delivery takes the value of the signal. -/
theorem History.taken_starting {c : BridgeId} {signal : Signal} :
    taken b (w.starting c signal).journal =
      taken b w.journal ++ if c = b then signal.value?.toList else [] := by
  rw [taken, Toolkit.journal_starting, accepted_notedAll]
  by_cases e : c = b <;> cases signal <;>
    simp [taken, accepted?, Signal.value?, List.filterMap_cons, e]

-- ════════════════════════════════════════════════════════════════════════
-- Every step lets mirrors follow
-- ════════════════════════════════════════════════════════════════════════

namespace Toolkit

/-- **A subscription has its slot**: its listener is there, and it is not disposed. A listener that
    was displaced does not come back, so it has had the slot since it was registered. -/
def HasSlot (w : Toolkit σ) (b : BridgeId) (binding : Binding) (owner : Nat) (judge : Judge) :
    Prop :=
  (w.screen.slot (binding.point owner)).content = some (.forward binding b judge) ∧
    w.closed b = false

/-- The focus of a view was not set directly. -/
def Unforced (w : Toolkit σ) (v : ViewId) : Prop :=
  ∀ chosen on, Occurred (.flagged v chosen on) w.journal → chosen.focused = false

theorem unforced_of_all {n : ViewId} (hj : (w.journal.all fun x =>
    match x.event with
    | .flagged _ chosen _ => !chosen.focused
    | _ => true) = true) : w.Unforced n := by
  rintro chosen on ⟨x, hx, he⟩
  have hquiet := List.all_eq_true.mp hj x hx
  rw [he] at hquiet
  simpa using hquiet

/-- **Mirrors follow their widgets.** -/
def Mirrored (w : Toolkit σ) : Prop :=
  ∀ h b binding owner judge, binding.isMirror = true →
    Occurred (.subscribing h b (.widget binding owner judge)) w.journal →
    (binding = .focusChanges → w.Unforced owner) →
      (reflection (binding.point owner) h b (w.screen.current binding owner) w.journal).Follows
        binding (w.HasSlot b binding owner judge)

/-- What the journal tells of a mirror that is not there. -/
theorem Sound.reflection_eq (hs : w.Sound) (hh : ¬ w.HasHandle h) (hb : ¬ w.HasBridge b)
    (shown : Payload) : reflection p h b shown w.journal = ⟨[], false, false, shown⟩ := by
  have hmember : member p h w.journal = false := by
    rw [← Bool.not_eq_true, member_eq_true]
    rintro ⟨binding, n, judge, key, ho, -⟩
    exact hh (hs.knows ho)
  have hwarmed : warmed h w.journal = false := congrArg View.warmed (hs.view_eq (p := p) hh hb)
  rw [reflection, hmember, hwarmed, taken, hs.accepted_eq_nil hb]
  rfl

/-- The journal tells nothing yet of a subscription that begins. -/
theorem Sound.reflection_subscribing (hs : w.Sound) (source : Source) (observer : Observer)
    (shown : Payload) : reflection p w.handles.next w.bridges.next shown
      (w.subscribing source observer).journal = ⟨[], false, false, shown⟩ := by
  rw [subscribing, journal_starting, notedAll_cons, reflection_notedAll (by simp [Event.spares]),
    ← hs.reflection_eq hs.not_hasHandle_next hs.not_hasBridge_next]
  refine (reflection_cons_of_spares ?_).trans (reflection_cons_of_spares rfl)
  simp [Event.spares, Signal.value?]

section Registering

variable {c : BridgeId} {binding : Binding} {n : Nat} {judge : Judge}

theorem taken_registering (hd : w.disposed h = false) :
    taken b (w.registering h c binding n judge).journal = taken b w.journal := by
  rw [taken, journal_registering, accepted_notedAll]
  simp [hd, accepted?, taken, List.filterMap_cons]

theorem warmed_registering (hd : w.disposed h = false) :
    warmed k (w.registering h c binding n judge).journal = warmed k w.journal :=
  congrArg View.warmed (view_registering (p := binding.point n) (b := c) hd)

/-- **A mirror starts with what is shown.** -/
theorem follows_registeringWarm (hd : w.disposed h = false) (hnone : taken b w.journal = [])
    {P : Prop} :
    (reflection (binding.point n) h b ((w.registering h b binding n judge).screen.current binding n)
      (((w.registering h b binding n judge).noted
        (.attached h (w.keyOf b binding n judge) true)).starting b
          (.next ((w.registering h b binding n judge).screen.current binding n))).journal).Follows
      binding P := by
  refine .start ?_ ?_
  · change taken b _ = _
    rw [taken_starting, if_pos rfl]
    change taken b (w.registering h b binding n judge).journal ++ _ = _
    rw [taken_registering hd, hnone]
    rfl
  · refine member_eq_true.mpr ⟨binding, n, judge, w.keyOf b binding n judge, ?_, rfl⟩
    rw [journal_starting_registering hd, occurred_notedAll]
    exact .inl List.mem_cons_self

end Registering

end Toolkit

/-- The site of a mirror is for one listener. -/
theorem Binding.not_isShared_of_isMirror {binding : Binding} (h : binding.isMirror = true) :
    binding.site.isShared = false := by
  cases binding <;> first | rfl | cases h

/-- A bridge that is open was open before. -/
theorem Grows.closed (hg : Grows v w) (hb : v.HasBridge b) (hc : w.closed b = false) :
    v.closed b = false := by
  rw [← Bool.not_eq_true] at hc ⊢
  refine fun hv => hc ?_
  rw [Toolkit.closed, hg.handle hb]
  exact hg.disposed hv

/-- **Every step lets mirrors follow**, if nobody else emits on the bridges of widgets. -/
theorem Step.mirrored (hev : m.everywhere = false) (hs : v.Sound) (hone : v.Single)
    (hv : v.Mirrored) (h : Step m v w) : w.Mirrored := by
  intro k b binding n judge hmirror how hforced
  obtain ho | ⟨rfl, rfl, observer, rfl⟩ := h.occurred_subscribing hs how
  swap
  · -- the subscription is new
    change (reflection (binding.point n) v.handles.next v.bridges.next
      (v.screen.current binding n) (v.subscribing _ observer).journal).Follows _ _
    rw [hs.reflection_subscribing]
    exact .of_nil rfl rfl
  have hp := Binding.not_isShared_of_isMirror hmirror
  have hfollows := hv k b binding n judge hmirror ho fun hb chosen on ho =>
    hforced hb chosen on (ho.mono h.grows.journal)
  obtain ⟨hb, hbk⟩ := hs.knows ho
  have hopen := h.grows.closed hb
  have hkept : (∀ shown, reflection (binding.point n) k b shown w.journal =
        reflection (binding.point n) k b shown v.journal) →
      ((w.screen.slot (binding.point n)).content = some (.forward binding b judge) →
        (v.screen.slot (binding.point n)).content = some (.forward binding b judge)) →
      (w.HasSlot b binding n judge → v.HasSlot b binding n judge →
        w.screen.current binding n = v.screen.current binding n) →
      (reflection (binding.point n) k b (w.screen.current binding n) w.journal).Follows binding
        (w.HasSlot b binding n judge) := by
    intro hj hslot hcurrent
    rw [hj]
    refine hfollows.showing fun hw => ?_
    have hv' : v.HasSlot b binding n judge := ⟨hslot hw.1, hopen hw.2⟩
    exact ⟨hv', hcurrent hw hv'⟩
  have hsame := fun es (hj : w.journal = (v.notedAll es).journal)
    (hes : ∀ e ∈ es, e.spares k b = true) => hkept fun _ => by rw [hj, reflection_notedAll hes]
  cases h.befalls hev hs hone ho with
  | quiet es hj hes hshows hslot =>
    exact hsame es hj (fun e he => Event.spares_of_isForeign (hes e he)) (hslot hp) fun _ _ =>
      hshows binding n (.inl hmirror)
  | registered hm hd =>
    refine .of_nil ?_ ?_
    · exact (Toolkit.taken_registering hd).trans (hfollows.early (member_of_milestones hm))
    · exact (Toolkit.warmed_registering hd).trans (warmed_of_milestones hm)
  | started hm hd =>
    exact Toolkit.follows_registeringWarm hd (hfollows.early (member_of_milestones hm))
  | @told w e value queued turn hcontent halive hmember hvalue hsignals hj =>
    obtain ⟨hshown, hnew⟩ : w.screen.current binding n = value ∧ _ :=
      turn.told binding value hmirror rfl hvalue
    rw [hj, hshown, reflection_takings (by simp [Event.spares])]
    exact hfollows.tell ⟨hcontent, halive⟩ hnew hmember
  | notified hshared =>
    rw [hp] at hshared
    cases hshared
  | @toldOther w q e c binding' judge' value queued hcb turn hcontent hj =>
    refine hsame _ hj ?_ (fun hc => Screen.slot_congr turn.slots _ ▸ hc) fun _ hv' =>
      turn.elsewhere binding n hmirror (.inl ?_)
    · cases queued <;> simp [takings, Event.spares, hcb]
    · -- the other one's listener is in its own slot
      rintro rfl
      rw [hv'.1] at hcontent
      cases hcontent
      exact hcb rfl
  | @notifiedOther w e c binding' judge' value queued hcb hscreen hj =>
    refine hsame _ hj ?_ (hscreen ▸ id) fun _ _ => by rw [hscreen]
    cases queued <;> simp [takings, Event.spares, hcb]
  | @passed s q e turn hpass =>
    refine hsame [_] rfl (by simp [Event.spares]) (fun hc => Screen.slot_congr turn.slots _ ▸ hc)
      fun _ hv' => turn.elsewhere binding n hmirror ?_
    by_cases hq : binding.point n = q
    · subst hq
      refine .inr ((hpass hv'.1).resolve_right ?_)
      rw [hv'.2]
      exact Bool.false_ne_true
    · exact .inl hq
  | altered alteration =>
    exact hsame [_] rfl (by simp [Event.spares])
      (fun hc => Screen.slot_congr alteration.slots _ ▸ hc)
      fun _ _ => alteration.mirrors binding n hmirror
  | @flagged view chosen on =>
    refine hsame [_] rfl (by simp [Event.spares]) id fun _ _ => ?_
    by_cases hfocus : binding = .focusChanges ∧ view = n
    · obtain ⟨rfl, rfl⟩ := hfocus
      have hchosen := hforced rfl chosen on (occurred_cons.mpr (.inl rfl))
      exact Screen.ShowsAlike.setFlags (by simp [Flags.assign, hchosen]) .focusChanges view
        (.inl rfl)
    · cases binding with
      | focusChanges =>
        refine congrArg Payload.flag ?_
        rw [Toolkit.noted, Toolkit.withScreen, Screen.flags_setFlags,
          if_neg fun e => hfocus ⟨rfl, e⟩]
      | itemSelections | queries => rfl
      | _ => cases hmirror
  | advanced | ignored | heardOther | operating | operated =>
    exact hsame [_] rfl (by simp [Event.spares]) id fun _ _ => rfl

-- ════════════════════════════════════════════════════════════════════════
-- What observers of mirrors receive
-- ════════════════════════════════════════════════════════════════════════

/-- Mirrors follow their widgets wherever steps lead. -/
theorem Steps.mirrored {w : Toolkit Unit} (hev : m.everywhere = false)
    (h : Steps m Toolkit.fresh w) : w.Mirrored :=
  h.invariant (fun _ _ _ _ _ _ ho => absurd ho (not_occurred_nil _)) fun hv ih h =>
    h.mirrored hev hv.sound_of_fresh hv.subscriptions_single ih

/-- **The observer of a mirror is up to date**: the one of the bridge `b`, with the state of its
    widget. -/
structure Toolkit.UpToDate (w : Toolkit σ) (b : BridgeId) (binding : Binding) (owner : Nat) :
    Prop where
  /-- What the observer receives last, by the time everything that waits is handed over, is what
      the widget shows. -/
  upcoming : (values b w.journal ++ (w.queue b).filterMap Signal.value?).getLast? =
    some (w.screen.current binding owner)
  /-- Outside a delivery it has received that. -/
  settled : w.delivering b = none →
    (values b w.journal).getLast? = some (w.screen.current binding owner)
  /-- It does not receive a value twice in a row, but that a query may be set again. -/
  new : binding ≠ .queries → (values b w.journal).IsChain (· ≠ ·)

/-- What a bridge took is handed over or waits, until its subscription is disposed; outside a
    delivery nothing waits. -/
theorem Steps.taken_eq {w : Toolkit Unit} (hm : m.observersPanic = false)
    (hw : Steps m Toolkit.fresh w) (hb : w.HasBridge b) (hc : w.closed b = false) :
    taken b w.journal = values b w.journal ++ (w.queue b).filterMap Signal.value? ∧
      (w.delivering b = none → taken b w.journal = values b w.journal) := by
  obtain ⟨first, -, hkept, -⟩ := hw.orderly hm b hb
  have htaken : taken b w.journal = values b w.journal ++ (w.queue b).filterMap Signal.value? := by
    rw [taken, show accepted b w.journal = _ from hkept.fifo hc, List.filterMap_append]
    rfl
  refine ⟨htaken, fun hd => ?_⟩
  have hqueue : w.queue b = [] := (hkept.settled (Toolkit.delivering_ledger_eq_false hd)).1
  rwa [hqueue, List.filterMap_nil, List.append_nil] at htaken

theorem Steps.upToDate {w : Toolkit Unit} (hm : m.observersPanic = false)
    (hev : m.everywhere = false) (hw : Steps m Toolkit.fresh w) {binding : Binding} {n : Nat}
    {judge : Judge} (hmirror : binding.isMirror = true)
    (ho : Occurred (.subscribing h b (.widget binding n judge)) w.journal)
    (hwarm : warmed h w.journal = true) (hslot : w.HasSlot b binding n judge)
    (hforced : binding = .focusChanges → w.Unforced n) : w.UpToDate b binding n := by
  have hfollows := hw.mirrored hev h b binding n judge hmirror ho hforced
  obtain ⟨htaken, hsettled⟩ := hw.taken_eq hm (hw.sound_of_fresh.knows ho).1 hslot.2
  have hlast : (taken b w.journal).getLast? = some (w.screen.current binding n) := by
    obtain ⟨last, hl⟩ := Option.ne_none_iff_exists'.mp
      (mt List.getLast?_eq_none_iff.mp (hfollows.started hwarm))
    rw [show (taken b w.journal).getLast? = _ from hl, hfollows.latest hslot last hl]
    rfl
  refine ⟨htaken ▸ hlast, fun hd => hsettled hd ▸ hlast, fun hb => ?_⟩
  have hnew : (taken b w.journal).IsChain (· ≠ ·) := hfollows.new hb
  rw [htaken] at hnew
  exact hnew.left_of_append

namespace Code

variable {code : Code m τ} {depth : Nat} {own : τ} {program : Program m τ True True α}

/-- **Mirrors keep up**: at every moment of every run, the observer of a mirror that started with
    the state of its widget and still has its slot is up to date, if observers do not panic and the
    focus is not set directly. When the run is over, it has received the state that the widget shows
    by then. -/
theorem mirrors_keep_up (hm : m.observersPanic = false) (hev : m.everywhere = false) :
    (∀ w ∈ code.moments depth own program, ∀ h b binding n judge, binding.isMirror = true →
      Occurred (.subscribing h b (.widget binding n judge)) w.journal →
      warmed h w.journal = true → w.HasSlot b binding n judge →
      (binding = .focusChanges → w.Unforced n) → w.UpToDate b binding n) ∧
    ∀ a u, code.outcome depth own program = .ok a u → ∀ h b binding n judge,
      binding.isMirror = true → Occurred (.subscribing h b (.widget binding n judge)) u.journal →
      warmed h u.journal = true → u.HasSlot b binding n judge →
      (binding = .focusChanges → u.Unforced n) →
        (values b u.journal).getLast? = some (u.screen.current binding n) := by
  constructor
  · intro w hw h b binding n judge hmirror ho hwarm hslot hforced
    exact (reachable hw).upToDate hm hev hmirror ho hwarm hslot hforced
  · intro a u hr h b binding n judge hmirror ho hwarm hslot hforced
    obtain ⟨hsteps, hidle⟩ := idle hr
    exact (hsteps.upToDate hm hev hmirror ho hwarm hslot hforced).settled (hidle b)

/-- Its observer gives up the focus in the midst of hearing that the view has it. -/
def shying : Code ⟨false, false, true, false⟩ Unit :=
  { quiet _ with
    observe := fun _ signal =>
      match signal with
      | .next (.flag true) =>
        .call (.clearFocus 1) (fun _ => rfl) (fun h => h.elim id id) fun _ => .done ()
      | _ => .done () }

/-- Subscribe to the focus of a view, and give it the focus. -/
def focusing : Program m Unit True True Unit :=
  .making (.newView .main) fun v =>
    .making (.subscribe ⟨.widget .focusChanges v .always, true⟩ (.client 0)) fun _ =>
      .making (.requestFocus v) fun _ => .done ()

/-- In the midst of hearing that the view has the focus, it is waiting to hear that it has not; and
    this is what it heard last when the run is over. -/
theorem mirrors_keep_up_inside :
    (∃ w ∈ shying.moments 5 () focusing, w.UpToDate 1 .focusChanges 1 ∧
      values 1 w.journal = [.flag false, .flag true] ∧ w.queue 1 = [.next (.flag false)]) ∧
    ∃ u, shying.outcome 5 () focusing = .ok () u ∧
      (values 1 u.journal).getLast? = some (u.screen.current .focusChanges 1) ∧
      values 1 u.journal = [.flag false, .flag true, .flag false] := by
  have hw := List.get_mem (shying.moments 5 () focusing) ⟨2, by decide +kernel⟩
  refine ⟨⟨_, hw, (mirrors_keep_up rfl rfl).1 _ hw 1 1 .focusChanges 1 .always rfl ?_ ?_ ?_ ?_,
    ?_, ?_⟩, ?_⟩
  · exact ⟨⟨.main, .subscribing 1 1 (.widget .focusChanges 1 .always)⟩, by decide +kernel, rfl⟩
  · decide +kernel
  · exact ⟨by decide +kernel, by decide +kernel⟩
  · exact fun _ => Toolkit.unforced_of_all (by decide +kernel)
  · decide +kernel
  · decide +kernel
  have hend : (match shying.outcome 5 () focusing with
      | .ok _ u => decide (⟨.main, .subscribing 1 1 (.widget .focusChanges 1 .always)⟩ ∈ u.journal ∧
          warmed 1 u.journal = true ∧ (u.screen.slot ⟨.focus, 1⟩).content =
            some (.forward .focusChanges 1 .always) ∧ u.closed 1 = false ∧
          (u.journal.all fun x =>
            match x.event with
            | .flagged _ chosen _ => !chosen.focused
            | _ => true) = true ∧
          values 1 u.journal = [.flag false, .flag true, .flag false])
      | .error _ _ => false) = true := by decide +kernel
  split at hend
  · next u hr =>
    obtain ⟨hsub, hwarm, hcontent, hclosed, hflags, hvalues⟩ := of_decide_eq_true hend
    refine ⟨u, hr, ?_, hvalues⟩
    exact (mirrors_keep_up rfl rfl).2 () u hr 1 1 .focusChanges 1 .always rfl ⟨_, hsub, rfl⟩ hwarm
      ⟨hcontent, hclosed⟩ fun _ => Toolkit.unforced_of_all hflags
  · cases hend

end Code

end WidgetStreams
