import WidgetStreams.Proofs.Aborting
import WidgetStreams.Proofs.AlikeStreams

/-!
# Plain streams and event streams

This file proves that a plain stream delivers the projections of what the event
stream of the same source delivers, in runs that are the same but for the two
subscriptions. Where a predicate decides the answer to the widget, the answers
are the same too, if the one predicate is the other after the projection.

## Main definitions

- `Binding.plain?` — the plain binding of an event binding
- `Payload.view?` — the widget that an event names
- `Payload.plain?` — the projection of an event
- `Pairing.projecting` — the pairing of a plain subscription with that to the events

## Main results

- `Binding.matches_of_plain?` — plain bindings match their event bindings
- `Code.plain_streams_project_events` — the plain stream delivers the projections of the events

## Design notes

The event stream leads. The plain streams of searches pass over what is submitted
or dismissed, so their two runs do not take the same time: if the run with the
event stream is given up for want of depth, nothing is said of the other one.
-/

namespace WidgetStreams

open History UI

variable {σ τ : Type} {m : Manners} {K : σ → σ → Prop} {v w : Toolkit σ} {plain event : Binding}
  {n : ViewId} {a : Payload}

-- ════════════════════════════════════════════════════════════════════════
-- Projections
-- ════════════════════════════════════════════════════════════════════════

/-- The plain binding of the same source as an event binding. -/
def Binding.plain? : Binding → Option Binding
  | .clickEvents => some .clicks
  | .longClickEvents => some .longClicks
  | .focusChangeEvents => some .focusChanges
  | .touchEvents => some .touches
  | .hoverEvents => some .hovers
  | .textEvents => some .texts
  | .editorActionEvents => some .editorActions
  | .selectionEvents => some .itemSelections
  | .itemClickEvents => some .itemClicks
  | .itemLongClickEvents => some .itemLongClicks
  | .queryEvents => some .queries
  | .barQueryEvents => some .barQueries
  | _ => none

/-- Whether the plain stream of a source passes over some of the events. -/
def Binding.isPartial : Binding → Bool
  | .queryEvents | .barQueryEvents => true
  | _ => false

namespace Payload

/-- The widget that an event names. -/
def view? : Payload → Option ViewId
  | .click view | .longClick view | .touch view _ | .hover view _ | .focusChange view _
  | .textChange view _ _ _ _ | .afterTextChange view _ | .editorAction view _
  | .itemSelected view _ _ | .nothingSelected view | .itemClick view _ _
  | .itemLongClick view _ _ | .queryText view _ _ | .barQuery view _ _
  | .pageScroll view _ _ _ | .scrollChange view _ _ => some view
  | _ => none

/-- **The projection of an event** drops the widget and the further fields. Nothing is left of a
    query that is submitted, or of a search that is dismissed. -/
def plain? : Payload → Option Payload
  | .click _ | .longClick _ => some .unit
  | .focusChange _ hasFocus => some (.flag hasFocus)
  | .touch _ moved | .hover _ moved => some (.motion moved)
  | .textChange _ content _ _ _ => some (.text content)
  | .editorAction _ action => some (.number action)
  | .itemSelected _ position _ | .itemClick _ position _ | .itemLongClick _ position _ =>
    some (.number position)
  | .nothingSelected _ => some (.number invalidPosition)
  | .queryText _ query false => some (.text query)
  | .barQuery _ query .changed => some (.text query)
  | _ => none

end Payload

/-- What an event binding of a widget delivers: it names the widget, and is passed over by the plain
    stream only in searches. -/
def Payload.IsEventOf (event : Binding) (n : ViewId) (a : Payload) : Prop :=
  a.view? = some n ∧ (event.isPartial = false → a.plain?.isSome)

/-- The pairing of a subscription to a plain binding with one to the event binding. -/
def Pairing.projecting (b : BridgeId) (observer : Observer) (plain event : Binding) (n : ViewId)
    (judge judge' : Judge) : Pairing where
  bridge := b
  observer := observer
  source := .widget plain n judge
  twin := .widget event n judge'
  first := []
  project := Payload.plain?
  proper := Payload.IsEventOf event n

namespace Binding

theorem site_of_plain? (h : event.plain? = some plain) : plain.site = event.site := by
  cases event <;> cases h <;> rfl

theorem isJudged_of_plain? (h : event.plain? = some plain) : plain.isJudged = event.isJudged := by
  cases event <;> cases h <;> rfl

theorem isWarm_of_plain? (h : event.plain? = some plain) : plain.isWarm = event.isWarm := by
  cases event <;> cases h <;> rfl

/-- **A plain binding delivers the projection** of what its event binding delivers, for every native
    event. -/
theorem payload?_of_plain? (h : event.plain? = some plain) (e : NativeEvent) :
    plain.payload? e = (event.payload? e).bind Payload.plain? := by
  cases event <;> cases h <;> cases e <;> rfl

/-- Only what was submitted or dismissed in a search is passed over. -/
theorem isStale_of_plain?_eq_none (h : event.plain? = some plain) {e : NativeEvent}
    (ha : event.payload? e = some a) (hnone : a.plain? = none) :
    event.isPartial = true ∧ event.isJudged = false ∧ e.isStale = true := by
  cases event <;> cases h <;> cases e <;> cases ha <;> cases hnone <;> exact ⟨rfl, rfl, rfl⟩

/-- An event names the widget that has reported it. -/
theorem view?_payload? (h : event.plain? = some plain) {e : NativeEvent}
    (ha : event.payload? e = some a) : a.view? = e.reporter? := by
  cases event <;> cases h <;> cases e <;> cases ha <;> rfl

theorem reporter?_isSome (h : event.plain? = some plain) {e : NativeEvent}
    (ha : event.payload? e = some a) : e.reporter?.isSome := by
  cases event <;> cases h <;> cases e <;> cases ha <;> rfl

/-- **Plain bindings match their event bindings.** -/
theorem matches_of_plain? (h : event.plain? = some plain) {P : Pairing}
    (hproject : P.project = Payload.plain?) (hproper : P.proper = Payload.IsEventOf event n) :
    P.Matches plain event n where
  site := site_of_plain? h
  judged := isJudged_of_plain? h
  payload e := hproject ▸ payload?_of_plain? h e
  passed e a ha hnone := (isStale_of_plain?_eq_none h ha (hproject ▸ hnone)).2
  proper e a ha hview := by
    have hsome := reporter?_isSome h ha
    have hnamed : e.reporter? = some n := hview.resolve_left fun hnone => by simp [hnone] at hsome
    rw [hproper]
    refine ⟨(view?_payload? h ha).trans hnamed, fun hpartial => ?_⟩
    by_contra hnone
    have hstale := isStale_of_plain?_eq_none h ha (by simpa using hnone)
    rw [hpartial] at hstale
    cases hstale.1

end Binding

/-- **A plain stream starts with the projection** of what the event stream starts with. -/
theorem Screen.current_of_plain? (h : event.plain? = some plain) (hwarm : event.isWarm = true)
    (s : Screen) (n : ViewId) :
    (s.current event n).plain? = some (s.current plain n) ∧
      Payload.IsEventOf event n (s.current event n) := by
  cases event <;> cases h <;> cases hwarm
  case selectionEvents =>
    simp only [Screen.current, Payload.IsEventOf]
    split
    · next hnone =>
      rw [hnone]
      exact ⟨rfl, rfl, fun _ => rfl⟩
    · exact ⟨rfl, rfl, fun _ => rfl⟩
  all_goals exact ⟨rfl, rfl, fun _ => rfl⟩

namespace Pairing

variable {b : BridgeId} {observer : Observer} {judge judge' : Judge}

/-- The pairing of plain values with events is lawful where nobody emits events but the widget. -/
theorem lawful_projecting (hev : m.everywhere = false) (h : event.plain? = some plain) :
    (projecting b observer plain event n judge judge').Lawful m where
  widget := by
    rintro event' n' judge'' ⟨⟩
    exact ⟨plain, judge, rfl, Binding.matches_of_plain? h rfl rfl⟩
  client _ _ ht := by cases ht
  free hfree := by
    rw [hev] at hfree
    obtain hfree | ⟨_, _, hfree⟩ := hfree <;> cases hfree

/-- Nothing is passed over but in searches. -/
theorem total_projecting (hpartial : event.isPartial = false) :
    (projecting b observer plain event n judge judge').Total := fun _ ha => ha.2 hpartial

end Pairing

/-- **Two subscriptions are alike**, the one to a plain binding and the other to its event
    binding. -/
theorem Client.Impartial.subscribe_plain {observer : Observer} {judge judge' : Judge}
    {c : Client σ} (hev : m.everywhere = false) (h : event.plain? = some plain)
    (hc : c.Impartial (.projecting w.bridges.next observer plain event n judge judge') K)
    (hs : w.Sound) (hn : w.screen.thread (event.point n) = w.here ∨ w.threadCheck = .disabled) :
    (Pairing.projecting w.bridges.next observer plain event n judge judge').Agree K Eq
      (c.subscribe (.ofBinding plain n judge) observer w)
      (c.subscribe (.ofBinding event n judge') observer w) := by
  let P := Pairing.projecting w.bridges.next observer plain event n judge judge'
  have hpoint : plain.point n = event.point n := congrArg (Point.mk · n) (Binding.site_of_plain? h)
  have hthread : P.source.thread w.screen = P.twin.thread w.screen :=
    congrArg w.screen.thread hpoint
  have hcurrent : event.isWarm = true → P.Alike K (fun a b => P.project b = some a ∧ P.proper b)
      (c.currentValue P.source) (c.currentValue P.twin) := by
    refine fun hwarm => Client.Impartial.screen.bind fun s t hst => .pure ?_
    rw [hst.current plain n]
    exact Screen.current_of_plain? h hwarm t n
  have hwarm : Stream.ofBinding plain n judge = ⟨P.source, event.isWarm⟩ :=
    congrArg (Stream.mk _) (Binding.isWarm_of_plain? h)
  rw [hwarm]
  exact hc.subscribeOwn (Pairing.lawful_projecting hev h) hs rfl rfl rfl
    (hthread ▸ hn) hthread hcurrent

namespace Code

variable {code : Code m τ} {depth : Nat} {S : τ → τ → Prop}

/-- **What the two streams of a source come to** where they are read by the same observer: the plain
    one has delivered the projections of the events, all of which name the widget. -/
structure Projects (S : τ → τ → Prop) (b : BridgeId) (n : ViewId) (v w : Toolkit (Desk τ)) :
    Prop where
  values : values b v.journal = (values b w.journal).filterMap Payload.plain?
  named : ∀ a ∈ History.values b w.journal, a.view? = some n
  own : S v.client.own w.client.own

/-- **Plain streams deliver the projections of the events** of the same source. Two runs begin in
    the same toolkit: the one with a subscription to a plain binding, the other with one to the
    event binding, and then the same is done in both. If the bindings are judged, the predicate of
    the one judges the projection of what the predicate of the other judges. Then all answers are
    the same, those to the widget among them. -/
theorem plain_streams_project_events (hev : m.everywhere = false) {w : Toolkit (Desk τ)}
    (hw : Reached m (Desk.Faithful m) w) (h : event.plain? = some plain) (n : ViewId)
    (judge judge' : Judge) (observer : Observer)
    (hcode : code.Impartial (.projecting w.bridges.next observer plain event n judge judge') S)
    (hjudge : event.isJudged = true →
      code.SameJudge (.projecting w.bridges.next observer plain event n judge judge')
        S judge judge') :
    let P := Pairing.projecting w.bridges.next observer plain event n judge judge'
    let c := code.client depth
    (w.screen.thread (event.point n) ≠ w.here → w.threadCheck = .enforce →
      c.subscribe (.ofBinding plain n judge) observer w =
        c.subscribe (.ofBinding event n judge') observer w) ∧
    (w.screen.thread (event.point n) = w.here ∨ w.threadCheck = .disabled →
      ∀ {s p : Prop} {α : Type} (program program' : HandleId → Program m τ s p α),
        (∀ h, (program h).Alike P S (program' h)) →
        UI.Agree (event.isPartial = false) Eq (Projects S w.bridges.next n)
          ((do (program (← c.subscribe (.ofBinding plain n judge) observer)).run c) w)
          ((do (program' (← c.subscribe (.ofBinding event n judge') observer)).run c) w)) := by
  intro P c
  have hpoint : plain.point n = event.point n := congrArg (Point.mk · n) (Binding.site_of_plain? h)
  refine ⟨fun hn ht => Client.subscribe_congr_of_refused (congrArg w.screen.thread hpoint) hn ht,
    fun hn _ _ _ program program' halike => ?_⟩
  have hP : P.Lawful m := Pairing.lawful_projecting hev h
  have hjudges : code.SameJudges P S := by
    rintro _ _ _ _ _ _ ⟨⟩ ⟨⟩ hjudged
    exact hjudge hjudged
  have hc := hcode.client hjudges hP depth
  have hrun := (hc.subscribe_plain hev h hw.sound hn).bind (T := Eq)
    (f := fun h => (program h).run c)
    (g := fun h => (program' h).run c) fun k k' v y hk hvy => by
      subst hk
      exact (halike k).run hc hP v y hvy
  exact hrun.mono Pairing.total_projecting (fun _ _ => id) fun v y hvy => ⟨hvy.values, fun a ha =>
    (hvy.proper a ha).1, hvy.client⟩

/-- Whether a payload is a motion with which a pointer comes down. -/
def isDown : Payload → Bool
  | .motion moved => moved.action == .down
  | _ => false

/-- Its observer keeps a list of the values that it is handed. Its first judge accepts motions with
    which a pointer comes down, its second judge events of such motions. -/
def acceptingDown : Code ⟨false, false, true, false⟩ (List Payload) where
  observe n signal :=
    match n, signal with
    | 0, .next value => .look fun _ own => .keep (own ++ [value]) (.done ())
    | _, _ => .done ()
  judge n value :=
    match n with
    | 0 => .done (.ok (isDown value))
    | _ => .done (.ok (value.plain?.any isDown))
  hear _ _ := .done true
  release _ := .done (.ok ())
  attach _ _ := .done none
  detach _ _ := .done ()
  current _ := .done .unit
  absorb _ _ := .done (.ok ())

/-- One view, on the main thread. -/
def oneView : Toolkit (Desk (List Payload)) :=
  Toolkit.showing { client := { own := [] } } { views := (Registry.add {} { thread := .main }).2 }

/-- A pointer comes down and moves. -/
def touchingTwice : Program ⟨false, false, true, false⟩ (List Payload) True True (Bool × Bool) :=
  .making (.touch 1 ⟨.down, default, default⟩) fun down =>
    .making (.touch 1 ⟨.move, default, default⟩) fun moved => .done (down, moved)

theorem impartial_acceptingDown {P : Pairing} (hP : P.observer = .client 0) :
    acceptingDown.Impartial P fun _ _ => True where
  equivalence := ⟨fun _ => trivial, fun _ => trivial, fun _ _ => trivial⟩
  observe n signal hn := by
    rw [hP] at hn
    cases n with
    | zero => exact absurd rfl hn
    | succ n => exact .done ()
  judge n value := by
    simp only [acceptingDown]
    split <;> exact .done _
  hear _ _ := .done _
  release _ := .done _
  attach _ _ := .done _
  detach _ _ := .done _
  current _ := .done _
  absorb _ _ := .done _
  records n signal hn own := by
    rw [hP] at hn
    obtain rfl : 0 = n := hn
    cases signal with
    | next value => exact .look fun _ => .keep (.done trivial ())
    | _ => exact .done trivial ()

/-- Both observers accept the first motion and not the second one, and both are told of both. -/
theorem plain_streams_project_events_judged :
    let c := acceptingDown.client 5
    ∃ v w, ((do
        let _ ← c.subscribe (.ofBinding .touches 1 (.client 0)) (.client 0)
        touchingTwice.run c) oneView) = .ok (true, false) v ∧
      ((do
        let _ ← c.subscribe (.ofBinding .touchEvents 1 (.client 1)) (.client 0)
        touchingTwice.run c) oneView) = .ok (true, false) w ∧
      Projects (fun _ _ => True) 1 1 v w ∧
      values 1 w.journal =
        [.touch 1 ⟨.down, default, default⟩, .touch 1 ⟨.move, default, default⟩] := by
  let m : Manners := ⟨false, false, true, false⟩
  let P := Pairing.projecting 1 (.client 0) .touches .touchEvents 1 (.client 0) (.client 1)
  have hreached : Reached m (Desk.Faithful m) oneView := by
    refine ((reached_start []).showing (t := { views := (Registry.add {} { thread := .main }).2 })
      rfl rfl (.of_shown (fun v => ?_) (fun _ => rfl) (fun _ => rfl) (fun _ => rfl) fun _ => rfl)).1
    simp only [Screen.flags, Screen.view, Registry.get, Registry.find?_add_eq]
    split <;> rfl
  have hjudge : acceptingDown.SameJudge P (fun _ _ => True) (.client 0) (.client 1) := by
    refine .client fun a b hab => ?_
    simp only [acceptingDown, show b.plain? = some a from hab, Option.any_some]
    exact .done _
  have halike : touchingTwice.Alike P (fun _ _ => True) touchingTwice := by
    have hshown : ∀ p, ¬ P.Hides p := Pairing.not_hides rfl
    refine .call (.touch 1 ⟨.down, default, default⟩) (fun p _ => hshown p) fun down _ hdown => ?_
    refine .call (.touch 1 ⟨.move, default, default⟩) (fun p _ => hshown p) fun moved _ hmoved => ?_
    rw [show down = _ from hdown, show moved = _ from hmoved]
    exact .done _
  have hboth :=
    @plain_streams_project_events _ m _ _ acceptingDown 5 _ rfl oneView hreached rfl 1 _ _ _
    (impartial_acceptingDown rfl) fun _ => hjudge
  have hagree := hboth.2 (.inl rfl) (fun _ => touchingTwice) (fun _ => touchingTwice)
    fun _ => halike
  -- the run with the events is gone through once
  obtain ⟨w, hw, hvalues⟩ : ∃ w, ((do
      let _ ← (acceptingDown.client 5).subscribe (.ofBinding .touchEvents 1 (.client 1)) (.client 0)
      touchingTwice.run (acceptingDown.client 5)) oneView) = .ok (true, false) w ∧
        values 1 w.journal =
          [.touch 1 ⟨.down, default, default⟩, .touch 1 ⟨.move, default, default⟩] :=
    ⟨_, rfl, by rfl⟩
  rw [hw] at hagree
  obtain ⟨_, v, hv, rfl, hprojects⟩ := hagree
  exact ⟨v, w, hv, hw, hprojects, hvalues⟩

end Code

end WidgetStreams
