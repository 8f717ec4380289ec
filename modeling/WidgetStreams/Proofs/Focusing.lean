import WidgetStreams.Proofs.Concerns

/-!
# Who has the focus

This file proves what the answer to a request for the focus is worth. The journal
tells of everything that gives a view the focus or takes it, so whether a view has
it depends on the last of these events. A request is answered by what the view is
when it is made, and the listener that is told in its course may undo it.

## Main definitions

- `History.focusings` — what gave the focus to a view or took it from there, in order
- `Toolkit.FocusFollows` — between two toolkits the focus goes where the journal tells
- `Concern.focusing` — the focus goes where the journal tells, a concern

## Main results

- `Client.focusing_place` — calls keep it
- `Code.requests_answered` — the answer to a request for the focus, and when it is true

## Design notes

The flags of a view are changed before anybody is told. Between the two no client
code runs.
-/

namespace WidgetStreams

open History UI

variable {σ τ α : Type} {m : Manners} {c : Client (Desk τ)}

/-- Flags with which a view is given the focus when it asks for it. -/
def Flags.mayFocus (f : Flags) : Bool := f.focusable && f.enabled

-- ════════════════════════════════════════════════════════════════════════
-- What the journal tells of the focus
-- ════════════════════════════════════════════════════════════════════════

namespace History

/-- Whether a view has the focus after an event that gives it or takes it: somebody may be told that
    it came or went, or it is set directly. -/
def focusing? (v : ViewId) : Event → Option Bool
  | .dispatched p (.focusChanged _ on) _ => if p = ⟨.focus, v⟩ then some on else none
  | .flagged u chosen on => if u = v ∧ chosen.focused = true then some on else none
  | _ => none

/-- **What gave the focus** to a view or took it from there, in order. -/
def focusings (v : ViewId) (j : List Entry) : List Bool := collect (focusing? v) j

variable {v : ViewId}

theorem focusings_append (v : ViewId) (i j : List Entry) :
    focusings v (i ++ j) = focusings v j ++ focusings v i := collect_append _ _ _

theorem focusings_singleton (v : ViewId) (x : Entry) :
    focusings v [x] = (focusing? v x.event).toList := by
  simp [focusings]

/-- What is apart from the focus gives it to nobody. -/
theorem focusing?_of_isApart {e : Event} (he : e.isApart .focus) : focusing? v e = none := by
  obtain he | ⟨s, hs, he⟩ := he
  · cases e <;> first | rfl | cases he
  · cases e with
    | dispatched p event reached =>
      have hp : p ≠ ⟨.focus, v⟩ := by
        rintro rfl
        exact hs he.1.symm
      cases event <;> first | rfl | exact if_neg hp
    | flagged => exact absurd he hs
    | _ => rfl

theorem focusing?_dispatched_of_ne {u : ViewId} (h : u ≠ v) (on : Bool)
    (content : Option Listener) :
    focusing? v (.dispatched ⟨.focus, u⟩ (.focusChanged u on) content) = none :=
  if_neg fun hp => h (congrArg Point.owner hp)

theorem focusing?_dispatched (on : Bool) (content : Option Listener) :
    focusing? v (.dispatched ⟨.focus, v⟩ (.focusChanged v on) content) = some on := if_pos rfl

end History

namespace Toolkit

/-- **The focus goes where the journal tells** from one toolkit to another. -/
def FocusFollows (v w : Toolkit σ) : Prop :=
  ∃ later, w.journal = later ++ v.journal ∧ ∀ n, (w.screen.flags n).focused =
    (focusings n later).getLast?.getD (v.screen.flags n).focused

namespace FocusFollows

variable {v w u : Toolkit σ}

/-- Where the focus is stays, and nothing is noted. -/
theorem of_same (hj : w.journal = v.journal) (hs : v.screen.SameAt w.screen .focus) :
    v.FocusFollows w := ⟨[], hj, hs⟩

theorem refl (w : Toolkit σ) : w.FocusFollows w := of_same rfl fun _ => rfl

/-- **What is told later counts.** -/
theorem trans (h : v.FocusFollows w) (h' : w.FocusFollows u) : v.FocusFollows u := by
  obtain ⟨first, hj, hfocused⟩ := h
  obtain ⟨second, hj', hfocused'⟩ := h'
  refine ⟨second ++ first, ?_, fun n => ?_⟩
  · rw [hj', hj, List.append_assoc]
  · rw [hfocused' n, hfocused n, focusings_append, List.getLast?_append]
    cases (focusings n second).getLast? <;> rfl

/-- **One event** is noted, with what it says of the focus. -/
theorem of_noted {e : Event} (hj : w.journal = (v.noted e).journal)
    (hfocused : ∀ n, (w.screen.flags n).focused =
      (focusing? n e).getD (v.screen.flags n).focused) : v.FocusFollows w := by
  refine ⟨[⟨v.here, e⟩], hj, fun n => ?_⟩
  rw [hfocused n, focusings_singleton]
  cases focusing? n e <;> rfl

/-- An event is noted that says nothing of the focus. -/
theorem noted (w : Toolkit σ) {e : Event} (he : ∀ n, focusing? n e = none) :
    w.FocusFollows (w.noted e) := by
  refine of_noted rfl fun n => ?_
  rw [he n]
  rfl

end FocusFollows

/-- The toolkit with the chosen flags of a view assigned. -/
def assigned (w : Toolkit σ) (v : ViewId) (chosen : Flags) (on : Bool) : Toolkit σ :=
  w.withScreen fun s => s.setFlags v ((s.flags v).assign chosen on)

theorem focused_assigned (w : Toolkit σ) (v : ViewId) (chosen : Flags) (on : Bool) (n : ViewId) :
    ((w.assigned v chosen on).screen.flags n).focused =
      if v = n ∧ chosen.focused = true then on else (w.screen.flags n).focused := by
  simp only [assigned, withScreen, Screen.flags_setFlags]
  by_cases h : v = n
  · subst h
    simp [Flags.assign]
  · simp [h]

/-- **Flags are set directly**, the focus perhaps among them. -/
theorem FocusFollows.flagged (w : Toolkit σ) (v : ViewId) (chosen : Flags) (on : Bool) :
    w.FocusFollows ((w.assigned v chosen on).noted (.flagged v chosen on)) := by
  refine .of_noted rfl fun n => ?_
  have hscreen := w.focused_assigned v chosen on n
  simp only [focusing?]
  split
  · next h => exact hscreen.trans (if_pos h)
  · next h => exact hscreen.trans (if_neg h)

/-- **The focus comes or goes**, and the slot is told. -/
theorem FocusFollows.told (w : Toolkit σ) (v : ViewId) (on : Bool) (content : Option Listener) :
    w.FocusFollows (((w.assigned v { focused := true } on).noted (.focusChanged v on)).noted
      (.dispatched ⟨.focus, v⟩ (.focusChanged v on) content)) := by
  have hchanged : w.FocusFollows (w.noted (.focusChanged v on)) := .noted w fun _ => rfl
  refine hchanged.trans (.of_noted rfl fun n => ?_)
  have hscreen := w.focused_assigned v { focused := true } on n
  by_cases h : v = n
  · subst h
    rw [focusing?_dispatched]
    exact hscreen.trans (if_pos ⟨rfl, rfl⟩)
  · rw [focusing?_dispatched_of_ne h]
    exact hscreen.trans (if_neg fun hv => h hv.1)

end Toolkit

-- ════════════════════════════════════════════════════════════════════════
-- The focus goes where the journal tells
-- ════════════════════════════════════════════════════════════════════════

/-- **Where the focus is**, a concern. -/
def Concern.focusing : Concern .focus where
  panics := True
  holds _ _ := True
  same := Toolkit.FocusFollows
  refl := .refl
  trans := .trans
  spared _ hj hs := ⟨trivial, .of_same hj hs⟩
  note _ he := ⟨trivial, .noted _ fun _ => focusing?_of_isApart he⟩
  moment _ := trivial

namespace Client

/-- Every toolkit is as this concern wants it. -/
theorem focusing_kept (w : Toolkit (Desk τ)) : Concern.focusing.Kept w :=
  ⟨trivial, fun _ _ _ => trivial⟩

/-- An event that says nothing of the focus. -/
theorem focusing_note {e : Event} (he : ∀ n, focusing? n e = none) :
    Minds Concern.focusing (τ := τ) False Unit (UI.note e) :=
  fun w _ => ⟨focusing_kept _, Toolkit.FocusFollows.noted w.erased he⟩

theorem focusing_setFlags (v : ViewId) (chosen : Flags) (on : Bool) :
    Minds Concern.focusing (τ := τ) False Bool (UI.setFlags v chosen on) :=
  fun w _ => ⟨focusing_kept _, Toolkit.FocusFollows.flagged w.erased v chosen on⟩

variable (hc : c.Has (Minds Concern.focusing))
include hc

/-- **Who listens is told** that the focus came or went. What the listener does then is told after
    that. -/
theorem focusing_tell (w : Toolkit (Desk τ)) (v : ViewId) (on : Bool) :
    Concern.focusing.Ends False
      (fun u => (((w.assigned v { focused := true } on).noted (.focusChanged v on)).noted
        (.dispatched ⟨.focus, v⟩ (.focusChanged v on)
          (w.screen.slot ⟨.focus, v⟩).content)).erased.FocusFollows u.erased)
      (c.tellFocus v on (w.assigned v { focused := true } on)) := by
  have hnotified := Concern.focusing.notify hc (p := ⟨.focus, v⟩) (e := .focusChanged v on)
    (w := (w.assigned v { focused := true } on).noted (.focusChanged v on)) (focusing_kept _)
    (Concern.focusing.refl _) fun listener => focusing_note fun _ => rfl
  exact hnotified.bind (fun _ _ h => h) fun _ u _ hu => ⟨focusing_kept u, hu⟩

theorem focusing_tellFocus (w : Toolkit (Desk τ)) (v : ViewId) (on : Bool) :
    Concern.focusing.Ends False (fun u => w.erased.FocusFollows u.erased)
      (c.tellFocus v on (w.assigned v { focused := true } on)) :=
  (focusing_tell hc w v on).mono id fun _ _ hu =>
    (Toolkit.FocusFollows.told w.erased v on _).trans hu

theorem focusing_requestFocus (v : ViewId) :
    Minds Concern.focusing False Bool (c.requestFocus v) := by
  intro w hw
  simp only [requestFocus, run_flags_bind, run_ite]
  split
  · exact ⟨hw, .refl _⟩
  split
  · exact ⟨hw, .refl _⟩
  · rw [run_assignFlags_bind]
    exact (focusing_tellFocus hc w v true).bind (fun _ _ h => h) fun _ u hu hwu => ⟨hu, hwu⟩

theorem focusing_clearFocus (v : ViewId) : Minds Concern.focusing False Unit (c.clearFocus v) := by
  intro w hw
  simp only [clearFocus, run_flags_bind, run_assignFlags_bind, run_ite]
  split
  · exact focusing_tellFocus hc w v false
  · next hfocused =>
    refine ⟨focusing_kept _, .of_same rfl fun n => ?_⟩
    refine (w.focused_assigned v { focused := true } false n).trans ?_
    split
    · next h =>
      obtain ⟨rfl, -⟩ := h
      exact (Bool.eq_false_iff.mpr hfocused).symm
    · rfl

/-- **Calls keep** the concern where the focus is. -/
theorem focusing_place (k : Call α) : Minds Concern.focusing False α (k.place m c) := by
  refine Concern.focusing.place hc (fun stream b h => ?_) (fun k hs w hw _ => ?_) k
  · exact Concern.focusing.trait.connect hc (fun _ _ => focusing_note fun _ => rfl) stream b h
  · cases k with
    | setFlags v chosen on => exact focusing_setFlags v chosen on w hw
    | requestFocus v => exact focusing_requestFocus hc v w hw
    | clearFocus v => exact focusing_clearFocus hc v w hw
    | setFocusable v focusable =>
      refine Concern.focusing.trait.bind ?_ (fun _ => ?_) w hw
      · exact Concern.focusing.trait.discard (focusing_setFlags v _ focusable)
      · exact Trait.ite (focusing_clearFocus hc v) (Concern.focusing.trait.pure ())
    | _ => simp [Call.sites] at hs

omit hc in
/-- A request of a view that cannot have the focus, or has it already, is answered at once. -/
theorem run_requestFocus_of_settled (c : Client (Desk τ)) {w : Toolkit (Desk τ)} {v : ViewId}
    (h : (w.screen.flags v).mayFocus = false ∨ (w.screen.flags v).focused = true) :
    c.requestFocus v w = .ok (w.screen.flags v).mayFocus w := by
  simp only [requestFocus, run_flags_bind, run_ite]
  cases hmay : (w.screen.flags v).mayFocus with
  | false =>
    rw [Flags.mayFocus] at hmay
    rw [hmay]
    rfl
  | true =>
    have hfocused := h.resolve_left (by simp [hmay])
    rw [Flags.mayFocus] at hmay
    simp [hmay, hfocused]

omit hc in
/-- **Otherwise the view has the focus at once**, and who listens is told before the answer. -/
theorem run_requestFocus_of_new (c : Client (Desk τ)) {w : Toolkit (Desk τ)} {v : ViewId}
    (hmay : (w.screen.flags v).mayFocus = true) (hnew : (w.screen.flags v).focused = false) :
    c.requestFocus v w =
      (c.tellFocus v true >>= fun _ => pure true) (w.assigned v { focused := true } true) := by
  simp only [requestFocus, run_flags_bind, run_ite]
  rw [Flags.mayFocus] at hmay
  simp only [hmay, hnew, Bool.not_true, Bool.false_eq_true, if_false]
  rfl

end Client

namespace Code

variable {code : Code m τ} {depth : Nat}

/-- **Requests for the focus are answered** by whether the view is enabled and focusable. The answer
    comes unless a listener that is told comes to no end. It says whether the view has the focus by
    then, unless the view had it although it cannot be given it, or it was taken from the view while
    the listener was told. -/
theorem requests_answered (w : Toolkit (Desk τ)) (v : ViewId) :
    (∀ e u, (code.client depth).requestFocus v w = .error e u →
      ∃ listener x, (w.screen.slot ⟨.focus, v⟩).content = some listener ∧
        (code.client depth).hearAs listener (.focusChanged v true) x = .error e u) ∧
    ∀ answer u, (code.client depth).requestFocus v w = .ok answer u →
      answer = (w.screen.flags v).mayFocus ∧ ∃ later, u.journal = later ++ w.journal ∧
        (answer = (u.screen.flags v).focused ↔
          if answer = true then (focusings v later).getLast? ≠ some false
          else (w.screen.flags v).focused = false) := by
  let there := w.assigned v { focused := true } true
  have hc : (code.client depth).Has (Minds Concern.focusing) :=
    code.minds (fun _ => trivial) (fun hc _ k => Client.focusing_place hc k) depth
  by_cases hsettled : (w.screen.flags v).mayFocus = false ∨ (w.screen.flags v).focused = true
  · rw [Client.run_requestFocus_of_settled _ hsettled]
    refine ⟨fun e u h => (by cases h), fun answer u h => ?_⟩
    cases h
    refine ⟨rfl, [], rfl, ?_⟩
    cases hmay : (w.screen.flags v).mayFocus with
    | false =>
      rw [if_neg Bool.false_ne_true]
      exact eq_comm
    | true => simp [focusings, hsettled.resolve_left (by simp [hmay])]
  · obtain ⟨hmay, hnew⟩ := not_or.mp hsettled
    rw [Bool.not_eq_false] at hmay
    rw [Bool.not_eq_true] at hnew
    rw [Client.run_requestFocus_of_new _ hmay hnew]
    refine ⟨fun e u h => ?_, fun answer u h => ?_⟩
    · obtain h | ⟨_, _, -, h⟩ := of_bind_error h
      · change discard ((code.client depth).notify ⟨.focus, v⟩ (.focusChanged v true))
          (there.noted (.focusChanged v true)) = _ at h
        obtain ⟨listener, x, hcontent, hx⟩ := Client.error_of_notify (of_discard_error h)
        exact ⟨listener, x, hcontent, hx⟩
      · cases h
    · obtain ⟨_, _, hr, h⟩ := of_bind_ok h
      cases h
      have htold := Client.focusing_tell hc w v true
      rw [hr] at htold
      obtain ⟨later, hj, hfocused⟩ := htold.2
      let told : List Entry := [⟨w.here, .dispatched ⟨.focus, v⟩ (.focusChanged v true)
        (w.screen.slot ⟨.focus, v⟩).content⟩, ⟨w.here, .focusChanged v true⟩]
      refine ⟨hmay.symm, later ++ told, ?_, ?_⟩
      · rw [List.append_assoc]
        exact hj
      have hfirst : focusings v told = [true] := by
        simp [told, focusings, focusing?]
      have hthere : (there.screen.flags v).focused = true :=
        (w.focused_assigned v { focused := true } true v).trans (if_pos ⟨rfl, rfl⟩)
      have hthen : (u.screen.flags v).focused = (focusings v later).getLast?.getD true :=
        (hfocused v).trans (congrArg _ hthere)
      rw [if_pos rfl, focusings_append, hfirst, List.getLast?_append, hthen]
      cases (focusings v later).getLast? with
      | none => simp
      | some on => cases on <;> simp

/-- Its listener gives the focus up when it hears of it first, and asks for it again. -/
def wavering : Code ⟨false, false, true, false⟩ Bool where
  observe _ _ := .done ()
  judge _ _ := .done (.ok true)
  hear _ e :=
    match e with
    | .focusChanged v true =>
      .look fun _ wavered =>
        if wavered then .done false
        else .keep true <|
          .call (.clearFocus v) (fun _ => rfl) (fun h => h.elim id id) fun _ =>
            .call (.requestFocus v) (fun _ => rfl) (fun h => h.elim id id) fun _ => .done false
    | _ => .done false
  release _ := .done (.ok ())
  attach _ _ := .done none
  detach _ _ := .done ()
  current _ := .done .unit
  absorb _ _ := .done (.ok ())

/-- Make a view, and listen for its focus. -/
def listening : Program m τ True True ViewId :=
  .making (.newView .main) fun v => .making (.listen ⟨.focus, v⟩ (some 0)) fun _ => .done v

/-- The listener has given the focus up and asked for it again by the time the answer comes. -/
theorem requests_answered_wavering :
    ∃ w u, wavering.outcome 5 false listening = .ok 1 w ∧
      (wavering.client 5).requestFocus 1 w = .ok true u ∧ (u.screen.flags 1).focused = true ∧
      focusings 1 u.journal = [true, false, true] := by
  obtain ⟨w, hw, htest⟩ : ∃ w, wavering.outcome 5 false listening = .ok 1 w ∧
      (focusings 1 w.journal = [] && answers ((wavering.client 5).requestFocus 1 w) true
        fun u => focusings 1 u.journal = [true, false, true]) = true :=
    exists_of_answers (by decide +kernel)
  obtain ⟨hnone, hasked⟩ := Bool.and_eq_true_iff.mp htest
  obtain ⟨u, hr, hall⟩ := exists_of_answers hasked
  replace hnone := of_decide_eq_true hnone
  replace hall := of_decide_eq_true hall
  obtain ⟨-, later, hj, hright⟩ := (requests_answered w 1).2 true u hr
  have hlater : focusings 1 later = [true, false, true] := by
    rw [hj, focusings_append, hnone] at hall
    exact hall
  have hfocused : true = (u.screen.flags 1).focused := by
    refine hright.mpr ?_
    rw [if_pos rfl, hlater]
    decide
  exact ⟨w, u, hw, hr, hfocused.symm, hall⟩

/-- Its listener gives the focus up when it hears of it. -/
def yielding : Code ⟨false, false, true, false⟩ Unit :=
  { quiet _ with
    hear := fun _ e =>
      match e with
      | .focusChanged v true =>
        .call (.clearFocus v) (fun _ => rfl) (fun h => h.elim id id) fun _ => .done false
      | _ => .done false }

/-- Give the focus to a view, disable the view, and ask again. -/
def disabling : Program m τ True True Bool :=
  .making (.newView .main) fun v =>
    .making (.requestFocus v) fun _ =>
      .making (.setFlags v { enabled := true } false) fun _ =>
        .making (.requestFocus v) fun answer => .done answer

/-- Ask for the focus of a view for which somebody listens. -/
def asking : Program m τ True True Bool :=
  .making (.newView .main) fun v =>
    .making (.listen ⟨.focus, v⟩ (some 0)) fun _ =>
      .making (.requestFocus v) fun answer => .done answer

/-- **The answer may be wrong** either way: a disabled view keeps the focus and is refused it, and a
    view is granted the focus that its listener has given up. -/
theorem answers_may_be_wrong :
    (∃ u, yielding.outcome 4 () disabling = .ok false u ∧ (u.screen.flags 1).focused = true) ∧
    ∃ u, yielding.outcome 4 () asking = .ok true u ∧ (u.screen.flags 1).focused = false := by
  have hgiven : ∃ u, yielding.outcome 4 () asking = .ok true u ∧
      (!(u.screen.flags 1).focused) = true := exists_of_answers (by decide +kernel)
  exact ⟨exists_of_answers (by decide +kernel), by simpa using hgiven⟩

end Code

end WidgetStreams
