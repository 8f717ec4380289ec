import Mathlib.Data.List.Basic
import WidgetStreams.Toolkit.Basic

/-!
# Reading the journal

This file defines what the journal tells of one bridge and of one handle. The
journal has its latest entry first; everything that is read off it here comes
out earliest first.

## Main definitions

- `Occurred`, `Guarded` — an event is in the journal; every event is in its place
- `accepted`, `marks`, `began` — the signals that a bridge took, its calls, and the signals of them
- `direct`, `waited`, `owed` — the signals that it took to deliver at once, those that it let wait,
  and those that it has not begun to deliver
- `Running` — a call of a bridge has not come back
- `milestones`, `attachings` — how far a subscription has come, and the calls that registered it
- `releases` — the actions that were run for a handle
-/

namespace WidgetStreams

namespace History

variable {α : Type}

/-- An event is in a journal. -/
def Occurred (e : Event) (j : List Entry) : Prop := ∃ x ∈ j, x.event = e

instance (e : Event) (j : List Entry) : Decidable (Occurred e j) :=
  inferInstanceAs (Decidable (∃ x ∈ j, x.event = e))

/-- What `f` makes of the events of a journal, earliest first. -/
def collect (f : Event → Option α) (j : List Entry) : List α :=
  (j.filterMap fun x => f x.event).reverse

@[simp] theorem collect_nil (f : Event → Option α) : collect f [] = [] := rfl

/-- The latest event comes last. -/
@[simp] theorem collect_cons (f : Event → Option α) (x : Entry) (j : List Entry) :
    collect f (x :: j) = collect f j ++ (f x.event).toList := by
  cases h : f x.event <;> simp [collect, h]

theorem collect_append (f : Event → Option α) (i j : List Entry) :
    collect f (i ++ j) = collect f j ++ collect f i := by
  simp [collect]

/-- What `f` makes of events that were noted one after the other. -/
theorem collect_entries (f : Event → Option α) (t : Thread) (es : List Event) :
    collect f (es.map fun e => (⟨t, e⟩ : Entry)).reverse = es.filterMap f := by
  rw [collect, List.filterMap_reverse, List.reverse_reverse, List.filterMap_map]
  rfl

theorem mem_collect {f : Event → Option α} {j : List Entry} {a : α} :
    a ∈ collect f j ↔ ∃ e, Occurred e j ∧ f e = some a := by
  constructor
  · intro h
    obtain ⟨x, hx, ha⟩ := List.mem_filterMap.mp (List.mem_reverse.mp h)
    exact ⟨x.event, ⟨x, hx, rfl⟩, ha⟩
  · rintro ⟨_, ⟨x, hx, rfl⟩, ha⟩
    exact List.mem_reverse.mpr (List.mem_filterMap.mpr ⟨x, hx, ha⟩)

@[simp] theorem not_occurred_nil (e : Event) : ¬ Occurred e [] := by
  rintro ⟨_, h, _⟩
  cases h

@[simp] theorem occurred_cons {e : Event} {x : Entry} {j : List Entry} :
    Occurred e (x :: j) ↔ x.event = e ∨ Occurred e j := by
  simp [Occurred]

/-- **Every event is in its place**: `P` holds of the entries before it and of the event. -/
def Guarded (P : List Entry → Event → Prop) (j : List Entry) : Prop :=
  ∀ later x earlier, j = later ++ x :: earlier → P earlier x.event

theorem guarded_nil (P : List Entry → Event → Prop) : Guarded P [] := by
  intro later x earlier h
  simp at h

theorem guarded_cons {P : List Entry → Event → Prop} {x : Entry} {j : List Entry} :
    Guarded P (x :: j) ↔ P j x.event ∧ Guarded P j := by
  constructor
  · intro h
    refine ⟨h [] x j rfl, fun later y earlier hj => h (x :: later) y earlier ?_⟩
    rw [hj, List.cons_append]
  · rintro ⟨hx, h⟩ later y earlier hj
    cases later with
    | nil =>
      obtain ⟨rfl, rfl⟩ := List.cons.inj hj
      exact hx
    | cons z later =>
      obtain ⟨rfl, rfl⟩ := List.cons.inj hj
      exact h later y earlier rfl

/-- A **mark** of a bridge: a call on its observer begins or comes back. -/
inductive Mark
  | began (signal : Signal)
  | ended
  deriving Repr, DecidableEq

/-- The signal with which a call began. -/
def Mark.signal? : Mark → Option Signal
  | .began signal => some signal
  | .ended => none

/-- The signal that an event says a bridge took. -/
def accepted? (b : BridgeId) : Event → Option Signal
  | .accepted bridge signal _ => if bridge = b then some signal else none
  | _ => none

/-- The mark that an event is for a bridge. -/
def mark? (b : BridgeId) : Event → Option Mark
  | .began bridge signal => if bridge = b then some (.began signal) else none
  | .ended bridge => if bridge = b then some .ended else none
  | _ => none

/-- The signals that a bridge took, to deliver them at once or later. -/
def accepted (b : BridgeId) (j : List Entry) : List Signal := collect (accepted? b) j

/-- The signal that an event says a bridge took in a certain way: to let it wait, or to deliver it
    at once. -/
def taken? (b : BridgeId) (waits : Bool) : Event → Option Signal
  | .accepted bridge signal queued => if bridge = b ∧ queued = waits then some signal else none
  | _ => none

/-- The signals that a bridge took to deliver them at once. -/
def direct (b : BridgeId) (j : List Entry) : List Signal := collect (taken? b false) j

/-- The signals that a bridge took and let wait. -/
def waited (b : BridgeId) (j : List Entry) : List Signal := collect (taken? b true) j

/-- **What a bridge owes**: the signals that it took and has not begun to deliver. One that is to be
    delivered at once comes before those that wait. -/
def owed (b : BridgeId) : List Entry → List Signal
  | [] => []
  | x :: earlier =>
    match x.event with
    | .accepted bridge signal queued =>
      if bridge = b then if queued then owed b earlier ++ [signal] else signal :: owed b earlier
      else owed b earlier
    | .began bridge signal =>
      if bridge = b then (owed b earlier).erase signal else owed b earlier
    | _ => owed b earlier

/-- The calls of a bridge on its observer. -/
def marks (b : BridgeId) (j : List Entry) : List Mark := collect (mark? b) j

/-- The signals with which the calls of a bridge began. -/
def began (b : BridgeId) (j : List Entry) : List Signal := (marks b j).filterMap Mark.signal?

/-- A call of a bridge has begun and has not come back. -/
def Running (b : BridgeId) (j : List Entry) : Prop := ∃ s, (marks b j).getLast? = some (.began s)

/-- The handle of the subscription that an event takes a stage further. -/
def subscription? : Event → Option HandleId
  | .subscribing h _ _ | .withdrawn h | .attaching h _ | .registered h _ _ | .attached h _ _
  | .concluded h => some h
  | _ => none

/-- An event that takes the subscription of a handle a stage further. -/
def milestone? (h : HandleId) (e : Event) : Option Event :=
  if subscription? e = some h then some e else none

/-- How far the subscription of a handle has come. -/
def milestones (h : HandleId) (j : List Entry) : List Event := collect (milestone? h) j

theorem mem_milestones {h : HandleId} {e : Event} {j : List Entry} :
    e ∈ milestones h j ↔ Occurred e j ∧ subscription? e = some h := by
  rw [milestones, mem_collect]
  constructor
  · rintro ⟨a, ha, he⟩
    rw [milestone?] at he
    split at he
    · next hs =>
      cases he
      exact ⟨ha, hs⟩
    · cases he
  · rintro ⟨ho, hs⟩
    exact ⟨e, ho, if_pos hs⟩

/-- The sources that were called to register the subscription of a handle. -/
def attachings (h : HandleId) (j : List Entry) : List Source :=
  (milestones h j).filterMap fun e =>
    match e with
    | .attaching _ source => some source
    | _ => none

/-- Client code has given a handle an action. -/
def rearmed (h : HandleId) (j : List Entry) : Bool :=
  j.any fun x =>
    match x.event with
    | .armed handle (.client _) => handle == h
    | _ => false

theorem rearmed_eq_false {h : HandleId} {j : List Entry} :
    rearmed h j = false ↔ ∀ n, ¬ Occurred (.armed h (.client n)) j := by
  rw [rearmed, List.any_eq_false]
  constructor
  · rintro hj n ⟨x, hx, he⟩
    refine hj x hx ?_
    rw [he]
    exact beq_self_eq_true h
  · intro hj x hx hr
    split at hr
    · next k n he => exact hj n ⟨x, hx, by rw [he, eq_of_beq hr]⟩
    · cases hr

/-- The action that an event says is run for a handle. -/
def release? (h : HandleId) : Event → Option Release
  | .releasing handle action => if handle = h then some action else none
  | _ => none

/-- The actions that were run for a handle. -/
def releases (h : HandleId) (j : List Entry) : List Release := collect (release? h) j

end History

end WidgetStreams
