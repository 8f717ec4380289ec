import Mathlib.Data.List.Infix
import WidgetStreams.Proofs.History

/-!
# One bridge on its own

This file defines a bridge without the rest of the toolkit: what waits, whether
it delivers and is closed, what it took so far and the calls it made. Its steps
are those that the library can take with a single bridge.

## Main definitions

- `Alternating` — calls that come one after the other
- `Ledger`, `Ledger.Step` — a bridge on its own, and what it may do
- `Ledger.Kept` — the invariant of its steps while its observer does not panic
- `Ledger.Retained`, `Ledger.Final` — what is left of it when its observer may panic

## Main results

- `Ledger.Step.kept`, `Ledger.Step.retained`, `Ledger.Step.final` — every step keeps the invariants
-/

namespace WidgetStreams

open History

/-- **Calls one after the other**: each comes back before the next begins. The last may be
    running. -/
def History.Alternating : List Mark → Prop
  | [] => True
  | [.began _] => True
  | .began _ :: .ended :: rest => Alternating rest
  | _ => False

theorem History.Alternating.began_of_ended {l : List Mark} (h : Alternating l)
    (hl : ¬ ∃ s, l.getLast? = some (.began s)) (s : Signal) : Alternating (l ++ [.began s]) := by
  fun_induction Alternating l with
  | case1 => trivial
  | case2 a => exact absurd ⟨a, rfl⟩ hl
  | case3 a rest ih =>
    refine ih h fun ht => hl (ht.imp fun t ht => ?_)
    rw [List.getLast?_cons_cons]
    cases rest with
    | nil => cases ht
    | cons => rw [List.getLast?_cons_cons]; exact ht
  | case4 => exact absurd h id

theorem History.Alternating.ended_of_began {l : List Mark} (h : Alternating l)
    (hl : ∃ s, l.getLast? = some (.began s)) : Alternating (l ++ [.ended]) := by
  fun_induction Alternating l with
  | case1 =>
    obtain ⟨s, hs⟩ := hl
    cases hs
  | case2 a => trivial
  | case3 a rest ih =>
    refine ih h ?_
    obtain ⟨t, ht⟩ := hl
    rw [List.getLast?_cons_cons] at ht
    cases rest with
    | nil => cases ht
    | cons => exact ⟨t, by rwa [List.getLast?_cons_cons] at ht⟩
  | case4 => exact absurd h id

/-- **The word of a subscription**: after the first signals come values, and then a fault at
    most. -/
def History.IsWord (first signals : List Signal) : Prop :=
  ∃ (values : List Payload) (ending : List Signal), signals = first ++ values.map .next ++ ending ∧
    (ending = [] ∨ ∃ fault, ending = [.failed fault])

/-- **A bridge on its own.** -/
structure Ledger where
  /-- The signals that wait. -/
  queue : List Signal := []
  delivering : Bool := false
  /-- Whether the handle of the bridge is disposed. -/
  closed : Bool := false
  /-- The signals that were taken. -/
  accepted : List Signal := []
  /-- Those of them that were to wait. -/
  waited : List Signal := []
  /-- Those of them whose delivery has not begun. -/
  owed : List Signal := []
  /-- The calls on the observer. -/
  marks : List Mark := []

namespace Ledger

/-- The signals of the calls. -/
def began (l : Ledger) : List Signal := l.marks.filterMap Mark.signal?

/-- A call has not come back. -/
def Running (l : Ledger) : Prop := ∃ s, l.marks.getLast? = some (.began s)

/-- The latest call ends the subscription. -/
def Failed (l : Ledger) : Prop := ∃ fault, l.began.getLast? = some (.failed fault)

/-- **What a bridge may do**, whose observer may panic or not. -/
inductive Step (panics : Bool) : Ledger → Ledger → Prop
  | close {l : Ledger} : Step panics l { l with closed := true }
  | start {l : Ledger} {signal : Signal} (hs : ∀ h, signal ≠ .subscribed h)
      (hd : l.delivering = false) (hc : l.closed = false) :
      Step panics l { l with delivering := true, accepted := l.accepted ++ [signal],
                             marks := l.marks ++ [.began signal] }
  | queue {l : Ledger} {signal : Signal} (hs : ∀ h, signal ≠ .subscribed h)
      (hd : l.delivering = true) (hc : l.closed = false) :
      Step panics l { l with queue := l.queue ++ [signal], accepted := l.accepted ++ [signal],
                             waited := l.waited ++ [signal], owed := l.owed ++ [signal] }
  | comeBack {l : Ledger} (hr : l.Running) (hd : l.delivering = true) :
      Step panics l { l with marks := l.marks ++ [.ended] }
  | advance {l : Ledger} {signal : Signal} {rest : List Signal} (hr : ¬ l.Running)
      (hd : l.delivering = true) (hc : l.closed = false) (hf : ¬ l.Failed)
      (hq : l.queue = signal :: rest) :
      Step panics l { l with queue := rest, marks := l.marks ++ [.began signal],
                             owed := l.owed.erase signal }
  | drop {l : Ledger} (hr : ¬ l.Running) (hd : l.delivering = true) (hc : l.closed = true) :
      Step panics l { l with queue := [] }
  | finish {l : Ledger} (hr : ¬ l.Running) (hd : l.delivering = true)
      (hf : l.closed = true ∨ ¬ l.Failed) (hq : l.queue = []) :
      Step panics l { l with delivering := false }
  | unwind {l : Ledger} (hp : panics = true) (hr : l.Running) (hd : l.delivering = true) :
      Step panics l { l with delivering := false }

/-- **The invariant of a bridge** whose calls begin with those of `first`. -/
structure Kept (first : List Signal) (l : Ledger) : Prop where
  /-- What was taken has been delivered or waits, in the order in which it was taken. -/
  fifo : l.closed = false → l.accepted = l.began ++ l.queue
  /-- What was delivered was taken in this order, though the rest may be dropped. -/
  ordered : l.began <+: l.accepted
  /-- Outside a delivery nothing waits, no call is running, and a fault has closed the bridge. -/
  settled : l.delivering = false →
    l.queue = [] ∧ ¬ l.Running ∧ ∀ fault, .failed fault ∈ l.began → l.closed = true
  word : IsWord first l.began
  /-- What waits is no handle. -/
  waiting : ∀ signal ∈ l.queue, ∀ h, signal ≠ .subscribed h
  alternating : Alternating l.marks

variable {first : List Signal} {l l' : Ledger}

/-- While no fault was delivered, one more call fits the word. -/
theorem Kept.word_snoc (hk : l.Kept first) (hf : ¬ l.Failed) {signal : Signal}
    (hs : ∀ h, signal ≠ .subscribed h) : IsWord first (l.began ++ [signal]) := by
  obtain ⟨values, ending, hw, rfl | ⟨fault, rfl⟩⟩ := hk.word
  · cases signal with
    | subscribed h => exact absurd rfl (hs h)
    | next value =>
      refine ⟨values ++ [value], [], ?_, .inl rfl⟩
      rw [hw]
      simp
    | failed fault =>
      refine ⟨values, [.failed fault], ?_, .inr ⟨fault, rfl⟩⟩
      rw [hw]
      simp
  · refine absurd ⟨fault, ?_⟩ hf
    rw [hw, List.getLast?_concat]

/-- A fault that was delivered is the latest signal, unless it is one of the first. -/
theorem Kept.failed_of_mem (hk : l.Kept first) (hfirst : ∀ fault, .failed fault ∉ first)
    {fault : Fault} (h : .failed fault ∈ l.began) : l.Failed := by
  obtain ⟨values, ending, hw, rfl | ⟨fault', rfl⟩⟩ := hk.word
  · rw [hw] at h
    simp [hfirst] at h
  · exact ⟨fault', by rw [hw, List.getLast?_concat]⟩

theorem began_snoc (l : Ledger) (signal : Signal) :
    (l.marks ++ [Mark.began signal]).filterMap Mark.signal? = l.began ++ [signal] := by
  simp [began, Mark.signal?]

theorem began_ended (l : Ledger) :
    (l.marks ++ [Mark.ended]).filterMap Mark.signal? = l.began := by
  simp [began, Mark.signal?]

/-- **Every step keeps the invariant** of a bridge whose observer does not panic. -/
theorem Step.kept (hfirst : ∀ fault, .failed fault ∉ first) (hk : l.Kept first)
    (h : Step false l l') : l'.Kept first := by
  cases h with
  | close =>
    exact { hk with
      fifo := by simp
      settled := fun hd => ⟨(hk.settled hd).1, (hk.settled hd).2.1, fun _ _ => rfl⟩ }
  | @start signal hs hd hc =>
    -- nothing waits, and no fault was delivered
    obtain ⟨hq, hr, hf⟩ := hk.settled hd
    have hnot : ¬ l.Failed := by
      rintro ⟨fault, hl⟩
      have hcl := hf fault (List.mem_of_getLast? hl)
      rw [hc] at hcl
      cases hcl
    have hall : l.accepted = l.began := by rw [hk.fifo hc, hq, List.append_nil]
    constructor
    · intro _
      rw [began, began_snoc, hall, hq, List.append_nil]
    · rw [began, began_snoc, hall]
    · simp
    · rw [began, began_snoc]
      exact hk.word_snoc hnot hs
    · exact hk.waiting
    · exact hk.alternating.began_of_ended hr signal
  | @queue signal hs hd hc =>
    constructor
    · intro _
      change l.accepted ++ [signal] = l.began ++ (l.queue ++ [signal])
      rw [hk.fifo hc, List.append_assoc]
    · exact hk.ordered.trans (List.prefix_append _ _)
    · intro hd'
      rw [hd] at hd'
      cases hd'
    · exact hk.word
    · intro a ha
      obtain ha | ha := List.mem_append.mp ha
      · exact hk.waiting a ha
      · rw [List.mem_singleton.mp ha]
        exact hs
    · exact hk.alternating
  | comeBack hr hd =>
    constructor
    · rw [began, began_ended]
      exact hk.fifo
    · rw [began, began_ended]
      exact hk.ordered
    · intro hd'
      rw [hd] at hd'
      cases hd'
    · rw [began, began_ended]
      exact hk.word
    · exact hk.waiting
    · exact hk.alternating.ended_of_began hr
  | @advance signal rest hr hd hc hf hq =>
    have hsignal := hk.waiting signal (hq ▸ List.mem_cons_self)
    have hall : l.accepted = l.began ++ [signal] ++ rest := by
      rw [hk.fifo hc, hq, List.append_assoc, List.singleton_append]
    constructor
    · intro _
      rw [began, began_snoc, hall]
    · rw [began, began_snoc, hall]
      exact List.prefix_append _ _
    · intro hd'
      rw [hd] at hd'
      cases hd'
    · rw [began, began_snoc]
      exact hk.word_snoc hf hsignal
    · exact fun a ha => hk.waiting a (hq ▸ List.mem_cons_of_mem _ ha)
    · exact hk.alternating.began_of_ended hr signal
  | drop hr hd hc =>
    constructor
    · intro hc'
      rw [hc] at hc'
      cases hc'
    · exact hk.ordered
    · intro hd'
      rw [hd] at hd'
      cases hd'
    · exact hk.word
    · simp
    · exact hk.alternating
  | finish hr hd hf hq =>
    refine { hk with settled := fun _ => ⟨hq, hr, fun fault h => ?_⟩ }
    exact hf.resolve_right fun hnot => hnot (hk.failed_of_mem hfirst h)
  | unwind hp => cases hp

-- ════════════════════════════════════════════════════════════════════════
-- Observers that panic
-- ════════════════════════════════════════════════════════════════════════

/-- **What waits is what is owed**, however often the observer panicked. It is dropped after a
    disposal only, and not by a panic. -/
structure Retained (l : Ledger) : Prop where
  queue : l.queue = l.owed ∨ l.queue = [] ∧ l.closed = true ∧ ¬ l.Running
  /-- When the latest call of a delivery came back, nothing waits any longer. -/
  rested : l.delivering = false → ¬ l.Running → l.queue = []
  /-- What is owed came last of all that was to wait. -/
  ordered : l.owed <:+ l.waited

/-- What waits at an open bridge is what is owed. -/
theorem Retained.queue_eq (h : l.Retained) (hc : l.closed = false) : l.queue = l.owed := by
  refine h.queue.resolve_right ?_
  rintro ⟨-, hcl, -⟩
  rw [hc] at hcl
  cases hcl

/-- **Every step keeps what is owed**, whether the observer panics or not. -/
theorem Step.retained {panics : Bool} (hl : l.Retained) (h : Step panics l l') : l'.Retained := by
  cases h with
  | close =>
    refine { hl with queue := hl.queue.imp id ?_ }
    rintro ⟨hq, -, hr⟩
    exact ⟨hq, rfl, hr⟩
  | @start signal hs hd hc =>
    refine ⟨.inl (hl.queue_eq hc), ?_, hl.ordered⟩
    simp
  | @queue signal hs hd hc =>
    refine ⟨.inl (by simp [hl.queue_eq hc]), by simp [hd], ?_⟩
    obtain ⟨before, hb⟩ := hl.ordered
    exact ⟨before, by simp [← hb]⟩
  | comeBack hr hd =>
    refine ⟨.inl (hl.queue.resolve_right fun h => h.2.2 hr), by simp [hd], hl.ordered⟩
  | @advance signal rest hr hd hc hf hq =>
    have howed : l.owed.erase signal = rest := by
      rw [← hl.queue_eq hc, hq, List.erase_cons_head]
    refine ⟨.inl howed.symm, by simp [hd], ?_⟩
    change l.owed.erase signal <:+ l.waited
    rw [howed]
    refine List.IsSuffix.trans ?_ (hl.queue_eq hc ▸ hl.ordered)
    rw [hq]
    exact List.suffix_cons _ _
  | drop hr hd hc => exact ⟨.inr ⟨rfl, hc, hr⟩, by simp, hl.ordered⟩
  | finish hr hd hf hq => exact ⟨hl.queue, fun _ _ => hq, hl.ordered⟩
  | unwind hp hr hd => exact ⟨hl.queue, fun _ hn => absurd hr hn, hl.ordered⟩

/-- **A fault whose call came back ends the calls**: it is the last of them, and outside a delivery
    it has closed the bridge. -/
def Final (l : Ledger) : Prop :=
  ∀ before fault after, l.marks = before ++ .began (.failed fault) :: .ended :: after →
    after = [] ∧ (l.delivering = false → l.closed = true)

/-- When the call of a fault came back and was the last, the fault is the latest signal and no call
    is running. -/
theorem Final.of_marks {before : List Mark} {fault : Fault}
    (h : l.marks = before ++ [.began (.failed fault), .ended]) : l.Failed ∧ ¬ l.Running := by
  refine ⟨⟨fault, by simp [began, h, Mark.signal?, List.filterMap_cons]⟩, ?_⟩
  rintro ⟨s, hs⟩
  rw [h, List.append_cons, List.getLast?_concat] at hs
  cases hs

/-- With one mark more, a fault whose call came back has come back just now, or it was the last call
    before. -/
theorem Final.of_snoc (hl : l.Final) {mark : Mark} {before after : List Mark} {fault : Fault}
    (h : l.marks ++ [mark] = before ++ .began (.failed fault) :: .ended :: after) :
    mark = .ended ∧ after = [] ∨
      l.Failed ∧ ¬ l.Running ∧ (l.delivering = false → l.closed = true) := by
  obtain rfl | ⟨rest, last, rfl⟩ := List.eq_nil_or_concat' after
  · have hlast : mark = .ended := by
      have := congrArg List.getLast? h
      rw [List.getLast?_concat, List.append_cons, List.getLast?_concat] at this
      exact Option.some.inj this
    exact .inl ⟨hlast, rfl⟩
  · have hmarks : l.marks = before ++ .began (.failed fault) :: .ended :: rest := by
      have := congrArg List.dropLast h
      rwa [List.dropLast_concat, ← List.cons_append, ← List.cons_append, ← List.append_assoc,
        List.dropLast_concat] at this
    obtain ⟨rfl, hclosed⟩ := hl _ _ _ hmarks
    obtain ⟨hf, hr⟩ := of_marks hmarks
    exact .inr ⟨hf, hr, hclosed⟩

/-- **Every step leaves a fault final** whose call came back: after such a call a delivery does not
    go on, and it ends with the bridge closed, so that none starts. -/
theorem Step.final {panics : Bool} (hl : l.Final) (h : Step panics l l') : l'.Final := by
  intro before fault after he
  cases h with
  | close => exact ⟨(hl _ _ _ he).1, fun _ => rfl⟩
  | start hs hd hc =>
    obtain ⟨hm, -⟩ | ⟨-, -, hcl⟩ := hl.of_snoc he
    · cases hm
    · rw [hcl hd] at hc
      cases hc
  | queue hs hd hc => exact hl _ _ _ he
  | comeBack hr hd =>
    obtain ⟨-, hafter⟩ | ⟨-, hn, -⟩ := hl.of_snoc he
    · exact ⟨hafter, by simp [hd]⟩
    · exact absurd hr hn
  | advance hr hd hc hf hq =>
    obtain ⟨hm, -⟩ | ⟨hfailed, -⟩ := hl.of_snoc he
    · cases hm
    · exact absurd hfailed hf
  | drop hr hd hc => exact hl _ _ _ he
  | finish hr hd hf hq =>
    obtain ⟨rfl, -⟩ := hl _ _ _ he
    exact ⟨rfl, fun _ => hf.resolve_right fun hn => hn (Final.of_marks he).1⟩
  | unwind hp hr hd =>
    obtain ⟨rfl, -⟩ := hl _ _ _ he
    exact absurd hr (Final.of_marks he).2

end Ledger

end WidgetStreams
