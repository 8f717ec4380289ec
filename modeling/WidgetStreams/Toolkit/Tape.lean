import WidgetStreams.Toolkit.Bridge

/-!
# Tapes

This file defines what can be read off a tape. Asking for what is not on it is
a panic.
-/

namespace WidgetStreams

variable {σ : Type}

namespace Tape

/-- The values that were recorded and not yet taken. -/
def values (t : Tape) : List Payload :=
  t.pending.filterMap fun n => match n with
    | .next value => some value
    | .failed _ => none

end Tape

namespace UI

/-- A new tape. -/
def newTape : UI σ TapeId := do
  let (t, tapes) := (← get).tapes.add {}
  modify fun w => { w with tapes := tapes }
  return t

/-- A tape as it is. -/
def tape (t : TapeId) : UI σ Tape := return (← get).tapes.get t

/-- Panic with a text. -/
def panicWith {α : Type} (message : String) : UI σ α := throw (.panic message)

/-- Take the oldest notification. -/
def take (t : TapeId) : UI σ Notification := do
  match (← tape t).pending with
  | [] => panicWith "expected a notification, but none was recorded"
  | n :: rest =>
    modify fun w => { w with tapes := w.tapes.modify t fun tape => { tape with pending := rest } }
    return n

/-- Take the oldest notification, which must be a value. -/
def takeNext (t : TapeId) : UI σ Payload := do
  match ← take t with
  | .next value => return value
  | .failed fault => panicWith ("expected a value, got error: " ++ fault.message)

/-- Take the oldest notification, which must be a fault. -/
def takeFault (t : TapeId) : UI σ Fault := do
  match ← take t with
  | .failed fault => return fault
  | .next _ => panicWith "expected an error, got a value"

/-- Make sure that nothing is left on a tape. -/
def expectEmpty (t : TapeId) : UI σ Unit := do
  let left := (← tape t).pending.length
  if left ≠ 0 then
    panicWith ("assertion \x60left == right\x60 failed: expected no more events, " ++ toString left
      ++ " still queued\n  left: " ++ toString left ++ "\n right: 0")

end UI

end WidgetStreams
