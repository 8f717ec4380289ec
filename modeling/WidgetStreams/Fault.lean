import WidgetStreams.Thread
import WidgetStreams.Text.Quoted

/-!
# What an observer is told when its stream fails

This file defines `Fault`, the causes for which a stream ends with an error.

## Main definitions

- `Fault` — the cause
- `Fault.message` — its wording
- `Fault.causes` — the wordings of the causes behind it, nearest first
- `Fault.description` — the form in which a fault describes its own structure
-/

namespace WidgetStreams

/-- A **fault**: why a stream failed. -/
inductive Fault
  /-- Something reserved for the thread `expected` was asked for on the thread `actual`. -/
  | wrongThread (expected actual : Thread)
  /-- A callback of the client failed and left a text. -/
  | callback (reason : String)
  /-- A callback of the client failed, and the reason is a fault itself. -/
  | callbackFault (reason : Fault)
  /-- An argument was refused. -/
  | invalidArgument (reason : String)
  deriving Repr, DecidableEq, Inhabited

namespace Fault

/-- The wording of a fault. -/
def message : Fault → String
  | .wrongThread expected actual =>
    "expected to be called on the UI thread " ++ expected.label ++ " but was called on " ++
      actual.label
  | .callback reason => "listener callback failed: " ++ reason
  | .callbackFault reason => "listener callback failed: " ++ reason.message
  | .invalidArgument reason => reason

/-- The wordings of the causes behind a fault, nearest first. -/
def causes : Fault → List String
  | .callback reason => [reason]
  | .callbackFault reason => reason.message :: reason.causes
  | _ => []

/-- How a fault describes its structure. -/
def description : Fault → String
  | .wrongThread expected actual =>
    "WrongThread \x7b expected: " ++ expected.label ++ ", actual: " ++ actual.label ++ " \x7d"
  | .callback reason => "Callback(" ++ Text.quote reason ++ ")"
  | .callbackFault reason => "Callback(" ++ reason.description ++ ")"
  | .invalidArgument reason => "InvalidArgument(" ++ Text.quote reason ++ ")"

end Fault

end WidgetStreams
