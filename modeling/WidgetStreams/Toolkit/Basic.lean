import WidgetStreams.ThreadCheck
import WidgetStreams.Toolkit.Journal

/-!
# The toolkit

This file defines the state that all operations share, the monad in which they
run, and the client whose code they call back.

## Main definitions

- `Toolkit` — the shared state, over the client's own state `σ`
- `UI` — computations over a toolkit that may be interrupted
- `Client` — the client's code, one function for each kind of callback

## Design notes

Client code is called in the middle of library operations and may call the
library again. Objects therefore refer to client code by number, and every
operation takes a `Client` that says what the numbers mean. A client built on
top of another one calls the library with that other one, so a tower of clients
gives nesting to any depth while every definition stays total.

An interrupt leaves the toolkit as it is at that moment: what was done is not undone.
-/

namespace WidgetStreams

/-- The **toolkit**: the state that all operations share. -/
structure Toolkit (σ : Type) where
  /-- The thread that is running. -/
  here : Thread := .main
  /-- How many threads were started. -/
  started : Nat := 0
  /-- The active setting of the thread check. -/
  threadCheck : ThreadCheck := .enforce
  screen : Screen := {}
  handles : Registry Handle := {}
  bridges : Registry Bridge := {}
  tapes : Registry Tape := {}
  scopes : Registry (List HandleId) := {}
  /-- For each override of the setting that is in force, the setting to go back to. -/
  overrides : Registry ThreadCheck := {}
  /-- What the library did, latest first. -/
  journal : List Entry := []
  /-- The client's own state. -/
  client : σ

/-- Why a computation came to no end. -/
inductive Interrupt
  /-- It panicked with a text. -/
  | panic (message : String)
  /-- It was given up: it waits for itself, or it nests or runs on beyond the bound set for it. -/
  | stalled
  deriving Repr, DecidableEq, Inhabited

/-- **Computations** over a toolkit. An interrupted one leaves the toolkit as far as it came. -/
abbrev UI (σ : Type) := EStateM Interrupt (Toolkit σ)

/-- The client's code. -/
structure Client (σ : Type) where
  /-- How many signals one delivery may hand over without a pause. -/
  patience : Nat
  /-- The observer of a number receives a signal. -/
  observe : Nat → Signal → UI σ Unit
  /-- The predicate of a number answers for a payload, or fails with a text. -/
  judge : Nat → Payload → UI σ (Except String Bool)
  /-- The listener of a number is told of a native event; the answer says whether it is consumed. -/
  hear : Nat → NativeEvent → UI σ Bool
  /-- The action of a number is run; it may fail with a text. -/
  release : Nat → UI σ (Except String Unit)
  /-- The source of a number registers a bridge and gives out a key. -/
  attach : Nat → BridgeId → UI σ (Option Nat)
  /-- The source of a number undoes the registration under a key. -/
  detach : Nat → Option Nat → UI σ Unit
  /-- The source of a number tells its current value. -/
  current : Nat → UI σ Payload
  /-- The sink of a number takes a value, or fails. -/
  absorb : Nat → Payload → UI σ (Except Fault Unit)

namespace Client

variable {σ : Type}

/-- The client whose every callback is given up. -/
def stalled : Client σ where
  patience := 0
  observe _ _ := throw .stalled
  judge _ _ := throw .stalled
  hear _ _ := throw .stalled
  release _ := throw .stalled
  attach _ _ := throw .stalled
  detach _ _ := throw .stalled
  current _ := throw .stalled
  absorb _ _ := throw .stalled

end Client

namespace UI

variable {σ α : Type}

/-- Enter an event into the journal. -/
def note (event : Event) : UI σ Unit :=
  modify fun w => { w with journal := ⟨w.here, event⟩ :: w.journal }

/-- Change the screen. -/
def changeScreen (f : Screen → Screen) : UI σ Unit :=
  modify fun w => { w with screen := f w.screen }

/-- The screen as it is. -/
def screen : UI σ Screen := return (← get).screen

/-- Run `body`, and change the toolkit by `after` at its end, however it ends. -/
def ensuring (after : Toolkit σ → Toolkit σ) (body : UI σ α) : UI σ α := fun w =>
  match body w with
  | .ok a w => .ok a (after w)
  | .error e w => .error e (after w)

/-- Run `body` and turn a panic into a result. -/
def catching (body : UI σ α) : UI σ (Except String α) := fun w =>
  match body w with
  | .ok a w => .ok (.ok a) w
  | .error (.panic message) w => .ok (.error message) w
  | .error .stalled w => .error .stalled w

/-- Run `body` on a new thread and wait for its end. A thread that is interrupted is not joined. -/
def onNewThread (body : UI σ α) : UI σ α := do
  let w ← get
  let thread := .started (w.started + 1)
  set { w with here := thread, started := w.started + 1 }
  let a ← ensuring (fun after => { after with here := w.here }) body
  note (.joined thread)
  return a

end UI

end WidgetStreams
