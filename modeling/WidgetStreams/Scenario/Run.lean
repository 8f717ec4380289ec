import WidgetStreams.Scenario.Operate

/-!
# Running scenarios

This file defines what the callbacks of a scenario do, and the run of a scenario.

## Main definitions

- `perform` — carry out the instructions of a callback, noting each outcome
- `code` — callbacks that nest up to a depth
- `runStep`, `run` — one step of a scenario, and all of them

## Design notes

`code (n + 1)` answers callbacks by operations that call the library with
`code n`. A scenario that nests deeper than its depth is given up, and is never
answered wrongly.
-/

namespace WidgetStreams

namespace Scenario

open UI Run

/-- Carry out the instructions of a callback one after the other, noting each outcome. -/
def perform (c : Code) : List Instruction → Run Unit
  | [] => return ()
  | .mk label operation :: rest => do
    let outcome ← (operate c operation).run
    trace (.acted label outcome)
    perform c rest

/-- Let a reactor react to a cue. -/
def react (c : Code) (reactor : Nat) (cue : Cue) (v : Value) : Run Unit := do
  let (instructions, r) := ((← state).reactors.get reactor).fire cue v
  change fun s => { s with reactors := s.reactors.put reactor r }
  perform c instructions

/-- An observer of a scenario receives a signal. -/
def observe (c : Code) (n : Nat) (signal : Signal) : Run Unit := do
  match ← callback n, signal with
  | .probe _ _ true, .subscribed _ => return ()
  | .probe name reactor false, .subscribed h =>
    trace (.subscribed name (← isDisposed h))
    assign c name (.handle h)
    react c reactor .subscribe .null
  | .probe name reactor _, .next value =>
    trace (.next name value)
    react c reactor .next value.encode
  | .probe name reactor _, .failed fault =>
    trace (.failed name fault)
    assign c (name ++ ".error") (.fault fault)
    react c reactor .error fault.encode
  | .function name reactor, .next value =>
    trace (.next name value)
    react c reactor .next value.encode
  | .function name reactor, .failed fault =>
    trace (.failed name fault)
    react c reactor .error fault.encode
  | _, _ => return ()

/-- The answer that is due when a predicate was asked `asked` times before. -/
def answerAt (answers : Answers) (asked : Nat) : Except String Bool :=
  answers.getD (asked % answers.length) (.ok true)

/-- A predicate of a scenario is asked about a payload. -/
def judge (c : Code) (n : Nat) (value : Payload) : Run (Except String Bool) := do
  match ← callback n with
  | .predicate name reactor answers asked =>
    let answer := answerAt answers asked
    change fun s =>
      { s with callbacks := s.callbacks.put n (.predicate name reactor answers (asked + 1)) }
    trace (.judged name value answer)
    react c reactor .call value.encode
    return answer
  | _ => return .ok true

/-- A listener of a scenario is told of a native event. -/
def hear (c : Code) (n : Nat) (event : NativeEvent) : Run Bool := do
  match ← callback n with
  | .listener name reactor answer =>
    trace (.heard name event)
    react c reactor event.cue (.list event.arguments)
    return answer
  | _ => return false

/-- An action of a scenario is run. -/
def release (c : Code) (n : Nat) : Run (Except String Unit) := do
  match ← callback n with
  | .action label instructions failure =>
    trace (.released label)
    perform c instructions
    match failure with
    | none => return .ok ()
    | some reason => return .error reason
  | _ => return .ok ()

/-- Emit values on a bridge, noting for each whether it was taken. -/
def emitAll (c : Code) (b : BridgeId) : List Value → Run Unit
  | [] => return ()
  | v :: rest => do
    let accepted ← c.emit b (.data v)
    trace (.emitted accepted)
    emitAll c b rest

/-- A dial registers a bridge, in its list or in its slot. -/
def attach (c : Code) (n : Nat) (b : BridgeId) : Run (Option Nat) := do
  match ← callback n with
  | .source name d judge emitterName emissions _ =>
    trace (.attaching name)
    match emitterName with
    | some emitterName => assign c emitterName (.emitter b)
    | none => pure ()
    let dial := (← state).dials.get d
    let listener : DialListener := ⟨b, judge⟩
    let key ← if dial.shared then do
        let (key, list) := dial.list.add listener
        changeDial d fun dial => { dial with list := list }
        pure (some key)
      else do
        changeDial d fun dial => { dial with slot := (dial.slot.set listener).2 }
        pure none
    emitAll c b emissions
    return key
  | _ => return none

/-- A dial undoes the registration under a key. -/
def detach (c : Code) (n : Nat) (key : Option Nat) : Run Unit := do
  match ← callback n with
  | .source name d _ _ _ onDetach =>
    let dial := (← state).dials.get d
    let removed ← match key with
      | some key => do
        let (old, list) := dial.list.remove key
        changeDial d fun dial => { dial with list := list }
        pure old.isSome
      | none => do
        let (old, slot) := dial.slot.clear
        changeDial d fun dial => { dial with slot := slot }
        pure old.isSome
    trace (.detached name removed)
    react c onDetach .call .null
  | _ => return ()

/-- A dial tells its value. -/
def current (n : Nat) : Run Payload := do
  match ← callback n with
  | .source name d _ _ _ _ =>
    let v := ((← state).dials.get d).value
    trace (.current name v)
    return .data v
  | _ => return .unit

/-- A sink of a scenario takes a value, which must be below its limit. -/
def absorb (n : Nat) (value : Payload) : Run (Except Fault Unit) := do
  match ← callback n, value with
  | .sink name limit, .data (.int m) =>
    trace (.absorbed name value)
    match limit with
    | some limit =>
      if m < limit then return .ok ()
      else return .error (.invalidArgument ("limit " ++ toString limit))
    | none => return .ok ()
  | _, _ => return .ok ()

/-- The callbacks of a scenario, nested up to a depth. -/
def code : Nat → Code
  | 0 => .stalled
  | depth + 1 =>
    { patience := depth + 1
      observe := fun n signal => observe (code depth) n signal
      judge := fun n value => judge (code depth) n value
      hear := fun n event => hear (code depth) n event
      release := fun n => release (code depth) n
      attach := fun n b => attach (code depth) n b
      detach := fun n key => detach (code depth) n key
      current := fun n => current n
      absorb := fun n value => absorb n value }

/-- How a step ended. -/
inductive Ending
  | done (outcome : Outcome)
  | interrupted (i : Interrupt)
  deriving Inhabited

/-- A **step**: an operation, and the name of the object whose state is of interest. -/
structure ScenarioStep where
  operation : Operation
  watched : Option Name

/-- What is reported of a step. -/
structure StepReport where
  ending : Ending
  /-- What callbacks noted, in order. -/
  trace : List Trace
  /-- The state of the watched object after the step. -/
  state : Option Value
  records : List Record
  deriving Inhabited

/-- The toolkit with which a scenario starts. -/
def start : Toolkit State := { client := {} }

/-- The state of the object of a name. -/
def snapshotOf (w : Toolkit State) (name : Name) : Option Value :=
  (w.client.names.find? name).bind (snapshot? w)

/-- Carry a step out, with callbacks nested up to a depth. -/
def runStep (depth : Nat) (w : Toolkit State) (step : ScenarioStep) : StepReport × Toolkit State :=
  let mark := w.journal.length
  let before := { w with client := { w.client with trace := [] } }
  let (ending, after) := match (operate (code depth) step.operation).run before with
    | .ok outcome after => (Ending.done outcome, after)
    | .error i after => (Ending.interrupted i, after)
  ({ ending := ending
     trace := after.client.trace.reverse
     state := step.watched.bind (snapshotOf after)
     records := after.recordsSince mark }, after)

/-- Carry steps out one after the other. -/
def runSteps (depth : Nat) : Toolkit State → List ScenarioStep → List StepReport × Toolkit State
  | w, [] => ([], w)
  | w, step :: rest =>
    let (report, w) := runStep depth w step
    let (reports, w) := runSteps depth w rest
    (report :: reports, w)

/-- The states of all named objects that have one. -/
def finalStates (w : Toolkit State) : List (Name × Value) :=
  w.client.names.pairs.filterMap fun p => (snapshot? w p.2).map fun v => (p.1, v)

/-- How deep the callbacks of a scenario may nest. -/
def depthBound : Nat := 1000000

/-- **Run a scenario**: what is reported of its steps, and the states of its objects at the end. -/
def run (steps : List ScenarioStep) : List StepReport × List (Name × Value) :=
  let (reports, w) := runSteps depthBound start steps
  (reports, finalStates w)

end Scenario

end WidgetStreams
