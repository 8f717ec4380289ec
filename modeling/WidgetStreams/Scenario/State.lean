import WidgetStreams.Scenario.Syntax
import WidgetStreams.Toolkit.Scope
import WidgetStreams.Toolkit.Setting

/-!
# What a scenario keeps while it runs

This file defines the state of a running scenario: the named objects, the code
behind the numbers of callbacks, and the trace.

## Main definitions

- `Object` — what a name can stand for
- `Reactor` — reactions with the count of cues and of firings left
- `Callback` — what the number of a callback stands for
- `Dial` — the scenario's own source of values
- `Outcome`, `Trace` — what is noted
- `State`, `Run` — the state, and computations over it
-/

namespace WidgetStreams

namespace Scenario

/-- An **object**: what a name stands for. -/
inductive Object
  | view (v : ViewId)
  | textView (v : ViewId)
  | searchView (v : ViewId)
  | searchBar (v : ViewId)
  | scrollView (v : ViewId)
  | adapterView (v : ViewId)
  | pager (v : ViewId)
  | menu (m : Nat)
  | swipe (n : Nat)
  | handle (h : HandleId)
  | scope (s : ScopeId)
  | guard (o : OverrideId)
  | slot (i : Nat)
  | list (i : Nat)
  | key (k : Nat)
  | bridge (b : BridgeId)
  | emitter (b : BridgeId)
  | stream (s : Stream)
  | sink (s : Sink)
  | tape (t : TapeId)
  | fault (f : Fault)
  | thread (t : Thread)
  | dial (d : Nat)
  deriving Repr, DecidableEq, Inhabited

/-- A **reactor**: reactions, each with the firings it has left, and the cues seen so far. -/
structure Reactor where
  seen : Dict Cue Nat := {}
  reactions : List (Reaction × Nat) := []

namespace Reactor

instance : Inhabited Reactor := ⟨{}⟩

/-- The reactor of reactions none of which has taken place. -/
def ofReactions (reactions : List Reaction) : Reactor :=
  { reactions := reactions.map fun r => (r, r.times) }

/-- Let the reactions that suit a cue use up a firing each, and collect what they do. -/
def choose (cue : Cue) (i : Nat) (v : Value) :
    List (Reaction × Nat) → List Instruction × List (Reaction × Nat)
  | [] => ([], [])
  | (r, left) :: rest =>
    let (instructions, others) := choose cue i v rest
    if left ≠ 0 ∧ r.suits cue i v then (r.instructions v ++ instructions, (r, left - 1) :: others)
    else (instructions, (r, left) :: others)

/-- What the reactions do for a cue, and the reactor afterwards. -/
def fire (r : Reactor) (cue : Cue) (v : Value) : List Instruction × Reactor :=
  let i := (r.seen.find? cue).getD 0
  let (instructions, reactions) := choose cue i v r.reactions
  (instructions, { seen := r.seen.insert cue (i + 1), reactions := reactions })

end Reactor

/-- What the number of a **callback** stands for. Reactors are referred to by number. -/
inductive Callback
  /-- An observer; a bare one pays no heed to its handle. -/
  | probe (name : Name) (reactor : Nat) (bare : Bool)
  /-- A function for the values or for the faults of an observer. -/
  | function (name : Name) (reactor : Nat)
  /-- A listener and its answer. -/
  | listener (name : Name) (reactor : Nat) (answer : Bool)
  /-- A predicate and how often it was asked. -/
  | predicate (name : Name) (reactor : Nat) (answers : Answers) (asked : Nat)
  /-- The action of a handle. -/
  | action (label : Name) (instructions : List Instruction) (failure : Option String)
  /-- A dial as the source of a stream. -/
  | source (name : Name) (dial : Nat) (judge : Option Judge) (emitterName : Option Name)
      (emissions : List Value) (onDetach : Nat)
  /-- A sink, with the limit from which it refuses values. -/
  | sink (name : Name) (limit : Option Int)

instance : Inhabited Callback := ⟨.sink "" none⟩

/-- What a dial tells a turn to. -/
structure DialListener where
  bridge : BridgeId
  /-- The judge of the values; without one they are emitted plainly. -/
  judge : Option Judge
  deriving Repr, DecidableEq, Inhabited

/-- A **dial**: it shows a value and tells its listeners when it is turned. -/
structure Dial where
  value : Value := .null
  /-- Whether listeners go into the list and not into the slot. -/
  shared : Bool := false
  /-- The thread on which the dial lives. -/
  thread : Thread := .main
  slot : Slot DialListener := {}
  list : Registry DialListener := {}
  deriving Repr, DecidableEq

instance : Inhabited Dial := ⟨{}⟩

/-- Why an operation does not do what it is asked to. -/
inductive Refusal
  | widget (e : WidgetError)
  | fault (f : Fault)
  /-- The setting has no such value. -/
  | setting (raw : String)
  /-- The text stands for no payload of the type. -/
  | undecodable
  /-- The name stands for nothing. -/
  | unbound (name : Name)
  /-- The operation makes no sense for its object. -/
  | malformed
  deriving Repr, DecidableEq, Inhabited

/-- The wording of a refusal, if it has one. -/
def Refusal.message? : Refusal → Option String
  | .widget e => some e.message
  | .fault f => some f.message
  | .setting raw =>
    some ("invalid value for " ++ ThreadCheck.variableName ++ ": '" ++ raw ++ "' ["
      ++ ThreadCheck.variableName ++ "][" ++ raw ++ "]")
  | .unbound name => some name
  | .undecodable | .malformed => none

/-- The **outcome** of an operation: plain data, or a refusal. -/
abbrev Outcome := Except Refusal Value

/-- The **trace**: what callbacks note. -/
inductive Trace
  | subscribed (observer : Name) (disposed : Bool)
  | next (observer : Name) (value : Payload)
  | failed (observer : Name) (fault : Fault)
  | judged (name : Name) (value : Payload) (answer : Except String Bool)
  | heard (name : Name) (event : NativeEvent)
  | released (label : Name)
  | attaching (name : Name)
  | emitted (accepted : Bool)
  | detached (name : Name) (removed : Bool)
  | current (name : Name) (value : Value)
  | absorbed (name : Name) (value : Payload)
  /-- An instruction of a reaction or an action came to its end. -/
  | acted (label : String) (outcome : Outcome)
  deriving Inhabited

/-- The **state** of a running scenario. -/
structure State where
  names : Dict Name Object := {}
  /-- The objects that running operations refer to, each as often as it is referred to. -/
  inUse : List Object := []
  reactors : Registry Reactor := {}
  callbacks : Registry Callback := {}
  dials : Registry Dial := {}
  slots : Registry (Slot Value) := {}
  lists : Registry (Registry Value) := {}
  /-- What was noted, latest first. -/
  trace : List Trace := []

instance : Inhabited State := ⟨{}⟩

/-- Computations of a running scenario. -/
abbrev Run := UI State

/-- Clients that a scenario is. -/
abbrev Code := Client State

namespace Run

/-- Change the state of the scenario. -/
def change (f : State → State) : Run Unit := modify fun w => { w with client := f w.client }

/-- The state of the scenario. -/
def state : Run State := return (← get).client

/-- The screen as it is. -/
def screenNow : Run Screen := UI.screen

/-- Note something in the trace. -/
def trace (t : Trace) : Run Unit := change fun s => { s with trace := t :: s.trace }

/-- The object of a name. -/
def find? (name : Name) : Run (Option Object) := return (← state).names.find? name

/-- A new reactor. -/
def newReactor (reactions : List Reaction) : Run Nat := do
  let (n, reactors) := (← state).reactors.add (.ofReactions reactions)
  change fun s => { s with reactors := reactors }
  return n

/-- The number of a new callback. -/
def newCallback (callback : Callback) : Run Nat := do
  let (n, callbacks) := (← state).callbacks.add callback
  change fun s => { s with callbacks := callbacks }
  return n

/-- What a callback stands for. -/
def callback (n : Nat) : Run Callback := return (← state).callbacks.get n

/-- Change a dial. -/
def changeDial (d : Nat) (f : Dial → Dial) : Run Unit :=
  change fun s => { s with dials := s.dials.modify d f }

end Run

end Scenario

end WidgetStreams
