import WidgetStreams.Toolkit.Sink
import WidgetStreams.Payload.Codec

/-!
# Scenarios

This file defines the language of scenarios: programs that create widgets,
streams and observers under names, act on them, and react to what they are told.

## Main definitions

- `Cue` — what can set a reaction off
- `Instruction` — an operation and the label under which its outcome is noted
- `Operation` — what a scenario can do
- `Reaction` — operations that run from inside a callback

## Design notes

What a reaction does is a function of the value it reacts to. Operations refer
to objects by name, and names are resolved when the operation runs.
-/

namespace WidgetStreams

/-- The name of an object in a scenario. -/
abbrev Name := String

/-- A **cue**: the kind of a call that a reaction can react to. -/
inductive Cue
  | next
  | error
  | subscribe
  | call
  | before
  | on
  | after
  | selected
  | nothing
  | change
  | submit
  | keyboard
  | scrolled
  | state
  deriving Repr, DecidableEq, Inhabited

namespace Cue

/-- All cues. -/
def all : List Cue :=
  [.next, .error, .subscribe, .call, .before, .on, .after, .selected, .nothing, .change, .submit,
   .keyboard, .scrolled, .state]

/-- The name of a cue. -/
def name : Cue → String
  | .next => "next"
  | .error => "error"
  | .subscribe => "subscribe"
  | .call => "call"
  | .before => "before"
  | .on => "on"
  | .after => "after"
  | .selected => "selected"
  | .nothing => "nothing"
  | .change => "change"
  | .submit => "submit"
  | .keyboard => "keyboard"
  | .scrolled => "scrolled"
  | .state => "state"

end Cue

/-- The answers that a predicate gives in turn, each a truth value or a failure; a predicate without
    answers says yes to everything. -/
abbrev Answers := List (Except String Bool)

/-- The kinds of observers in a scenario. -/
inductive ObserverKind
  /-- An observer that notes everything and keeps the handle. -/
  | probe
  /-- A probe without interest in its handle. -/
  | bare
  /-- A function for values. -/
  | valueFunction
  /-- A function for values and one for faults. -/
  | bothFunctions
  /-- A tape. -/
  | recorder
  deriving Repr, DecidableEq, Inhabited

/-- The kinds of handles that a scenario makes itself. -/
inductive HandleKind
  /-- A handle whose action cannot fail. -/
  | infallible
  /-- A handle whose action may fail. -/
  | fallible
  /-- A handle without an action. -/
  | empty
  /-- A handle that is disposed from the start. -/
  | disposed
  deriving Repr, DecidableEq, Inhabited

/-- What kind of widget to create, with what it starts with. -/
inductive WidgetKind
  | view
  | textView
  | searchView
  | searchBar
  | scrollView
  | adapterView (ids : List Int64)
  | pager (count : Nat)
  | menu (anchor : Name) (items : List MenuItem)
  | swipe (view : Name)
  deriving Repr, Inhabited

/-- The registration points of widgets, as scenarios call them. -/
inductive ListenerKind
  | click
  | longClick
  | focus
  | touch
  | hover
  | watcher
  | editorAction
  | itemClick
  | itemLongClick
  | itemSelected
  | query
  | page
  | dismiss
  | scroll
  deriving Repr, DecidableEq, Inhabited

/-- What can be asked of an object. -/
inductive Method
  | describe
  -- views
  | id
  | click
  | longClick
  | requestFocus
  | clearFocus
  | setFocusable (on : Bool)
  /-- Set the chosen flags; the answer is whether any changed. -/
  | setFlag (chosen : Flags) (on : Bool)
  /-- Set the chosen flags. -/
  | putFlag (chosen : Flags) (on : Bool)
  | setVisibility (visibility : Visibility)
  | touch (motion : Motion)
  | hover (motion : Motion)
  | describeFlags
  | threadIsCurrent
  -- text views
  | setText (s : String)
  | append (s : String)
  | text
  | editorAction (action : Int32)
  -- text views and pagers
  | removeListener (key : Name)
  -- adapter views
  | select (position : Int32)
  | clearSelection
  | setItems (ids : List Int64)
  | itemIdAt (position : Int32)
  | clickItem (position : Int32)
  | longClickItem (position : Int32)
  -- searches
  | setQuery (s : String) (submit : Bool)
  | submitQuery
  | setBarQuery (s : String)
  | submitBar
  | dismissKeyboard
  -- pagers
  | setPage (page : Nat) (smooth : Bool)
  | swipeTo (page : Nat)
  | setPageWidth (width : Int32)
  -- menus and swipe behaviours
  | showMenu
  | dismissMenu
  | chooseItem (id : Int32)
  | items
  | swipe
  -- scroll views
  | scrollTo (x y : Int32)
  | scrollBy (dx dy : Int32)
  -- tapes
  | take
  | takeNext
  | takeError
  | expectEmpty
  | values
  | pending
  | handle
  deriving Repr, Inhabited

/-- How a fault is made. -/
inductive FaultSpec
  | callback (reason : String)
  | wrapping (inner : Name)
  | invalidArgument (reason : String)
  deriving Repr, Inhabited

/-- What an observer made by hand is fed with. -/
inductive Feed
  | subscribe
  | next (v : Value)
  | error (fault : Fault)
  deriving Repr, Inhabited

/-- Where a sink leads. -/
inductive SinkTarget
  | widget (binding : SinkBinding) (target : Name)
  /-- A visibility sink; the other visibility, if one is given, may be refused. -/
  | visibility (target : Name) (whenFalse : Option Visibility)
  /-- A sink of the scenario itself; with a limit it refuses values from the limit on. -/
  | custom (limit : Option Int)
  deriving Repr, Inhabited

mutual

/-- An operation and the label under which its outcome is noted in a reaction. -/
inductive Instruction
  | mk (label : String) (operation : Operation)

/-- **Reactions**: on the given cue, if it is the `index`-th of its kind and its value is the given
    one (where those are given), the instructions for the value are run; `times` times at most. -/
inductive Reaction
  | mk (cue : Cue) (index : Option Nat) (value : Option Value) (times : Nat)
      (instructions : Value → List Instruction)

/-- An observer of a kind, with its reactions. -/
inductive ObserverSpec
  | mk (kind : ObserverKind) (reactions : List Reaction)

/-- A predicate: without answers it always says yes and leaves no trace. -/
inductive PredicateSpec
  | always
  | scripted (answers : Answers) (reactions : List Reaction)

/-- The **operations** of scenarios. -/
inductive Operation
  /-- An operation that makes no sense. -/
  | malformed
  -- objects
  | create (kind : WidgetKind) (name : Name) (owner : Option Name)
  | call (target : Name) (method : Method)
  | listen (target : Name) (kind : ListenerKind) (name : Name) (answer silent : Bool)
      (reactions : List Reaction)
  | unlisten (target : Name) (kind : ListenerKind)
  | viewOf (target name : Name)
  | clone (target name : Name)
  | drop (target : Name)
  | same (a b : Name)
  | state (target : Name)
  | mark (v : Value)
  | panic (message : String)
  | onThread (instructions : List Instruction)
  | describe (target : Name)
  -- handles and scopes
  | newHandle (name : Name) (kind : HandleKind) (instructions : List Instruction)
      (failure : Option String)
  | dispose (target : Name)
  | isDisposed (target : Name)
  | setAction (target : Name) (label : Name) (instructions : List Instruction)
      (failure : Option String)
  | newScope (name : Name)
  | hold (target : Name) (handles : List Name)
  | subscribeIn (target stream name : Name) (observer : ObserverSpec)
  | clearScope (target : Name)
  -- slots and lists
  | newSlot (name : Name)
  | setSlot (target : Name) (v : Value)
  | clearSlot (target : Name)
  | newList (name : Name)
  | add (target : Name) (v : Value) (name : Name)
  | remove (target key : Name)
  -- the setting
  | parseCheck (raw : String)
  | checkOf (raw : Option String)
  | currentCheck
  | installCheck (check : ThreadCheck)
  | overrideCheck (check : ThreadCheck) (name : Name)
  -- faults, threads, observers
  | newFault (name : Name) (spec : FaultSpec)
  | faultInfo (target : Name)
  | thread (name : Name)
  | threadIsCurrent (target : Name)
  | checkThread (target name : Name) (observer : ObserverSpec)
  | observe (name : Name) (handlesErrors : Bool) (reactions : List Reaction) (events : List Feed)
  -- bridges and emitters
  | newBridge (name : Name) (observer : ObserverSpec)
  | emit (target : Name) (v : Value)
  | emitJudged (target : Name) (v : Value) (predicate : PredicateSpec)
  | fail (target : Name) (fault : Fault)
  | handleOf (target name : Name)
  -- streams
  | bind (binding : Binding) (target name : Name) (predicate : PredicateSpec)
  | subscribe (stream name : Name) (observer : ObserverSpec)
  | skipInitial (target name : Name)
  | currentValue (target : Name)
  | sourceIsCurrent (target : Name)
  -- dials
  | newDial (name : Name) (v : Value) (shared : Bool)
  | turn (target : Name) (v : Value)
  | bindDial (target name : Name) (warm : Bool) (predicate : Option PredicateSpec)
      (emitterName : Option Name) (emissions : List Value) (onDetach : List Reaction)
  -- sinks
  | newSink (name : Name) (target : SinkTarget)
  | accept (sink : Name) (v : Value)
  | contramap (sink name : Name) (start : String) (amount : Int)
  -- values
  | isHover (action : MotionAction)
  | constants
  | decode (type : PayloadType) (json : String)
  | decodeSelectionView (json : String)

end

instance : Inhabited Operation := ⟨.malformed⟩

namespace Instruction

instance : Inhabited Instruction := ⟨.mk "" .malformed⟩

/-- The label of an instruction. -/
def label : Instruction → String
  | .mk label _ => label

/-- The operation of an instruction. -/
def operation : Instruction → Operation
  | .mk _ operation => operation

end Instruction

namespace Reaction

/-- The cue that sets a reaction off. -/
def cue : Reaction → Cue
  | .mk cue _ _ _ _ => cue

/-- How many times a reaction takes place at most. -/
def times : Reaction → Nat
  | .mk _ _ _ times _ => times

/-- Whether a reaction is set off by the `i`-th cue of a kind, with the value `v`. -/
def suits (r : Reaction) (cue : Cue) (i : Nat) (v : Value) : Bool :=
  match r with
  | .mk c index value _ _ =>
    c == cue && index.all (· == i) && value.all (Value.same · v)

/-- What a reaction does for a value. -/
def instructions : Reaction → Value → List Instruction
  | .mk _ _ _ _ instructions => instructions

end Reaction

end WidgetStreams
