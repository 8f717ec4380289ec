import WidgetStreams.Fault
import WidgetStreams.Toolkit.Screen

/-!
# The objects of the library

This file defines the objects that stand between a widget and an observer:
streams, handles, bridges and tapes. They refer to each other, and to the
client's code, by number.

## Main definitions

- `Source`, `Stream` — where values come from
- `Handle`, `Release` — a subscription that can be disposed, and what is done then
- `Signal`, `Observer`, `Bridge` — how values are handed over
- `Notification`, `Tape` — what a recording observer keeps
-/

namespace WidgetStreams

/-- The number of a handle. -/
abbrev HandleId := Nat

/-- The number of a bridge. -/
abbrev BridgeId := Nat

/-- The number of a tape. -/
abbrev TapeId := Nat

/-- The number of a scope. -/
abbrev ScopeId := Nat

/-- The number of an override of the setting. -/
abbrev OverrideId := Nat

/-- Where the values of a stream come from. -/
inductive Source
  /-- A binding on the widget of the given number. -/
  | widget (binding : Binding) (owner : Nat) (judge : Judge)
  /-- A source of the client's own that lives on the given thread. -/
  | client (callback : Nat) (thread : Thread)
  deriving Repr, DecidableEq, Inhabited

/-- A **stream**: a source, with or without an initial value. -/
structure Stream where
  source : Source
  /-- Whether a subscription starts with the current value. -/
  warm : Bool
  deriving Repr, DecidableEq, Inhabited

/-- What is done when a handle is disposed. -/
inductive Release
  /-- The client's action of the given number. -/
  | client (action : Nat)
  /-- Undo the registration that a subscription made under a key. -/
  | detach (source : Source) (key : Option Nat)
  deriving Repr, DecidableEq, Inhabited

/-- A **handle**: disposed or not, and what is still to be done when it is disposed. -/
structure Handle where
  disposed : Bool := false
  action : Option Release := none
  deriving Repr, DecidableEq, Inhabited

/-- A **signal**: one call that a bridge makes on its observer. -/
inductive Signal
  /-- The subscription has the given handle. -/
  | subscribed (handle : HandleId)
  | next (value : Payload)
  | failed (fault : Fault)
  deriving Repr, DecidableEq, Inhabited

/-- Who receives signals. -/
inductive Observer
  /-- The client's observer of the given number, which receives all signals. -/
  | client (callback : Nat)
  /-- Two functions of the client, for values and for faults; the second may be missing. -/
  | functions (onNext : Nat) (onFault : Option Nat)
  /-- A tape that records. -/
  | tape (tape : TapeId)
  deriving Repr, DecidableEq, Inhabited

/-- A **bridge**: it hands signals to one observer, one at a time. -/
structure Bridge where
  /-- The handle of the subscription. -/
  handle : HandleId
  observer : Observer
  /-- The thread on which a delivery is running, if one is. -/
  delivering : Option Thread := none
  /-- The signals that came in during a delivery and still wait, oldest first. -/
  queue : List Signal := []
  deriving Repr, DecidableEq, Inhabited

/-- What a tape has recorded. -/
inductive Notification
  | next (value : Payload)
  | failed (fault : Fault)
  deriving Repr, DecidableEq, Inhabited

/-- A **tape**: the notifications not yet taken, and the handle once it is known. -/
structure Tape where
  pending : List Notification := []
  handle : Option HandleId := none
  deriving Repr, DecidableEq, Inhabited

end WidgetStreams
