import WidgetStreams.Toolkit.TextView
import WidgetStreams.Toolkit.Search
import WidgetStreams.Toolkit.Pager

/-!
# Sinks

This file defines sinks, which put values into widgets: the counterpart of
streams.

## Main definitions

- `SinkBinding` — the sinks on offer
- `Adapter` — what a value passes through on its way
- `Sink` — a binding on a widget, or client code, behind adapters
- `Client.accept` — put a value into a sink
-/

namespace WidgetStreams

variable {σ : Type}

/-- A sink that a widget offers. -/
inductive SinkBinding
  | activated
  | clickable
  | enabled
  | pressed
  | selected
  /-- True makes the view visible, false gives it the other visibility. -/
  | visibility (whenFalse : Visibility)
  | text
  | query (submit : Bool)
  | barQuery
  | selection
  | currentPage
  deriving Repr, DecidableEq, Inhabited

/-- What becomes of a value before a sink takes it. -/
inductive Adapter
  | negate
  | prepend (start : String)
  /-- Add to a number, within its width. -/
  | add (n : Int)
  deriving Repr, DecidableEq, Inhabited

/-- A **sink**. -/
inductive Sink
  | widget (binding : SinkBinding) (view : ViewId)
  | client (callback : Nat)
  | adapted (adapter : Adapter) (sink : Sink)
  deriving Repr, DecidableEq, Inhabited

/-- Why a sink does not take a value. -/
inductive SinkError
  | widget (e : WidgetError)
  | fault (f : Fault)
  deriving Repr, DecidableEq, Inhabited

/-- The value behind an adapter; one that it does not fit passes as it is. -/
def Adapter.apply : Adapter → Payload → Payload
  | .negate, .flag on => .flag (!on)
  | .prepend start, .text s => .text (start ++ s)
  | .add n, .number m => .number (m + Int32.ofInt n)
  | .add n, .page p => .page (((p + n) % UInt64.size).toNat)
  | .add n, .data (.int m) => .data (.int (Int64.ofInt m + Int64.ofInt n).toInt)
  | _, value => value

/-- The sink that makes a view visible or makes it gone. -/
def Sink.shown (view : ViewId) : Sink := .widget (.visibility .gone) view

/-- The sink that makes a view visible or gives it another visibility, which must differ. -/
def Sink.visibility? (view : ViewId) (whenFalse : Visibility) : Except Fault Sink :=
  if whenFalse = .visible then
    .error (.invalidArgument "setting visibility to Visible when false would have no effect")
  else .ok (.widget (.visibility whenFalse) view)

open UI

namespace Client

/-- Put a value into a widget. A value of another type than the widget takes does nothing. -/
def put (c : Client σ) (v : ViewId) : SinkBinding → Payload → UI σ (Except WidgetError Unit)
  | .activated, .flag on => return .ok (← discard (setFlags v { activated := true } on))
  | .clickable, .flag on => return .ok (← discard (setFlags v { clickable := true } on))
  | .enabled, .flag on => return .ok (← discard (setFlags v { enabled := true } on))
  | .pressed, .flag on => return .ok (← discard (setFlags v { pressed := true } on))
  | .selected, .flag on => return .ok (← discard (setFlags v { selected := true } on))
  | .visibility whenFalse, .flag on =>
    return .ok (← setVisibility v (if on then .visible else whenFalse))
  | .text, .text s => return .ok (← c.setText v s)
  | .query submit, .text s => return .ok (← c.setQuery v s submit)
  | .barQuery, .text s => return .ok (← c.setBarQuery v s)
  | .selection, .number position => c.select v position
  | .currentPage, .page page => c.setPage v page false
  | _, _ => return .ok ()

/-- Put a value into a sink. -/
def accept (c : Client σ) : Sink → Payload → UI σ (Except SinkError Unit)
  | .widget binding view, value => return (← c.put view binding value).mapError .widget
  | .client callback, value => return (← c.absorb callback value).mapError .fault
  | .adapted adapter sink, value => c.accept sink (adapter.apply value)

end Client

end WidgetStreams
