import WidgetStreams.Toolkit.Bridge

/-!
# Telling listeners

This file defines how listeners are registered directly, and how a native event
reaches what is registered at a point.

## Main definitions

- `UI.listen`, `UI.unlisten`, `UI.removeListener` — listeners that are not of a subscription
- `UI.operate` — an operation of a widget, from its beginning to its end
- `Client.hearAs` — one listener is told of an event
- `Client.notify` — the listener in a slot is told, if there is one
- `Client.notifyAll` — listeners are told one after the other
-/

namespace WidgetStreams

variable {σ : Type}

namespace UI

/-- Register a listener at a point; a shared site gives out a key. -/
def listen (p : Point) (listener : Listener) : UI σ (Option Nat) := do
  let (key, s) := (← screen).install p listener
  changeScreen fun _ => s
  note (.installed p listener)
  return key

/-- Empty the slot at a point. -/
def unlisten (p : Point) : UI σ Unit := do
  changeScreen fun s => s.clearListener p
  note (.cleared p)

/-- Take the listener under a key out of the registry at a point; the answer is whether there was
    one. -/
def removeListener (p : Point) (key : Nat) : UI σ Bool := do
  let (removed, s) := (← screen).removeListener p key
  changeScreen fun _ => s
  note (.removed p key)
  return removed

/-- Run `body` as an operation of the widget at a point, for the listeners that are registered
    there when it begins. It is over however it ends. -/
def operate {α : Type} (p : Point) (body : List Listener → UI σ α) : UI σ α := do
  let listeners := ((← screen).roster p).snapshot
  note (.operating p listeners)
  ensuring (fun w => { w with journal := ⟨w.here, .operated p⟩ :: w.journal }) (body listeners)

end UI

open UI

namespace Client

/-- Tell a listener of an event. The answer says whether the event is consumed. -/
def hearAs (c : Client σ) (listener : Listener) (event : NativeEvent) : UI σ Bool := do
  note (.heard listener event)
  match listener with
  | .client callback => c.hear callback event
  | .silent => return false
  | .forward binding b judge =>
    match binding.payload? event with
    | none => return false
    | some value => if binding.isJudged then c.emitJudged b value judge else c.emit b value

/-- Tell the listener in the slot at a point; `none` if the slot is empty. -/
def notify (c : Client σ) (p : Point) (event : NativeEvent) : UI σ (Option Bool) := do
  let content := ((← screen).slot p).content
  note (.dispatched p event content)
  match content with
  | none => return none
  | some listener => return some (← c.hearAs listener event)

/-- Tell the listener in the slot at a point; an empty slot consumes nothing. -/
def ask (c : Client σ) (p : Point) (event : NativeEvent) : UI σ Bool := do
  return (← c.notify p event).getD false

/-- Tell listeners one after the other. -/
def notifyAll (c : Client σ) (event : NativeEvent) : List Listener → UI σ Unit
  | [] => return ()
  | listener :: rest => do
    discard (c.hearAs listener event)
    c.notifyAll event rest

end Client

end WidgetStreams
