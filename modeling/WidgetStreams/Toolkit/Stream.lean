import WidgetStreams.Toolkit.Bridge

/-!
# Subscribing

This file defines what happens when an observer subscribes to a stream.

## Main definitions

- `Client.checkThread` — refuse an observer on a foreign thread
- `Client.connect`, `Client.subscribe` — subscribe an observer to a stream
- `Client.currentValue` — the value with which a subscription would start

## Design notes

The observer learns of its handle before anything is registered. If it disposes
the handle there and then, nothing is registered at all. If the handle is
disposed while the source registers, the registration is undone when the
source is done, because `setAction` runs the action of a disposed handle at once.
-/

namespace WidgetStreams

variable {σ : Type}

/-- The thread on which a source lives. -/
def Source.thread (source : Source) (screen : Screen) : Thread :=
  match source with
  | .widget binding owner _ => screen.thread (binding.point owner)
  | .client _ thread => thread

/-- The stream of a binding on a widget. -/
def Stream.ofBinding (binding : Binding) (owner : Nat) (judge : Judge) : Stream :=
  ⟨.widget binding owner judge, binding.isWarm⟩

/-- The stream of the same source without an initial value. -/
def Stream.cold (s : Stream) : Stream := { s with warm := false }

open UI

namespace Client

/-- Whether the thread `owner` is running, or the check is disabled. Otherwise the observer is
    given a disposed handle and told of the fault. -/
def checkThread (c : Client σ) (owner : Thread) (observer : Observer) : UI σ Bool := do
  let w ← get
  if owner = w.here ∨ w.threadCheck = .disabled then return true
  note (.refused owner w.here)
  let h ← newHandle { disposed := true }
  c.tell observer (.subscribed h)
  c.tell observer (.failed (.wrongThread owner w.here))
  return false

/-- Register a bridge with a source. -/
def attachTo (c : Client σ) (source : Source) (b : BridgeId) : UI σ (Option Nat) := do
  match source with
  | .widget binding owner judge =>
    let (key, s) := (← screen).install (binding.point owner) (.forward binding b judge)
    changeScreen fun _ => s
    return key
  | .client callback _ => c.attach callback b

/-- The current value of a source. -/
def currentValue (c : Client σ) : Source → UI σ Payload
  | .widget binding owner _ => return (← screen).current binding owner
  | .client callback _ => c.current callback

/-- Register an open subscription with its source. A warm stream then starts with the current
    value. -/
def connect (c : Client σ) (stream : Stream) (b : BridgeId) (h : HandleId) : UI σ Unit := do
  note (.attaching h stream.source)
  let key ← c.attachTo stream.source b
  note (.registered h stream.source key)
  c.setAction h (.detach stream.source key)
  note (.attached h key stream.warm)
  if stream.warm then
    let value ← c.currentValue stream.source
    discard (c.emit b value)

/-- Subscribe an observer to a stream. The result is the handle of the subscription. -/
def subscribe (c : Client σ) (stream : Stream) (observer : Observer) : UI σ HandleId := do
  let owner := stream.source.thread (← screen)
  if !(← c.checkThread owner observer) then
    return ← newHandle { disposed := true }
  let (b, h) ← newBridge observer
  note (.subscribing h b stream.source)
  discard (c.dispatch b (.subscribed h))
  if ← isDisposed h then note (.withdrawn h)
  else c.connect stream b h
  note (.concluded h)
  return h

end Client

end WidgetStreams
