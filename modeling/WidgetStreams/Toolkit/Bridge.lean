import WidgetStreams.Toolkit.Handle

/-!
# Bridges

This file defines how a bridge hands signals to its observer: one after the
other, in the order in which it took them, and none after the subscription is
disposed. A signal that comes in while the observer is being called waits.

## Main definitions

- `Client.tell` — one call on an observer
- `Client.deliver`, `Client.dispatch` — take a signal
- `Client.emit`, `Client.emitJudged`, `Client.fail` — the uses of `dispatch`
-/

namespace WidgetStreams

variable {σ : Type}

namespace UI

/-- A new bridge to an observer, and its handle. -/
def newBridge (observer : Observer) : UI σ (BridgeId × HandleId) := do
  let h ← newHandle {}
  let (b, bridges) := (← get).bridges.add { handle := h, observer := observer }
  modify fun w => { w with bridges := bridges }
  return (b, h)

/-- A bridge as it is. -/
def bridge (b : BridgeId) : UI σ Bridge := return (← get).bridges.get b

/-- Change a bridge. -/
def changeBridge (b : BridgeId) (f : Bridge → Bridge) : UI σ Unit :=
  modify fun w => { w with bridges := w.bridges.modify b f }

/-- Whether the subscription of a bridge is disposed. -/
def isClosed (b : BridgeId) : UI σ Bool := do
  isDisposed (← bridge b).handle

/-- Write a notification behind those on a tape. -/
def record (t : TapeId) (n : Notification) : UI σ Unit :=
  modify fun w =>
    { w with tapes := w.tapes.modify t fun tape => { tape with pending := tape.pending ++ [n] } }

/-- Let a tape know its handle. -/
def recordHandle (t : TapeId) (h : HandleId) : UI σ Unit :=
  modify fun w => { w with tapes := w.tapes.modify t fun tape => { tape with handle := some h } }

/-- The signal that has waited longest. If the subscription is disposed there is none, and those
    that wait are dropped. -/
def takeQueued (b : BridgeId) : UI σ (Option Signal) := do
  let queue := (← bridge b).queue
  if ← isClosed b then
    if !queue.isEmpty then
      note (.dropped b queue.length)
      changeBridge b fun bridge => { bridge with queue := [] }
    return none
  else
    match queue with
    | [] => return none
    | signal :: rest =>
      changeBridge b fun bridge => { bridge with queue := rest }
      return some signal

end UI

open UI

namespace Client

/-- Call an observer with a signal. -/
def tell (c : Client σ) (observer : Observer) (signal : Signal) : UI σ Unit :=
  match observer, signal with
  | .client callback, signal => c.observe callback signal
  | .functions _ _, .subscribed _ => return ()
  | .functions onNext _, .next value => c.observe onNext (.next value)
  | .functions _ (some onFault), .failed fault => c.observe onFault (.failed fault)
  | .functions _ none, .failed fault => note (.unhandled fault)
  | .tape tape, .subscribed handle => recordHandle tape handle
  | .tape tape, .next value => record tape (.next value)
  | .tape tape, .failed fault => record tape (.failed fault)

/-- Hand one signal to the observer of a bridge. After a fault the subscription is disposed. -/
def handOver (c : Client σ) (b : BridgeId) (signal : Signal) : UI σ Unit := do
  let bridge ← bridge b
  note (.began b signal)
  c.tell bridge.observer signal
  note (.ended b)
  match signal with
  | .failed _ => c.dispose bridge.handle
  | _ => return ()

/-- Hand over a signal and then those that wait, `patience` of them at most. -/
def drain (c : Client σ) (b : BridgeId) : Nat → Signal → UI σ Unit
  | 0, _ => throw .stalled
  | patience + 1, signal => do
    c.handOver b signal
    match ← takeQueued b with
    | none => return ()
    | some signal => c.drain b patience signal

/-- Take a signal and deliver it at once, and then those that come in meanwhile. A panic of the
    observer ends the delivery and leaves the signals that wait where they are. -/
def deliver (c : Client σ) (b : BridgeId) (signal : Signal) : UI σ Unit := do
  let here := (← get).here
  note (.accepted b signal false)
  changeBridge b fun bridge => { bridge with delivering := some here }
  ensuring
    (fun w =>
      { w with bridges := w.bridges.modify b fun bridge => { bridge with delivering := none } })
    (c.drain b c.patience signal)

/-- Take a signal: behind those that wait if this thread is delivering, at once if nobody is. The
    answer is whether the signal was taken. -/
def dispatch (c : Client σ) (b : BridgeId) (signal : Signal) : UI σ Bool := do
  let here := (← get).here
  match (← bridge b).delivering with
  | some thread =>
    if thread = here then
      note (.accepted b signal true)
      changeBridge b fun bridge => { bridge with queue := bridge.queue ++ [signal] }
      return true
    else throw .stalled
  | none =>
    if ← isClosed b then return false
    c.deliver b signal
    return true

/-- Deliver a value; the answer is whether it was taken. -/
def emit (c : Client σ) (b : BridgeId) (value : Payload) : UI σ Bool := do
  if ← isClosed b then
    note (.late b)
    return false
  else c.dispatch b (.next value)

/-- End the subscription with a fault. -/
def fail (c : Client σ) (b : BridgeId) (fault : Fault) : UI σ Unit := do
  if ← isClosed b then return ()
  note (.failing b fault)
  discard (c.dispatch b (.failed fault))

/-- The answer of a judge for a value. -/
def verdict (c : Client σ) (judge : Judge) (value : Payload) : UI σ (Except String Bool) :=
  match judge with
  | .always => return .ok true
  | .client predicate => c.judge predicate value

/-- Deliver a value and answer what the judge says of it afterwards. A judge that fails ends the
    subscription. -/
def emitJudged (c : Client σ) (b : BridgeId) (value : Payload) (judge : Judge) : UI σ Bool := do
  if ← isClosed b then return false
  discard (c.emit b value)
  match ← c.verdict judge value with
  | .ok consumed => return consumed
  | .error reason =>
    c.fail b (.callback reason)
    return false

end Client

end WidgetStreams
