import WidgetStreams.Toolkit.Basic

/-!
# Disposing

This file defines what can be done with a handle. A handle is disposed once;
the action that is in place then runs, and an action that is put in place
later runs at once.

## Main definitions

- `Client.dispose` — dispose a handle
- `Client.setAction` — put an action in place
- `Client.release` — run an action, whose failure and panic end there
-/

namespace WidgetStreams

variable {σ : Type}

namespace UI

/-- A new handle. -/
def newHandle (h : Handle) : UI σ HandleId := do
  let (id, handles) := (← get).handles.add h
  modify fun w => { w with handles := handles }
  return id

/-- Whether a handle is disposed. -/
def isDisposed (h : HandleId) : UI σ Bool := return ((← get).handles.get h).disposed

/-- Change a handle. -/
def changeHandle (h : HandleId) (f : Handle → Handle) : UI σ Unit :=
  modify fun w => { w with handles := w.handles.modify h f }

end UI

open UI

namespace Client

/-- Undo the registration of a subscription. -/
def undo (c : Client σ) (source : Source) (key : Option Nat) : UI σ Unit := do
  match source with
  | .widget binding owner _ => changeScreen fun s => s.uninstall (binding.detachPoint owner) key
  | .client callback _ => c.detach callback key
  note (.detached source key)

/-- Run the action of a handle. -/
def act (c : Client σ) : Release → UI σ (Except String Unit)
  | .client action => c.release action
  | .detach source key => do
    c.undo source key
    return .ok ()

/-- Run an action for a handle. If it fails or panics, the journal says so and nobody else. -/
def releaseFor (c : Client σ) (h : HandleId) (action : Release) : UI σ Unit := do
  note (.releasing h action)
  match ← catching (c.act action) with
  | .ok (.ok ()) => return ()
  | .ok (.error reason) => note (.releaseFailed h reason)
  | .error _ => note (.releasePanicked h)

/-- Dispose a handle. Only the first time does anything: the handle is marked before its action
    is taken out and run. -/
def dispose (c : Client σ) (h : HandleId) : UI σ Unit := do
  let handle := (← get).handles.get h
  if handle.disposed then return ()
  changeHandle h fun handle => { handle with disposed := true, action := none }
  note (.disposed h)
  match handle.action with
  | none => return ()
  | some action => c.releaseFor h action

/-- Put an action in place of the one before; a disposed handle runs it at once. -/
def setAction (c : Client σ) (h : HandleId) (action : Release) : UI σ Unit := do
  note (.armed h action)
  if ← isDisposed h then c.releaseFor h action
  else changeHandle h fun handle => { handle with action := some action }

end Client

end WidgetStreams
