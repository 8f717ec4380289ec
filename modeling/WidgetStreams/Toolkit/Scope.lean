import WidgetStreams.Toolkit.Stream

/-!
# Scopes

This file defines scopes, which hold handles and dispose them together, the
latest first.
-/

namespace WidgetStreams

variable {σ : Type}

namespace UI

/-- A new scope without handles. -/
def newScope : UI σ ScopeId := do
  let (s, scopes) := (← get).scopes.add []
  modify fun w => { w with scopes := scopes }
  return s

/-- Put handles in the place of those that a scope holds. -/
def putHeld (s : ScopeId) (held : List HandleId) : UI σ Unit :=
  modify fun w => { w with scopes := w.scopes.put s held }

/-- Hold a handle. Handles that are disposed by now are let go. -/
def hold (s : ScopeId) (h : HandleId) : UI σ Unit := do
  let w ← get
  putHeld s ((w.scopes.get s).filter (fun h => !(w.handles.get h).disposed) ++ [h])

end UI

namespace Toolkit

/-- How many of the handles in a scope are not disposed. -/
def heldCount (w : Toolkit σ) (s : ScopeId) : Nat :=
  ((w.scopes.get s).filter fun h => !(w.handles.get h).disposed).length

end Toolkit

open UI

namespace Client

/-- Take handles out of a scope, latest first, and dispose each. -/
def disposeHeld (c : Client σ) (s : ScopeId) : List HandleId → UI σ Unit
  | [] => putHeld s []
  | h :: earlier => do
    putHeld s earlier.reverse
    c.dispose h
    c.disposeHeld s earlier

/-- Dispose all handles of a scope, the latest first. -/
def clearScope (c : Client σ) (s : ScopeId) : UI σ Unit := do
  let held := (← get).scopes.get s
  note (.clearing s held.length)
  c.disposeHeld s held.reverse

/-- Subscribe an observer to a stream and hold the handle. -/
def subscribeIn (c : Client σ) (s : ScopeId) (stream : Stream) (observer : Observer) :
    UI σ Unit := do
  hold s (← c.subscribe stream observer)

end Client

end WidgetStreams
