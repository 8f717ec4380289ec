import WidgetStreams.Toolkit.Listening

/-!
# Views

This file defines what can be done with a view: its flags, its focus, and the
clicks and motions that a user makes over it. Swiping a view away is here too.

## Main definitions

- `Client.click`, `Client.longClick` — what a user does
- `Client.requestFocus`, `Client.clearFocus`, `Client.setFocusable` — the focus
- `Client.touch`, `Client.hover` — motions; a disabled view ignores them
- `Client.swipeAway` — hide the view of a swipe behaviour
-/

namespace WidgetStreams

variable {σ : Type}

namespace UI

/-- A new view that lives on a thread. -/
def newView (thread : Thread) : UI σ ViewId := do
  let s ← screen
  let (v, views) := s.views.add { thread := thread }
  changeScreen fun s => { s with views := views }
  return v

/-- The flags of a view. -/
def flags (v : ViewId) : UI σ Flags := return (← screen).flags v

/-- Assign the chosen flags of a view; the answer is whether any flag changed. -/
def assignFlags (v : ViewId) (chosen : Flags) (on : Bool) : UI σ Bool := do
  let before ← flags v
  let after := before.assign chosen on
  changeScreen fun s => s.setFlags v after
  return before != after

/-- Set the chosen flags of a view directly, and not as a part of something else. -/
def setFlags (v : ViewId) (chosen : Flags) (on : Bool) : UI σ Bool := do
  let changed ← assignFlags v chosen on
  note (.flagged v chosen on)
  return changed

/-- Set the visibility of a view. -/
def setVisibility (v : ViewId) (visibility : Visibility) : UI σ Unit :=
  changeScreen fun s => s.setVisibility v visibility

/-- A new swipe behaviour for a view. -/
def newSwipe (v : ViewId) : UI σ Nat := do
  let s ← screen
  let (n, swipes) := s.swipes.add v
  changeScreen fun s => { s with swipes := swipes }
  return n

end UI

open UI

namespace Client

/-- Tell who listens for the focus of a view. -/
def tellFocus (c : Client σ) (v : ViewId) (hasFocus : Bool) : UI σ Unit := do
  note (.focusChanged v hasFocus)
  discard (c.notify ⟨.focus, v⟩ (.focusChanged v hasFocus))

/-- Ask for the focus. Only an enabled, focusable view gets it; the answer is whether it does. -/
def requestFocus (c : Client σ) (v : ViewId) : UI σ Bool := do
  let f ← flags v
  if !(f.focusable && f.enabled) then return false
  if f.focused then return true
  discard (assignFlags v { focused := true } true)
  c.tellFocus v true
  return true

/-- Give the focus up. -/
def clearFocus (c : Client σ) (v : ViewId) : UI σ Unit := do
  let f ← flags v
  discard (assignFlags v { focused := true } false)
  if f.focused then c.tellFocus v false

/-- Set whether a view is focusable; one that is not gives the focus up. -/
def setFocusable (c : Client σ) (v : ViewId) (focusable : Bool) : UI σ Unit := do
  discard (setFlags v { focusable := true } focusable)
  if !focusable then c.clearFocus v

/-- Click a view; the answer is whether anybody listens. -/
def click (c : Client σ) (v : ViewId) : UI σ Bool := do
  note (.clicked v)
  return (← c.notify ⟨.click, v⟩ (.clicked v)).isSome

/-- Click a view for long; the answer is the listener's. -/
def longClick (c : Client σ) (v : ViewId) : UI σ Bool := do
  note (.longClicked v)
  c.ask ⟨.longClick, v⟩ (.longClicked v)

/-- Touch a view. -/
def touch (c : Client σ) (v : ViewId) (motion : Motion) : UI σ Bool := do
  if (← flags v).enabled then c.ask ⟨.touch, v⟩ (.moved v motion) else return false

/-- Move a pointer over a view. -/
def hover (c : Client σ) (v : ViewId) (motion : Motion) : UI σ Bool := do
  if (← flags v).enabled then c.ask ⟨.hover, v⟩ (.moved v motion) else return false

/-- Swipe a view away: it is gone, and then the listener is told. -/
def swipeAway (c : Client σ) (swipe : Nat) : UI σ Unit := do
  let v := (← screen).swipes.get swipe
  setVisibility v .gone
  discard (c.notify ⟨.swipe, swipe⟩ (.swiped v))

end Client

end WidgetStreams
