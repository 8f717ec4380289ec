import WidgetStreams.Toolkit.View

/-!
# Scroll views

This file defines how a scroll view is scrolled, to a place or by a distance.
-/

namespace WidgetStreams

variable {σ : Type}

namespace UI

/-- How far a scroll view is scrolled. -/
def offset (v : ViewId) : UI σ ScrollOffset := return (← screen).offset v

/-- Change the offset of a scroll view without telling anybody. -/
def putOffset (v : ViewId) (o : ScrollOffset) : UI σ Unit :=
  changeScreen fun s => { s with offsets := s.offsets.insert v o }

end UI

open UI

namespace Client

/-- Scroll to a place. Staying in place tells nobody. -/
def scrollTo (c : Client σ) (v : ViewId) (new : ScrollOffset) : UI σ Unit := do
  let old ← offset v
  putOffset v new
  if old ≠ new then discard (c.notify ⟨.scroll, v⟩ (.scrolled v new old))

/-- Scroll by a distance, to the end of the range at most. -/
def scrollBy (c : Client σ) (v : ViewId) (dx dy : Int32) : UI σ Unit := do
  let o ← offset v
  c.scrollTo v ⟨addSaturating o.x dx, addSaturating o.y dy⟩

end Client

end WidgetStreams
