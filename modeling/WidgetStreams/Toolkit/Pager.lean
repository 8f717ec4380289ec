import WidgetStreams.Toolkit.AdapterView

/-!
# Pagers

This file defines how a pager moves from page to page and what it tells its
listeners on the way.

## Main definitions

- `Pages.jump` — what is told of a move without animation
- `Pages.glide` — what is told of an animated move
- `Client.setPage`, `Client.swipeTo` — the moves themselves

## Design notes

The whole itinerary of a move is fixed before the first listener is called, and
so are the listeners who hear of it. The current page changes at once; the state
of the motion changes step by step, as the itinerary is told.
-/

namespace WidgetStreams

variable {σ : Type}

/-- One stop on the way from page to page. -/
inductive PageStep
  | scrolled (position : Nat) (offset : Float32) (offsetPixels : Int32)
  | selected (position : Nat)
  | motion (state : ScrollState)
  deriving Repr, DecidableEq, Inhabited

/-- What a listener is told at a stop. -/
def PageStep.event (v : ViewId) : PageStep → NativeEvent
  | .scrolled position offset offsetPixels => .pageScrolled v position offset offsetPixels
  | .selected position => .pageSelected v position
  | .motion state => .pageStateChanged v state

namespace Pages

/-- The itinerary of a jump to another page. -/
def jump (page : Nat) : List PageStep := [.selected page, .scrolled page .zero 0]

/-- The itinerary of an animated move to a page. The half-way point is between the two pages, so
    a move to the page itself has none; a dragged pager settles later. -/
def glide (p : Pages) (page : Nat) (dragged : Bool) : List PageStep :=
  let moves := p.current ≠ page
  [.motion (if dragged then .dragging else .settling)]
    ++ (if moves then [.scrolled (min p.current page) .half (p.width / 2)] else [])
    ++ (if dragged then [.motion .settling] else [])
    ++ (if moves then [.selected page] else [])
    ++ [.scrolled page .zero 0, .motion .idle]

end Pages

namespace UI

/-- The pages of a pager. -/
def pages (v : ViewId) : UI σ Pages := return (← screen).pagesOf v

/-- Replace the pages of a pager without telling anybody. -/
def putPages (v : ViewId) (p : Pages) : UI σ Unit :=
  changeScreen fun s => { s with pages := s.pages.insert v p }

/-- A new pager of so many pages that lives on a thread. -/
def newPager (thread : Thread) (count : Nat) : UI σ ViewId := do
  let v ← newView thread
  putPages v { ← pages v with count := count }
  return v

/-- Set the width of a page. -/
def setPageWidth (v : ViewId) (width : Int32) : UI σ Unit := do
  putPages v { ← pages v with width := width }

/-- A stop that changes the state of the motion does so before anybody is told. -/
def takeStep (v : ViewId) : PageStep → UI σ Unit
  | .motion state => do putPages v { ← pages v with scrollState := state }
  | _ => return ()

end UI

open UI

namespace Client

/-- Tell listeners of an itinerary, stop by stop. -/
def tellSteps (c : Client σ) (v : ViewId) (listeners : List Listener) : List PageStep → UI σ Unit
  | [] => return ()
  | step :: rest => do
    takeStep v step
    c.notifyAll (step.event v) listeners
    c.tellSteps v listeners rest

/-- Show a page, smoothly or at once. Showing the current page tells nobody. -/
def setPage (c : Client σ) (v : ViewId) (page : Nat) (smooth : Bool) :
    UI σ (Except WidgetError Unit) := do
  let p ← pages v
  if page ≥ p.count then return .error (.pageOutOfRange page p.count)
  if page ≠ p.current then operate ⟨.page, v⟩ fun listeners => do
    putPages v { p with current := page }
    note (.altered ⟨.page, v⟩ (.page page))
    c.tellSteps v listeners (if smooth then p.glide page false else Pages.jump page)
  return .ok ()

/-- Swipe to a page, which may be the current one. -/
def swipeTo (c : Client σ) (v : ViewId) (page : Nat) : UI σ (Except WidgetError Unit) := do
  let p ← pages v
  if page ≥ p.count then return .error (.pageOutOfRange page p.count)
  operate ⟨.page, v⟩ fun listeners => do
    if page ≠ p.current then
      putPages v { p with current := page }
      note (.altered ⟨.page, v⟩ (.page page))
    c.tellSteps v listeners (p.glide page true)
  return .ok ()

end Client

end WidgetStreams
