import WidgetStreams.Toolkit.View

/-!
# Adapter views

This file defines the selection among the rows of an adapter view and the
clicks on rows.
-/

namespace WidgetStreams

variable {σ : Type}

/-- Why a widget refuses what it is asked for. -/
inductive WidgetError
  | positionOutOfRange (position : Int32) (count : Nat)
  | pageOutOfRange (page count : Nat)
  deriving Repr, DecidableEq, Inhabited

/-- The wording of a refusal. -/
def WidgetError.message : WidgetError → String
  | .positionOutOfRange position count =>
    "position " ++ toString position.toInt ++ " out of range for " ++ toString count ++ " items"
  | .pageOutOfRange page count =>
    "page " ++ toString page ++ " out of range for " ++ toString count ++ " pages"

namespace UI

/-- The rows of an adapter view. -/
def rows (v : ViewId) : UI σ Rows := return (← screen).rowsOf v

/-- Replace the rows of an adapter view without telling anybody. -/
def putRows (v : ViewId) (rows : Rows) : UI σ Unit :=
  changeScreen fun s => { s with rows := s.rows.insert v rows }

/-- A new adapter view of the given rows that lives on a thread. -/
def newAdapterView (thread : Thread) (ids : List Int64) : UI σ ViewId := do
  let v ← newView thread
  putRows v { ← rows v with ids := ids }
  return v

end UI

open UI

namespace Client

/-- Select the row at a position. Selecting the selected row again tells nobody. -/
def select (c : Client σ) (v : ViewId) (position : Int32) : UI σ (Except WidgetError Unit) := do
  let r ← rows v
  match r.idAt? position with
  | none => return .error (.positionOutOfRange position r.ids.length)
  | some id =>
    if r.selected ≠ position then
      putRows v { r with selected := position }
      discard (c.notify ⟨.itemSelected, v⟩ (.itemSelected v position id))
    return .ok ()

/-- Select no row. -/
def clearSelection (c : Client σ) (v : ViewId) : UI σ Unit := do
  let r ← rows v
  putRows v { r with selected := invalidPosition }
  if r.selected ≠ invalidPosition then
    discard (c.notify ⟨.itemSelected, v⟩ (.nothingSelected v))

/-- Show other rows. A selection behind the last of them is lost. -/
def setRows (c : Client σ) (v : ViewId) (ids : List Int64) : UI σ Unit := do
  let r : Rows := { ← rows v with ids := ids }
  if r.selectionLost then
    putRows v { r with selected := invalidPosition }
    discard (c.notify ⟨.itemSelected, v⟩ (.nothingSelected v))
  else putRows v r

/-- Click a row; the answer is whether anybody listens. -/
def clickRow (c : Client σ) (v : ViewId) (position : Int32) : UI σ Bool := do
  let id := (← rows v).idAt position
  return (← c.notify ⟨.itemClick, v⟩ (.itemClicked v position id)).isSome

/-- Click a row for long; the answer is the listener's. -/
def longClickRow (c : Client σ) (v : ViewId) (position : Int32) : UI σ Bool := do
  let id := (← rows v).idAt position
  c.ask ⟨.itemLongClick, v⟩ (.itemClicked v position id)

end Client

end WidgetStreams
