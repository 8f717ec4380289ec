import WidgetStreams.Thread
import WidgetStreams.Widget.Motion

/-!
# The state of widgets

This file defines what each kind of widget shows: flags and visibility of a
view, rows and selection of an adapter view, pages of a pager, items of a
menu, the offset of a scroll view. Listeners are not part of it.

## Main definitions

- `Flags`, `Visibility`, `ViewState` — what every view has
- `Rows` — the rows of an adapter view and the selected position
- `Pages` — the pages of a pager, the current one and the state of its motion
- `Menu` — the items of a popup menu and whether it is showing
- `ScrollOffset` — how far a scroll view is scrolled
-/

namespace WidgetStreams

/-- The identity of a view. -/
abbrev ViewId := Nat

/-- Whether a view is drawn and whether it takes up room. -/
inductive Visibility
  | visible
  | invisible
  | gone
  deriving Repr, DecidableEq

namespace Visibility

instance : Inhabited Visibility := ⟨.visible⟩

/-- All visibilities. -/
def all : List Visibility := [.visible, .invisible, .gone]

/-- The name of a visibility. -/
def name : Visibility → String
  | .visible => "Visible"
  | .invisible => "Invisible"
  | .gone => "Gone"

end Visibility

/-- The **flags** of a view, or a choice among them. -/
structure Flags where
  enabled : Bool := false
  clickable : Bool := false
  longClickable : Bool := false
  focusable : Bool := false
  focused : Bool := false
  pressed : Bool := false
  selected : Bool := false
  activated : Bool := false
  deriving Repr, DecidableEq

namespace Flags

/-- The flags of a new view. -/
def initial : Flags := { enabled := true, focusable := true }

instance : Inhabited Flags := ⟨initial⟩

/-- The flags in the order of their bits. -/
def toList (f : Flags) : List Bool :=
  [f.enabled, f.clickable, f.longClickable, f.focusable, f.focused, f.pressed, f.selected,
   f.activated]

/-- The names of the flags in the order of their bits. -/
def allNames : List String :=
  ["ENABLED", "CLICKABLE", "LONG_CLICKABLE", "FOCUSABLE", "FOCUSED", "PRESSED", "SELECTED",
   "ACTIVATED"]

/-- The choice whose bits are those of a number. -/
def ofBits (n : Nat) : Flags :=
  { enabled := n.testBit 0, clickable := n.testBit 1, longClickable := n.testBit 2,
    focusable := n.testBit 3, focused := n.testBit 4, pressed := n.testBit 5,
    selected := n.testBit 6, activated := n.testBit 7 }

/-- The number whose bits are the flags. -/
def bits (f : Flags) : Nat := f.toList.foldr (fun b n => b.toNat + 2 * n) 0

/-- The names of the flags that are on, in the order of their bits. -/
def names (f : Flags) : List String :=
  (f.toList.zip allNames).filterMap fun p => if p.1 then some p.2 else none

/-- The flags in which each of the `chosen` ones is set to `on`. -/
def assign (f chosen : Flags) (on : Bool) : Flags :=
  { enabled := if chosen.enabled then on else f.enabled
    clickable := if chosen.clickable then on else f.clickable
    longClickable := if chosen.longClickable then on else f.longClickable
    focusable := if chosen.focusable then on else f.focusable
    focused := if chosen.focused then on else f.focused
    pressed := if chosen.pressed then on else f.pressed
    selected := if chosen.selected then on else f.selected
    activated := if chosen.activated then on else f.activated }

end Flags

/-- What every view shows. -/
structure ViewState where
  /-- The thread on which the view lives. -/
  thread : Thread
  flags : Flags := .initial
  visibility : Visibility := .visible
  deriving Repr, DecidableEq

instance : Inhabited ViewState := ⟨{ thread := .main }⟩

/-- The position that stands for no selection. -/
def invalidPosition : Int32 := -1

/-- The row id that stands for no row. -/
def invalidRowId : Int64 := Int64.minValue

/-- The **rows** of an adapter view and the selected position among them. -/
structure Rows where
  /-- The ids of the rows. -/
  ids : List Int64 := []
  /-- The selected position, or `invalidPosition`. -/
  selected : Int32 := invalidPosition
  deriving Repr, DecidableEq

namespace Rows

instance : Inhabited Rows := ⟨{}⟩

/-- The row id at a position, if the position exists. -/
def idAt? (r : Rows) (position : Int32) : Option Int64 :=
  if position.toInt < 0 then none else r.ids[position.toInt.toNat]?

/-- The row id at a position, or `invalidRowId`. -/
def idAt (r : Rows) (position : Int32) : Int64 := (r.idAt? position).getD invalidRowId

/-- Whether the selected position lies behind the last row. -/
def selectionLost (r : Rows) : Bool :=
  decide (0 ≤ r.selected.toInt ∧ r.ids.length ≤ r.selected.toInt.toNat)

end Rows

/-- What moves a pager. -/
inductive ScrollState
  | idle
  | dragging
  | settling
  deriving Repr, DecidableEq

namespace ScrollState

instance : Inhabited ScrollState := ⟨.idle⟩

/-- All states. -/
def all : List ScrollState := [.idle, .dragging, .settling]

/-- The name of a state. -/
def name : ScrollState → String
  | .idle => "Idle"
  | .dragging => "Dragging"
  | .settling => "Settling"

end ScrollState

/-- The width of a page unless another one is set. -/
def defaultPageWidth : Int32 := 1080

/-- The **pages** of a pager. -/
structure Pages where
  /-- How many pages there are. -/
  count : Nat := 0
  /-- How wide a page is. -/
  width : Int32 := defaultPageWidth
  /-- The current page. -/
  current : Nat := 0
  scrollState : ScrollState := .idle
  deriving Repr, DecidableEq

instance : Inhabited Pages := ⟨{}⟩

/-- An item of a menu. -/
structure MenuItem where
  id : Int32
  title : String
  deriving Repr, DecidableEq, Inhabited

/-- A **popup menu** over an anchor. -/
structure Menu where
  /-- The view to which the menu belongs. -/
  anchor : ViewId
  items : List MenuItem := []
  showing : Bool := false
  deriving Repr, DecidableEq, Inhabited

/-- How far a scroll view is scrolled. -/
structure ScrollOffset where
  x : Int32 := 0
  y : Int32 := 0
  deriving Repr, DecidableEq, Inhabited

/-- The sum of two coordinates, held at the ends of the range. -/
def addSaturating (a b : Int32) : Int32 :=
  Int32.ofInt (max (-2147483648) (min 2147483647 (a.toInt + b.toInt)))

end WidgetStreams
