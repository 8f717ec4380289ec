import WidgetStreams.Value.Basic
import WidgetStreams.Widget.Basic

/-!
# What streams deliver

This file defines `Payload`, the values that streams deliver to observers.
Plain streams deliver the bare value; event streams deliver it together with
the view it came from.
-/

namespace WidgetStreams

/-- What was done with the query of a search bar. -/
inductive QueryKind
  | changed
  | submitted
  | keyboardDismissed
  deriving Repr, DecidableEq, Inhabited

namespace QueryKind

/-- All kinds. -/
def all : List QueryKind := [.changed, .submitted, .keyboardDismissed]

/-- The name of a kind. -/
def name : QueryKind → String
  | .changed => "Changed"
  | .submitted => "Submitted"
  | .keyboardDismissed => "KeyboardDismissed"

end QueryKind

/-- A **payload**: one value delivered by a stream. -/
inductive Payload
  -- bare values
  | unit
  | flag (on : Bool)
  | number (n : Int32)
  | page (n : Nat)
  | text (s : String)
  | viewId (view : ViewId)
  | motionAction (action : MotionAction)
  | motion (m : Motion)
  | visibility (v : Visibility)
  | scrollOffset (o : ScrollOffset)
  | scrollState (s : ScrollState)
  | queryKind (k : QueryKind)
  | menuItem (i : MenuItem)
  | data (v : Value)
  -- events of views
  | click (view : ViewId)
  | longClick (view : ViewId)
  | touch (view : ViewId) (motion : Motion)
  | hover (view : ViewId) (motion : Motion)
  | focusChange (view : ViewId) (hasFocus : Bool)
  -- events of text views
  | textChange (view : ViewId) (text : String) (start before count : Nat)
  | afterTextChange (view : ViewId) (text : String)
  | editorAction (view : ViewId) (action : Int32)
  -- events of adapter views
  | itemSelected (view : ViewId) (position : Int32) (id : Int64)
  | nothingSelected (view : ViewId)
  | itemClick (view : ViewId) (position : Int32) (id : Int64)
  | itemLongClick (view : ViewId) (position : Int32) (id : Int64)
  -- events of searches, pagers and scroll views
  | queryText (view : ViewId) (query : String) (submitted : Bool)
  | barQuery (view : ViewId) (query : String) (kind : QueryKind)
  | pageScroll (view : ViewId) (position : Nat) (offset : Float32) (offsetPixels : Int32)
  | scrollChange (view : ViewId) (scroll oldScroll : ScrollOffset)
  deriving Repr, DecidableEq, Inhabited

/-- The types of payloads that have a written form of their own. -/
inductive PayloadType
  | viewId
  | motionAction
  | motion
  | visibility
  | scrollOffset
  | scrollState
  | queryKind
  | menuItem
  | click
  | longClick
  | touch
  | hover
  | focusChange
  | textChange
  | afterTextChange
  | editorAction
  | selection
  | itemClick
  | itemLongClick
  | queryText
  | barQuery
  | pageScroll
  | scrollChange
  deriving Repr, DecidableEq

/-- The type of a payload; bare truth values, numbers, texts and data have none. -/
def Payload.type? : Payload → Option PayloadType
  | .unit | .flag _ | .number _ | .page _ | .text _ | .data _ => none
  | .viewId _ => some .viewId
  | .motionAction _ => some .motionAction
  | .motion _ => some .motion
  | .visibility _ => some .visibility
  | .scrollOffset _ => some .scrollOffset
  | .scrollState _ => some .scrollState
  | .queryKind _ => some .queryKind
  | .menuItem _ => some .menuItem
  | .click _ => some .click
  | .longClick _ => some .longClick
  | .touch _ _ => some .touch
  | .hover _ _ => some .hover
  | .focusChange _ _ => some .focusChange
  | .textChange _ _ _ _ _ => some .textChange
  | .afterTextChange _ _ => some .afterTextChange
  | .editorAction _ _ => some .editorAction
  | .itemSelected _ _ _ | .nothingSelected _ => some .selection
  | .itemClick _ _ _ => some .itemClick
  | .itemLongClick _ _ _ => some .itemLongClick
  | .queryText _ _ _ => some .queryText
  | .barQuery _ _ _ => some .barQuery
  | .pageScroll _ _ _ _ => some .pageScroll
  | .scrollChange _ _ _ => some .scrollChange

/-- The view to which a selection event belongs. -/
def Payload.selectionView? : Payload → Option ViewId
  | .itemSelected view _ _ | .nothingSelected view => some view
  | _ => none

end WidgetStreams
