import WidgetStreams.Widget.Basic

/-!
# Where listeners are registered and what they are told

This file defines the registration points of the widgets and the native events
that a widget reports there.

## Main definitions

- `Site` — the kinds of registration points
- `Point` — the registration point of one kind on one widget
- `NativeEvent` — what a listener is told
-/

namespace WidgetStreams

/-- A **site**: a kind of registration point. All but the last two hold one listener at most. -/
inductive Site
  | click
  | longClick
  | focus
  | touch
  | hover
  | editorAction
  | itemClick
  | itemLongClick
  | itemSelected
  | query
  | barQuery
  | scroll
  | menuClick
  | menuDismiss
  | swipe
  | watcher
  | page
  deriving Repr, DecidableEq, Inhabited

/-- Whether any number of listeners fit a site. -/
def Site.isShared : Site → Bool
  | .watcher | .page => true
  | _ => false

/-- A **registration point**: a site of one widget. -/
@[ext]
structure Point where
  site : Site
  /-- The number of the widget: of a menu or a swipe behaviour among its kind, of its view for
      every other widget. -/
  owner : Nat
  deriving Repr, DecidableEq, Inhabited

/-- A **native event**: what a widget tells a listener. -/
inductive NativeEvent
  | clicked (view : ViewId)
  | longClicked (view : ViewId)
  | focusChanged (view : ViewId) (hasFocus : Bool)
  | moved (view : ViewId) (motion : Motion)
  | textChanging (view : ViewId) (text : String) (start count after : Nat)
  | textChanged (view : ViewId) (text : String) (start before count : Nat)
  | textSettled (view : ViewId) (text : String)
  | editorActed (view : ViewId) (action : Int32)
  | itemClicked (view : ViewId) (position : Int32) (id : Int64)
  | itemSelected (view : ViewId) (position : Int32) (id : Int64)
  | nothingSelected (view : ViewId)
  | queryChanged (view : ViewId) (query : String)
  | querySubmitted (view : ViewId) (query : String)
  | keyboardDismissed (view : ViewId) (query : String)
  | pageScrolled (view : ViewId) (position : Nat) (offset : Float32) (offsetPixels : Int32)
  | pageSelected (view : ViewId) (position : Nat)
  | pageStateChanged (view : ViewId) (state : ScrollState)
  | menuItemClicked (item : MenuItem)
  | menuDismissed
  | swiped (view : ViewId)
  | scrolled (view : ViewId) (new old : ScrollOffset)
  deriving Repr, DecidableEq, Inhabited

end WidgetStreams
