import WidgetStreams.Dict
import WidgetStreams.Registry
import WidgetStreams.Payload.Basic
import WidgetStreams.Widget.Point

/-!
# Bindings of widgets to streams

This file defines which streams the widgets offer: for each binding the sites at
which it attaches and detaches, the payload that it makes of a native event, and
whether it starts with a value.

## Main definitions

- `Binding` — the streams on offer
- `Binding.site`, `Binding.detachSite` — where a binding attaches, and where it detaches
- `Binding.payload?` — what it delivers for a native event, if anything
- `Binding.isJudged` — whether a predicate decides the answer to the widget
- `Binding.isWarm` — whether a subscription starts with the current value

## Main results

- `Binding.detachSite_eq_site` — every binding detaches where it attached

## Design notes

A binding names its site twice, once to attach and once to detach. Bindings of one
widget that are made by the same function share both; every other one names its own.
-/

namespace WidgetStreams

/-- A **binding**: one of the streams that a widget offers. -/
inductive Binding
  -- views
  | clicks
  | clickEvents
  | longClicks
  | longClickEvents
  | focusChanges
  | focusChangeEvents
  | touches
  | touchEvents
  | hovers
  | hoverEvents
  -- text views
  | texts
  | textEvents
  | afterTextEvents
  | editorActions
  | editorActionEvents
  -- adapter views
  | itemSelections
  | selectionEvents
  | itemClicks
  | itemClickEvents
  | itemLongClicks
  | itemLongClickEvents
  -- searches
  | queries
  | queryEvents
  | barQueries
  | barQueryEvents
  -- pagers
  | pageScrollEvents
  | pageScrollStates
  | pageSelections
  -- menus, swipe behaviours, scroll views
  | menuItemClicks
  | menuDismisses
  | swipeDismisses
  | scrollChangeEvents
  deriving Repr, DecidableEq, Inhabited

namespace Binding

/-- The site to which a binding attaches its listener. -/
def site : Binding → Site
  | .clicks | .clickEvents => .click
  | .longClicks | .longClickEvents => .longClick
  | .focusChanges | .focusChangeEvents => .focus
  | .touches | .touchEvents => .touch
  | .hovers | .hoverEvents => .hover
  | .texts | .textEvents | .afterTextEvents => .watcher
  | .editorActions | .editorActionEvents => .editorAction
  | .itemSelections | .selectionEvents => .itemSelected
  | .itemClicks | .itemClickEvents => .itemClick
  | .itemLongClicks | .itemLongClickEvents => .itemLongClick
  | .queries | .queryEvents => .query
  | .barQueries | .barQueryEvents => .barQuery
  | .pageScrollEvents | .pageScrollStates | .pageSelections => .page
  | .menuItemClicks => .menuClick
  | .menuDismisses => .menuDismiss
  | .swipeDismisses => .swipe
  | .scrollChangeEvents => .scroll

/-- The site from which a binding detaches whatever listens there. -/
def detachSite : Binding → Site
  | .clicks => .click
  | .clickEvents => .click
  | .longClicks => .longClick
  | .longClickEvents => .longClick
  | .focusChanges => .focus
  | .focusChangeEvents => .focus
  | .touches => .touch
  | .touchEvents => .touch
  | .hovers => .hover
  | .hoverEvents => .hover
  | .texts | .textEvents | .afterTextEvents => .watcher
  | .editorActions => .editorAction
  | .editorActionEvents => .editorAction
  | .itemSelections | .selectionEvents => .itemSelected
  | .itemClicks => .itemClick
  | .itemClickEvents => .itemClick
  | .itemLongClicks => .itemLongClick
  | .itemLongClickEvents => .itemLongClick
  | .queries | .queryEvents => .query
  | .barQueries | .barQueryEvents => .barQuery
  | .pageScrollEvents | .pageScrollStates | .pageSelections => .page
  | .menuItemClicks => .menuClick
  | .menuDismisses => .menuDismiss
  | .swipeDismisses => .swipe
  | .scrollChangeEvents => .scroll

/-- **Every binding detaches where it attached.** -/
theorem detachSite_eq_site (b : Binding) : b.detachSite = b.site := by
  cases b <;> rfl

/-- What a binding delivers for a native event; `none` if the event is not of its kind. -/
def payload? : Binding → NativeEvent → Option Payload
  | .clicks, .clicked _ => some .unit
  | .clickEvents, .clicked view => some (.click view)
  | .longClicks, .longClicked _ => some .unit
  | .longClickEvents, .longClicked view => some (.longClick view)
  | .focusChanges, .focusChanged _ hasFocus => some (.flag hasFocus)
  | .focusChangeEvents, .focusChanged view hasFocus => some (.focusChange view hasFocus)
  | .touches, .moved _ motion => some (.motion motion)
  | .touchEvents, .moved view motion => some (.touch view motion)
  | .hovers, .moved _ motion => some (.motion motion)
  | .hoverEvents, .moved view motion => some (.hover view motion)
  | .texts, .textChanged _ text _ _ _ => some (.text text)
  | .textEvents, .textChanged view text start before count =>
    some (.textChange view text start before count)
  | .afterTextEvents, .textSettled view text => some (.afterTextChange view text)
  | .editorActions, .editorActed _ action => some (.number action)
  | .editorActionEvents, .editorActed view action => some (.editorAction view action)
  | .itemSelections, .itemSelected _ position _ => some (.number position)
  | .itemSelections, .nothingSelected _ => some (.number invalidPosition)
  | .selectionEvents, .itemSelected view position id => some (.itemSelected view position id)
  | .selectionEvents, .nothingSelected view => some (.nothingSelected view)
  | .itemClicks, .itemClicked _ position _ => some (.number position)
  | .itemClickEvents, .itemClicked view position id => some (.itemClick view position id)
  | .itemLongClicks, .itemClicked _ position _ => some (.number position)
  | .itemLongClickEvents, .itemClicked view position id => some (.itemLongClick view position id)
  | .queries, .queryChanged _ query => some (.text query)
  | .queryEvents, .queryChanged view query => some (.queryText view query false)
  | .queryEvents, .querySubmitted view query => some (.queryText view query true)
  | .barQueries, .queryChanged _ query => some (.text query)
  | .barQueryEvents, .queryChanged view query => some (.barQuery view query .changed)
  | .barQueryEvents, .querySubmitted view query => some (.barQuery view query .submitted)
  | .barQueryEvents, .keyboardDismissed view query =>
    some (.barQuery view query .keyboardDismissed)
  | .pageScrollEvents, .pageScrolled view position offset offsetPixels =>
    some (.pageScroll view position offset offsetPixels)
  | .pageScrollStates, .pageStateChanged _ state => some (.scrollState state)
  | .pageSelections, .pageSelected _ position => some (.page position)
  | .menuItemClicks, .menuItemClicked item => some (.menuItem item)
  | .menuDismisses, .menuDismissed => some .unit
  | .swipeDismisses, .swiped view => some (.viewId view)
  | .scrollChangeEvents, .scrolled view new old => some (.scrollChange view new old)
  | _, _ => none

/-- Whether a predicate on the payload decides what the widget is answered. -/
def isJudged : Binding → Bool
  | .longClicks | .longClickEvents | .touches | .touchEvents | .hovers | .hoverEvents
  | .editorActions | .editorActionEvents | .itemLongClicks | .itemLongClickEvents => true
  | _ => false

/-- Whether a subscription starts with the current value of the widget. -/
def isWarm : Binding → Bool
  | .focusChanges | .focusChangeEvents | .texts | .textEvents | .afterTextEvents
  | .itemSelections | .selectionEvents | .queries | .queryEvents | .pageSelections => true
  | _ => false

/-- Whether a binding **mirrors** a state of the widget: what it delivers is that state itself, and
    its point is told whenever the state changes. -/
def isMirror : Binding → Bool
  | .focusChanges | .itemSelections | .queries => true
  | _ => false

/-- Whether a binding **feeds** any number of subscribers the state of the widget: what it delivers
    is that state itself, and everybody at its point is told in turn when the state changes. -/
def isFeed : Binding → Bool
  | .texts | .pageSelections => true
  | _ => false

/-- The registration point of a binding on a widget. -/
def point (b : Binding) (owner : Nat) : Point := ⟨b.site, owner⟩

/-- The point at which the registration of a binding on a widget is undone. -/
def detachPoint (b : Binding) (owner : Nat) : Point := ⟨b.detachSite, owner⟩

@[simp] theorem detachPoint_eq_point (b : Binding) (owner : Nat) :
    b.detachPoint owner = b.point owner := by
  rw [detachPoint, detachSite_eq_site, point]

end Binding

end WidgetStreams
