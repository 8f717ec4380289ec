import WidgetStreams.Scenario.State
import WidgetStreams.Toolkit.Tape
import WidgetStreams.Toolkit.Describe

/-!
# Events, faults and states as plain data

This file defines the plain data that reactions see of a call and that a
scenario reports of its objects.

## Main definitions

- `NativeEvent.cue`, `NativeEvent.arguments` — a call on a listener
- `Fault.encode` — a fault
- `Scenario.snapshot?` — the state of an object
- `Scenario.describe` — the description of an object
-/

namespace WidgetStreams

namespace NativeEvent

/-- The cue that a native event is to a listener. -/
def cue : NativeEvent → Cue
  | .textChanging _ _ _ _ _ => .before
  | .textChanged _ _ _ _ _ => .on
  | .textSettled _ _ => .after
  | .itemSelected _ _ _ => .selected
  | .nothingSelected _ => .nothing
  | .queryChanged _ _ => .change
  | .querySubmitted _ _ => .submit
  | .keyboardDismissed _ _ => .keyboard
  | .pageScrolled _ _ _ _ => .scrolled
  | .pageSelected _ _ => .selected
  | .pageStateChanged _ _ => .state
  | _ => .call

/-- What a listener is handed with a native event. -/
def arguments : NativeEvent → List Value
  | .clicked v | .longClicked v | .nothingSelected v | .swiped v => [.ofNat v]
  | .focusChanged v hasFocus => [.ofNat v, .bool hasFocus]
  | .moved v motion => [.ofNat v, motion.encode]
  | .textChanging v text start count after =>
    [.ofNat v, .text text, .ofNat start, .ofNat count, .ofNat after]
  | .textChanged v text start before count =>
    [.ofNat v, .text text, .ofNat start, .ofNat before, .ofNat count]
  | .textSettled v text => [.ofNat v, .text text]
  | .editorActed v action => [.ofNat v, .ofInt32 action]
  | .itemClicked v position id | .itemSelected v position id =>
    [.ofNat v, .ofInt32 position, .ofInt64 id]
  | .queryChanged v q | .querySubmitted v q | .keyboardDismissed v q => [.ofNat v, .text q]
  | .pageScrolled v position offset offsetPixels =>
    [.ofNat v, .ofNat position, .ofFloat32 offset, .ofInt32 offsetPixels]
  | .pageSelected v position => [.ofNat v, .ofNat position]
  | .pageStateChanged v state => [.ofNat v, .text state.name]
  | .menuItemClicked item => [item.encode]
  | .menuDismissed => []
  | .scrolled v new old =>
    [.ofNat v, .ofInt32 new.x, .ofInt32 new.y, .ofInt32 old.x, .ofInt32 old.y]

end NativeEvent

namespace Fault

/-- The kind of a fault. -/
def kind : Fault → String
  | .wrongThread _ _ => "WrongThread"
  | .callback _ | .callbackFault _ => "Callback"
  | .invalidArgument _ => "InvalidArgument"

/-- A fault as data. -/
def encode (f : Fault) : Value :=
  .record [("error", .text f.kind), ("message", .text f.message),
    ("sources", .list (f.causes.map .text))]

end Fault

namespace Scenario

/-- Whether the slot at a point is filled, as data. -/
def isSet (s : Screen) (site : Site) (owner : Nat) : Value := .bool (s.slot ⟨site, owner⟩).isSet

/-- The sites of a view that have a slot, by name. -/
def viewSites : List (Site × String) :=
  [(.click, "click"), (.longClick, "long_click"), (.focus, "focus"), (.touch, "touch"),
   (.hover, "hover")]

/-- The state of a view. -/
def viewSnapshot (s : Screen) (v : ViewId) : Value :=
  let state := s.view v
  .record
    [("id", .ofNat v), ("bits", .ofNat state.flags.bits),
      ("flags", .list (state.flags.names.map fun name => .text name.toLower)),
      ("visibility", .text state.visibility.name),
      ("set", .list (viewSites.filterMap fun p =>
        if (s.slot ⟨p.1, v⟩).isSet then some (.text p.2) else none))]

/-- The state of an object; keys, faults, threads, guards and sinks have none. -/
def snapshot? (w : Toolkit State) : Object → Option Value
  | .view v => some (viewSnapshot w.screen v)
  | .textView v =>
    some (.record
      [("id", .ofNat v), ("text", .text (w.screen.text v)),
        ("watchers", .ofNat (w.screen.roster ⟨.watcher, v⟩).size),
        ("editor_action", isSet w.screen .editorAction v)])
  | .adapterView v =>
    let rows := w.screen.rowsOf v
    some (.record
      [("id", .ofNat v), ("count", .ofNat rows.ids.length), ("selected", .ofInt32 rows.selected),
        ("item_click", isSet w.screen .itemClick v),
        ("item_long_click", isSet w.screen .itemLongClick v),
        ("item_selected", isSet w.screen .itemSelected v)])
  | .searchView v =>
    some (.record
      [("id", .ofNat v), ("query", .text (w.screen.query v)),
        ("listener", isSet w.screen .query v)])
  | .searchBar v =>
    some (.record
      [("id", .ofNat v), ("query", .text (w.screen.barQuery v)),
        ("listener", isSet w.screen .barQuery v)])
  | .pager v =>
    let p := w.screen.pagesOf v
    some (.record
      [("id", .ofNat v), ("pages", .ofNat p.count), ("current", .ofNat p.current),
        ("scroll_state", .text p.scrollState.name),
        ("listeners", .ofNat (w.screen.roster ⟨.page, v⟩).size)])
  | .menu m =>
    let menu := w.screen.menus.get m
    some (.record
      [("anchor", .ofNat menu.anchor), ("showing", .bool menu.showing),
        ("items", .ofNat menu.items.length), ("item_click", isSet w.screen .menuClick m),
        ("dismiss", isSet w.screen .menuDismiss m)])
  | .swipe n =>
    some (.record
      [("view", viewSnapshot w.screen (w.screen.swipes.get n)),
        ("listener", isSet w.screen .swipe n)])
  | .scrollView v =>
    let o := w.screen.offset v
    some (.record
      [("id", .ofNat v), ("x", .ofInt32 o.x), ("y", .ofInt32 o.y),
        ("listener", isSet w.screen .scroll v)])
  | .handle h => some (.record [("disposed", .bool (w.handles.get h).disposed)])
  | .bridge b | .emitter b =>
    some (.record [("disposed", .bool (w.handles.get (w.bridges.get b).handle).disposed)])
  | .scope s =>
    let count := w.heldCount s
    some (.record [("len", .ofNat count), ("empty", .bool (count == 0))])
  | .slot i =>
    let slot := w.client.slots.get i
    some (.record [("set", .bool slot.isSet), ("value", slot.content.getD .null)])
  | .list i =>
    let list := w.client.lists.get i
    some (.record
      [("len", .ofNat list.size), ("empty", .bool (list.size == 0)),
        ("items", .list list.snapshot)])
  | .dial d =>
    let dial := w.client.dials.get d
    some (.record
      [("value", dial.value), ("slot", .bool dial.slot.isSet), ("list", .ofNat dial.list.size)])
  | .tape t => some (.record [("pending", .ofNat (w.tapes.get t).pending.length)])
  | .stream s => some (.record [("warm", .bool s.warm)])
  | .key _ | .fault _ | .thread _ | .guard _ | .sink _ => none

/-- The description of an object. -/
def describe (w : Toolkit State) : Object → String
  | .view v => Describe.view w.screen v
  | .textView v => Describe.textView w.screen v
  | .adapterView v => Describe.adapterView w.screen v
  | .searchView v => Describe.searchView w.screen v
  | .searchBar v => Describe.searchBar w.screen v
  | .scrollView v => Describe.scrollView w.screen v
  | .pager v => Describe.pager w.screen v
  | .menu m => Describe.menu w.screen m
  | .swipe n => Describe.swipe w.screen n
  | .handle h => Describe.handle w h
  | .scope s => Describe.scope w s
  | .slot i => Describe.slot (w.client.slots.get i).isSet
  | .list i => Describe.list (w.client.lists.get i).size
  | .key k => Describe.key k
  | .bridge b => Describe.bridge w b
  | .emitter b => Describe.emitter w b
  | .stream s => Describe.stream w.screen s
  | .sink _ => Describe.sink
  | .tape t => Describe.tape (w.tapes.get t)
  | .fault f => f.description
  | .thread t => "UiThread(" ++ t.label ++ ")"
  | .guard o =>
    Describe.parts "ConfigOverride"
      [("previous", Describe.parts "BindConfig"
        [("thread_check",
          match w.overrides.get o with
          | .enforce => "Enforce"
          | .disabled => "Disabled")])]
  | .dial _ => "Dial"

end Scenario

end WidgetStreams
