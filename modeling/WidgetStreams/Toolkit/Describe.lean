import WidgetStreams.Toolkit.Scope
import WidgetStreams.Toolkit.Sink
import WidgetStreams.Toolkit.Menu
import WidgetStreams.Toolkit.Scrolling
import WidgetStreams.Toolkit.Record

/-!
# How objects describe themselves

This file defines the one-line descriptions of widgets and library objects: the
name of the kind, and the named parts that are shown of it.
-/

namespace WidgetStreams

variable {σ : Type}

namespace Describe

/-- A description with named parts; an open one says that there is more. -/
def parts (kind : String) (fields : List (String × String)) (isOpen : Bool := false) : String :=
  let shown := fields.map (fun f => f.1 ++ ": " ++ f.2) ++ if isOpen then [".."] else []
  kind ++ " \x7b " ++ ", ".intercalate shown ++ " \x7d"

/-- A truth value. -/
def bool (b : Bool) : String := Record.ofBool b

/-- A signed number. -/
def int32 (n : Int32) : String := toString n.toInt

/-- The identity of a view. -/
def viewId (v : ViewId) : String := "ViewId(" ++ toString v ++ ")"

/-- Flags, by the names of those that are on. -/
def flags (f : Flags) : String :=
  let shown := if f.names.isEmpty then "0x0" else " | ".intercalate f.names
  "ViewFlags(" ++ shown ++ ")"

/-- A view. -/
def view (s : Screen) (v : ViewId) : String :=
  parts "View"
    [("id", viewId v), ("flags", flags (s.flags v)),
      ("visibility", (s.view v).visibility.name)] true

/-- A text view. -/
def textView (s : Screen) (v : ViewId) : String :=
  parts "TextView"
    [("id", viewId v), ("text", Text.quote (s.text v)),
      ("watchers", toString (s.roster ⟨.watcher, v⟩).size)]

/-- An adapter view. -/
def adapterView (s : Screen) (v : ViewId) : String :=
  parts "AdapterView"
    [("id", viewId v), ("count", toString (s.rowsOf v).ids.length),
      ("selected", int32 (s.rowsOf v).selected)]

/-- A search view. -/
def searchView (s : Screen) (v : ViewId) : String :=
  parts "SearchView" [("id", viewId v), ("query", Text.quote (s.query v))]

/-- A search bar. -/
def searchBar (s : Screen) (v : ViewId) : String :=
  parts "SearchBar" [("id", viewId v), ("query", Text.quote (s.barQuery v))]

/-- A pager. -/
def pager (s : Screen) (v : ViewId) : String :=
  let p := s.pagesOf v
  parts "ViewPager"
    [("id", viewId v), ("current", toString p.current), ("pages", toString p.count),
      ("scroll_state", p.scrollState.name)]

/-- A menu. -/
def menu (s : Screen) (m : Nat) : String :=
  let menu := s.menus.get m
  parts "PopupMenu"
    [("anchor", viewId menu.anchor), ("items", toString menu.items.length),
      ("showing", bool menu.showing)]

/-- A swipe behaviour. -/
def swipe (s : Screen) (n : Nat) : String :=
  parts "SwipeDismissBehavior" [("view", viewId (s.swipes.get n))]

/-- A scroll view. -/
def scrollView (s : Screen) (v : ViewId) : String :=
  let o := s.offset v
  parts "NestedScrollView"
    [("id", viewId v), ("offset", parts "ScrollOffset" [("x", int32 o.x), ("y", int32 o.y)])]

/-- The widget that offers a binding. -/
def widget (s : Screen) (p : Point) : String :=
  match p.site with
  | .click | .longClick | .focus | .touch | .hover => view s p.owner
  | .watcher | .editorAction => textView s p.owner
  | .itemClick | .itemLongClick | .itemSelected => adapterView s p.owner
  | .query => searchView s p.owner
  | .barQuery => searchBar s p.owner
  | .scroll => scrollView s p.owner
  | .menuClick | .menuDismiss => menu s p.owner
  | .swipe => swipe s p.owner
  | .page => pager s p.owner

/-- A source; a source of the client's own is a dial. -/
def source (s : Screen) : Source → String
  | .widget binding owner _ => widget s (binding.point owner)
  | .client _ _ => "Dial"

/-- A stream. -/
def stream (s : Screen) (st : Stream) : String :=
  parts (if st.warm then "InitialValueStream" else "BridgeStream") [("source", source s st.source)]

/-- A handle. -/
def handle (w : Toolkit σ) (h : HandleId) : String :=
  parts "Disposable" [("disposed", bool (w.handles.get h).disposed)]

/-- A bridge. -/
def bridge (w : Toolkit σ) (b : BridgeId) : String :=
  parts "ListenerBridge" [("disposed", bool (w.handles.get (w.bridges.get b).handle).disposed)]

/-- An emitter: the side of a bridge that a source sees. -/
def emitter (w : Toolkit σ) (b : BridgeId) : String := "Emitter(" ++ bridge w b ++ ")"

/-- A scope. -/
def scope (w : Toolkit σ) (s : ScopeId) : String :=
  parts "DisposeScope" [("active", toString (w.heldCount s))]

/-- A sink, of which nothing is shown. -/
def sink : String := "Sink \x7b .. \x7d"

/-- A slot. -/
def slot (isSet : Bool) : String := parts "ListenerSlot" [("is_set", bool isSet)]

/-- A list. -/
def list (size : Nat) : String := parts "ListenerList" [("len", toString size)]

/-- A key of a list. -/
def key (k : Nat) : String := "ListenerKey(" ++ toString k ++ ")"

/-- A tape. -/
def tape (t : Tape) : String :=
  parts "RecordingObserver"
    [("pending", toString t.pending.length), ("subscribed", bool t.handle.isSome)]

/-- An observer made of functions. -/
def functions (handlesErrors : Bool) : String :=
  parts "FnObserver" [("handles_errors", bool handlesErrors)]

end Describe

end WidgetStreams
