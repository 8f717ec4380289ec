import WidgetStreams.Payload.Basic
import WidgetStreams.Json.Format

/-!
# The written form of payloads

This file defines how payloads are written as plain data and read back.

## Main definitions

- `Payload.encode` — the plain data of a payload
- `Payload.decode?` — the payload of a given type from a document
- `Payload.toText`, `Payload.ofText?` — the same as a text of some format

## Design notes

An event is written as a record of its fields, a choice without data as its
name, and a selection as a record whose one field names the variant. Reading is
laxer than writing: it ignores fields that it does not know, whatever they hold,
takes a list of exactly the fields in order, and takes a name as the one field of a
record that holds null. It is strict about the rest: no field is missing or doubled,
every name can be read, and numbers fit their type.
-/

namespace WidgetStreams

-- ════════════════════════════════════════════════════════════════════════
-- Reading plain data
-- ════════════════════════════════════════════════════════════════════════

namespace Value

/-- A truth value. -/
def bool? : Value → Option Bool
  | .bool b => some b
  | _ => none

/-- A text. -/
def text? : Value → Option String
  | .text s => some s
  | _ => none

/-- An unsigned number of 64 bits. -/
def nat64? : Value → Option Nat
  | .int n => if 0 ≤ n ∧ n < UInt64.size then some n.toNat else none
  | _ => none

/-- A signed number of 32 bits. -/
def int32? : Value → Option Int32
  | .int n =>
    if Int32.minValue.toInt ≤ n ∧ n ≤ Int32.maxValue.toInt then some (Int32.ofInt n) else none
  | _ => none

/-- A signed number of 64 bits. -/
def int64? : Value → Option Int64
  | .int n =>
    if Int64.minValue.toInt ≤ n ∧ n ≤ Int64.maxValue.toInt then some (Int64.ofInt n) else none
  | _ => none

/-- A number of single precision, the one nearest to what is written. -/
def decimal? : Value → Option Float32
  | .decimal d => some (.nearest d)
  | .int n => some (.nearest (Decimal.ofInt n))
  | _ => none

/-- A signed number of 32 bits as data. -/
def ofInt32 (n : Int32) : Value := .int n.toInt

/-- A signed number of 64 bits as data. -/
def ofInt64 (n : Int64) : Value := .int n.toInt

/-- A natural number as data. -/
def ofNat (n : Nat) : Value := .int n

/-- A number of single precision as data; infinity and what is no number are null. -/
def ofFloat32 (x : Float32) : Value :=
  match x.toDecimal? with
  | some d => .decimal d
  | none => .null

end Value

-- ════════════════════════════════════════════════════════════════════════
-- Reading documents
-- ════════════════════════════════════════════════════════════════════════

namespace Json

/-- What `read` makes of a scalar. -/
def scalar? {α : Type} (read : Value → Option α) : Json → Option α
  | .scalar (some v) => read v
  | _ => none

/-- The field `name`, if the record has exactly one of that name. -/
def only? (fields : List (Option String × Json)) (name : String) : Option Json :=
  match fields.filter (fun f => f.1 == some name) with
  | [(_, j)] => some j
  | _ => none

/-- The parts of the given names, from a record whose names can all be read, or from a list of
    exactly as many items. -/
def parts? (names : List String) : Json → Option (List Json)
  | .scalar _ => none
  | .list items => if items.length = names.length then some items else none
  | .record fields =>
    if fields.all fun f => f.1.isSome then names.mapM (only? fields) else none

/-- The name of a choice without data. -/
def choice? : Json → Option String
  | .scalar (some (.text s)) => some s
  | .record [(some s, .scalar (some .null))] => some s
  | _ => none

/-- The member of `all` that has the given name. -/
def named? {α : Type} (name : α → String) (all : List α) (j : Json) : Option α := do
  let s ← j.choice?
  all.find? fun a => name a == s

end Json

-- ════════════════════════════════════════════════════════════════════════
-- Values inside events
-- ════════════════════════════════════════════════════════════════════════

namespace Motion

/-- A motion as data. -/
def encode (m : Motion) : Value :=
  .record [("action", .text m.action.name), ("x", .ofFloat32 m.x), ("y", .ofFloat32 m.y)]

/-- A motion from a document. -/
def decode? (j : Json) : Option Motion :=
  match j.parts? ["action", "x", "y"] with
  | some [action, x, y] => do
    let action ← action.named? MotionAction.name MotionAction.all
    let x ← x.scalar? Value.decimal?
    let y ← y.scalar? Value.decimal?
    some ⟨action, x, y⟩
  | _ => none

end Motion

namespace ScrollOffset

/-- An offset as data. -/
def encode (o : ScrollOffset) : Value := .record [("x", .ofInt32 o.x), ("y", .ofInt32 o.y)]

/-- An offset from a document. -/
def decode? (j : Json) : Option ScrollOffset :=
  match j.parts? ["x", "y"] with
  | some [x, y] => do
    let x ← x.scalar? Value.int32?
    let y ← y.scalar? Value.int32?
    some ⟨x, y⟩
  | _ => none

end ScrollOffset

namespace MenuItem

/-- A menu item as data. -/
def encode (i : MenuItem) : Value := .record [("id", .ofInt32 i.id), ("title", .text i.title)]

/-- A menu item from a document. -/
def decode? (j : Json) : Option MenuItem :=
  match j.parts? ["id", "title"] with
  | some [id, title] => do
    let id ← id.scalar? Value.int32?
    let title ← title.scalar? Value.text?
    some ⟨id, title⟩
  | _ => none

end MenuItem

-- ════════════════════════════════════════════════════════════════════════
-- Payloads
-- ════════════════════════════════════════════════════════════════════════

namespace Payload

/-- A payload as data. -/
def encode : Payload → Value
  | .unit => .null
  | .flag on => .bool on
  | .number n => .ofInt32 n
  | .page n => .ofNat n
  | .text s => .text s
  | .viewId view => .ofNat view
  | .motionAction action => .text action.name
  | .motion m => m.encode
  | .visibility v => .text v.name
  | .scrollOffset o => o.encode
  | .scrollState s => .text s.name
  | .queryKind k => .text k.name
  | .menuItem i => i.encode
  | .data v => v
  | .click view => .record [("view", .ofNat view)]
  | .longClick view => .record [("view", .ofNat view)]
  | .touch view m => .record [("view", .ofNat view), ("motion", m.encode)]
  | .hover view m => .record [("view", .ofNat view), ("motion", m.encode)]
  | .focusChange view hasFocus => .record [("view", .ofNat view), ("has_focus", .bool hasFocus)]
  | .textChange view s start before count =>
    .record [("view", .ofNat view), ("text", .text s), ("start", .ofNat start),
      ("before", .ofNat before), ("count", .ofNat count)]
  | .afterTextChange view s => .record [("view", .ofNat view), ("text", .text s)]
  | .editorAction view action => .record [("view", .ofNat view), ("action_id", .ofInt32 action)]
  | .itemSelected view position id =>
    .record [("ItemSelected", .record
      [("view", .ofNat view), ("position", .ofInt32 position), ("id", .ofInt64 id)])]
  | .nothingSelected view => .record [("NothingSelected", .record [("view", .ofNat view)])]
  | .itemClick view position id =>
    .record [("view", .ofNat view), ("position", .ofInt32 position), ("id", .ofInt64 id)]
  | .itemLongClick view position id =>
    .record [("view", .ofNat view), ("position", .ofInt32 position), ("id", .ofInt64 id)]
  | .queryText view query submitted =>
    .record [("view", .ofNat view), ("query", .text query), ("submitted", .bool submitted)]
  | .barQuery view query kind =>
    .record [("view", .ofNat view), ("query", .text query), ("kind", .text kind.name)]
  | .pageScroll view position offset offsetPixels =>
    .record [("view", .ofNat view), ("position", .ofNat position), ("offset", .ofFloat32 offset),
      ("offset_px", .ofInt32 offsetPixels)]
  | .scrollChange view scroll oldScroll =>
    .record [("view", .ofNat view), ("scroll", scroll.encode), ("old_scroll", oldScroll.encode)]

/-- An event of which nothing but the view is told. -/
def viewOnly? (make : ViewId → Payload) (j : Json) : Option Payload :=
  match j.parts? ["view"] with
  | some [view] => (view.scalar? Value.nat64?).map make
  | _ => none

/-- An event of a motion over a view. -/
def viewMotion? (make : ViewId → Motion → Payload) (j : Json) : Option Payload :=
  match j.parts? ["view", "motion"] with
  | some [view, m] => do
    let view ← view.scalar? Value.nat64?
    let m ← Motion.decode? m
    some (make view m)
  | _ => none

/-- An event at a row of an adapter view. -/
def viewRow? (make : ViewId → Int32 → Int64 → Payload) (j : Json) : Option Payload :=
  match j.parts? ["view", "position", "id"] with
  | some [view, position, id] => do
    let view ← view.scalar? Value.nat64?
    let position ← position.scalar? Value.int32?
    let id ← id.scalar? Value.int64?
    some (make view position id)
  | _ => none

/-- The payload of type `t` that a document stands for. -/
def decode? (t : PayloadType) (j : Json) : Option Payload :=
  match t with
  | .viewId => (j.scalar? Value.nat64?).map .viewId
  | .motionAction => (j.named? MotionAction.name MotionAction.all).map .motionAction
  | .motion => (Motion.decode? j).map .motion
  | .visibility => (j.named? Visibility.name Visibility.all).map .visibility
  | .scrollOffset => (ScrollOffset.decode? j).map .scrollOffset
  | .scrollState => (j.named? ScrollState.name ScrollState.all).map .scrollState
  | .queryKind => (j.named? QueryKind.name QueryKind.all).map .queryKind
  | .menuItem => (MenuItem.decode? j).map .menuItem
  | .click => viewOnly? .click j
  | .longClick => viewOnly? .longClick j
  | .touch => viewMotion? .touch j
  | .hover => viewMotion? .hover j
  | .focusChange =>
    match j.parts? ["view", "has_focus"] with
    | some [view, hasFocus] => do
      let view ← view.scalar? Value.nat64?
      let hasFocus ← hasFocus.scalar? Value.bool?
      some (.focusChange view hasFocus)
    | _ => none
  | .textChange =>
    match j.parts? ["view", "text", "start", "before", "count"] with
    | some [view, s, start, before, count] => do
      let view ← view.scalar? Value.nat64?
      let s ← s.scalar? Value.text?
      let start ← start.scalar? Value.nat64?
      let before ← before.scalar? Value.nat64?
      let count ← count.scalar? Value.nat64?
      some (.textChange view s start before count)
    | _ => none
  | .afterTextChange =>
    match j.parts? ["view", "text"] with
    | some [view, s] => do
      let view ← view.scalar? Value.nat64?
      let s ← s.scalar? Value.text?
      some (.afterTextChange view s)
    | _ => none
  | .editorAction =>
    match j.parts? ["view", "action_id"] with
    | some [view, action] => do
      let view ← view.scalar? Value.nat64?
      let action ← action.scalar? Value.int32?
      some (.editorAction view action)
    | _ => none
  | .selection =>
    match j with
    | .record [(some "ItemSelected", k)] => viewRow? .itemSelected k
    | .record [(some "NothingSelected", k)] => viewOnly? .nothingSelected k
    | _ => none
  | .itemClick => viewRow? .itemClick j
  | .itemLongClick => viewRow? .itemLongClick j
  | .queryText =>
    match j.parts? ["view", "query", "submitted"] with
    | some [view, query, submitted] => do
      let view ← view.scalar? Value.nat64?
      let query ← query.scalar? Value.text?
      let submitted ← submitted.scalar? Value.bool?
      some (.queryText view query submitted)
    | _ => none
  | .barQuery =>
    match j.parts? ["view", "query", "kind"] with
    | some [view, query, kind] => do
      let view ← view.scalar? Value.nat64?
      let query ← query.scalar? Value.text?
      let kind ← kind.named? QueryKind.name QueryKind.all
      some (.barQuery view query kind)
    | _ => none
  | .pageScroll =>
    match j.parts? ["view", "position", "offset", "offset_px"] with
    | some [view, position, offset, offsetPixels] => do
      let view ← view.scalar? Value.nat64?
      let position ← position.scalar? Value.nat64?
      let offset ← offset.scalar? Value.decimal?
      let offsetPixels ← offsetPixels.scalar? Value.int32?
      some (.pageScroll view position offset offsetPixels)
    | _ => none
  | .scrollChange =>
    match j.parts? ["view", "scroll", "old_scroll"] with
    | some [view, scroll, oldScroll] => do
      let view ← view.scalar? Value.nat64?
      let scroll ← ScrollOffset.decode? scroll
      let oldScroll ← ScrollOffset.decode? oldScroll
      some (.scrollChange view scroll oldScroll)
    | _ => none

/-- The text of a payload. -/
def toText (format : Format) (p : Payload) : String := format.write p.encode

/-- The payload of type `t` that a text stands for. -/
def ofText? (format : Format) (t : PayloadType) (s : String) : Option Payload :=
  (format.read? s).bind (decode? t)

end Payload

end WidgetStreams
