import WidgetStreams.Value.Basic

/-!
# JSON documents

This file defines `Json`, what a well-formed JSON text says, and its relation to
plain data.

## Main definitions

- `Json` — scalars, lists and records
- `Json.ofValue`, `Json.value?` — a value as a document, and the value of a document

## Design notes

The grammar of JSON admits texts that stand for no value: numbers beyond every
bound, and quoted texts with half of a pair of code units. A document keeps such
a scalar, or such a name of a field, as `none`. So a reader may pass over a part
of a document that it has no use for, whether that part stands for a value or not.
-/

namespace WidgetStreams

/-- A **JSON document**; the scalars and names that stand for nothing are `none`. -/
inductive Json
  /-- Null, a truth value, a number or a text. -/
  | scalar (v : Option Value)
  | list (items : List Json)
  | record (fields : List (Option String × Json))
  deriving Repr, Inhabited

namespace Json

mutual

/-- A value as a document. -/
def ofValue : Value → Json
  | .list items => .list (ofValues items)
  | .record fields => .record (ofFields fields)
  | other => .scalar (some other)

/-- `ofValue` item by item. -/
def ofValues : List Value → List Json
  | [] => []
  | v :: rest => ofValue v :: ofValues rest

/-- `ofValue` field by field. -/
def ofFields : List (String × Value) → List (Option String × Json)
  | [] => []
  | (name, v) :: rest => (some name, ofValue v) :: ofFields rest

end

mutual

/-- The value for which a document stands, if all that is in it stands for something. -/
def value? : Json → Option Value
  | .scalar v => v
  | .list items => (values? items).map .list
  | .record fields => (fields? fields).map .record

/-- `value?` item by item. -/
def values? : List Json → Option (List Value)
  | [] => some []
  | j :: rest => do
    let v ← value? j
    let vs ← values? rest
    some (v :: vs)

/-- `value?` field by field. -/
def fields? : List (Option String × Json) → Option (List (String × Value))
  | [] => some []
  | (name, j) :: rest => do
    let name ← name
    let v ← value? j
    let fs ← fields? rest
    some ((name, v) :: fs)

end

end Json

end WidgetStreams
