import WidgetStreams.Decimal

/-!
# Plain data

This file defines `Value`, data without behaviour: what a caller keeps in a
slot, what a dial shows, and the form in which events are written down.

## Main definitions

- `Value` — null, truth values, whole and decimal numbers, texts, lists, records
- `Value.equal` — whether two values are alike to the letter
- `Value.same` — equality in which neither the order of a record's fields nor the sign of zero
  counts
- `Value.fill` — put a value in the place of a marked text
- `Value.mapDecimals` — change the decimal numbers in a value
- `Value.depth` — how deep lists and records are nested
- `Value.field?` — a field of a record
-/

namespace WidgetStreams

/-- **Plain data.** -/
inductive Value
  | null
  | bool (b : Bool)
  | int (n : Int)
  | decimal (d : Decimal)
  | text (s : String)
  | list (items : List Value)
  | record (fields : List (String × Value))
  deriving Repr, Inhabited

namespace Value

mutual

/-- Whether two values are the same to the letter, the order of fields included. -/
def equal : Value → Value → Bool
  | .null, .null => true
  | .bool a, .bool b => a == b
  | .int a, .int b => a == b
  | .decimal a, .decimal b => a == b
  | .text a, .text b => a == b
  | .list a, .list b => equalItems a b
  | .record a, .record b => equalFields a b
  | _, _ => false

/-- `equal` item by item. -/
def equalItems : List Value → List Value → Bool
  | [], [] => true
  | a :: as, b :: bs => equal a b && equalItems as bs
  | _, _ => false

/-- `equal` field by field. -/
def equalFields : List (String × Value) → List (String × Value) → Bool
  | [], [] => true
  | (m, a) :: as, (n, b) :: bs => m == n && equal a b && equalFields as bs
  | _, _ => false

end

mutual

theorem equal_iff : ∀ a b : Value, a.equal b = true ↔ a = b
  | .null, b => by cases b <;> simp [equal]
  | .bool a, b => by cases b <;> simp [equal]
  | .int a, b => by cases b <;> simp [equal]
  | .decimal a, b => by cases b <;> simp [equal]
  | .text a, b => by cases b <;> simp [equal]
  | .list a, b => by cases b <;> simp [equal, equalItems_iff a]
  | .record a, b => by cases b <;> simp [equal, equalFields_iff a]

theorem equalItems_iff : ∀ a b : List Value, equalItems a b = true ↔ a = b
  | [], b => by cases b <;> simp [equalItems]
  | a :: as, b => by cases b <;> simp [equalItems, equal_iff a, equalItems_iff as]

theorem equalFields_iff : ∀ a b : List (String × Value), equalFields a b = true ↔ a = b
  | [], b => by cases b <;> simp [equalFields]
  | (m, a) :: as, b => by
    cases b with
    | nil => simp [equalFields]
    | cons f bs => simp [equalFields, equal_iff a, equalFields_iff as, Prod.ext_iff]

end

instance : DecidableEq Value := fun a b => decidable_of_iff _ (equal_iff a b)

/-- The field `name` of a record. -/
def field? (name : String) : Value → Option Value
  | .record fields => fields.lookup name
  | _ => none

mutual

/-- Whether two values are equal, where the fields of a record may stand in any order and zero has
    no sign. A whole number and a decimal one are never equal. -/
def same : Value → Value → Bool
  | .null, .null => true
  | .bool a, .bool b => a == b
  | .int a, .int b => a == b
  | .decimal a, .decimal b => a.sameNumber b
  | .text a, .text b => a == b
  | .list a, .list b => sameItems a b
  | .record a, .record b => a.length == b.length && sameFields a b
  | _, _ => false

/-- Whether two lists are equal item by item. -/
def sameItems : List Value → List Value → Bool
  | [], [] => true
  | a :: as, b :: bs => same a b && sameItems as bs
  | _, _ => false

/-- Whether each field in the first list has an equal one in the second. -/
def sameFields : List (String × Value) → List (String × Value) → Bool
  | [], _ => true
  | (name, a) :: rest, fields => sameField name a fields && sameFields rest fields

/-- Whether the first field called `name` holds a value equal to `a`. -/
def sameField (name : String) (a : Value) : List (String × Value) → Bool
  | [] => false
  | (n, b) :: rest => if n = name then same a b else sameField name a rest

end

mutual

/-- The value in which every text equal to `mark`, at any depth, is replaced by `v`. -/
def fill (mark : String) (v : Value) : Value → Value
  | .text s => if s = mark then v else .text s
  | .list items => .list (fillItems mark v items)
  | .record fields => .record (fillFields mark v fields)
  | other => other

/-- `fill` in each item of a list. -/
def fillItems (mark : String) (v : Value) : List Value → List Value
  | [] => []
  | a :: rest => fill mark v a :: fillItems mark v rest

/-- `fill` in each field of a record. -/
def fillFields (mark : String) (v : Value) : List (String × Value) → List (String × Value)
  | [] => []
  | (name, a) :: rest => (name, fill mark v a) :: fillFields mark v rest

end

mutual

/-- The value in which every decimal number, at any depth, is changed by `f`. -/
def mapDecimals (f : Decimal → Decimal) : Value → Value
  | .decimal d => .decimal (f d)
  | .list items => .list (mapItems f items)
  | .record fields => .record (mapFields f fields)
  | other => other

/-- `mapDecimals` in each item of a list. -/
def mapItems (f : Decimal → Decimal) : List Value → List Value
  | [] => []
  | a :: rest => mapDecimals f a :: mapItems f rest

/-- `mapDecimals` in each field of a record. -/
def mapFields (f : Decimal → Decimal) : List (String × Value) → List (String × Value)
  | [] => []
  | (name, a) :: rest => (name, mapDecimals f a) :: mapFields f rest

end

mutual

/-- How many lists and records stand around the innermost scalar. -/
def depth : Value → Nat
  | .list items => depthOfItems items + 1
  | .record fields => depthOfFields fields + 1
  | _ => 0

/-- The depth of the deepest item. -/
def depthOfItems : List Value → Nat
  | [] => 0
  | a :: rest => max (depth a) (depthOfItems rest)

/-- The depth of the deepest field. -/
def depthOfFields : List (String × Value) → Nat
  | [] => 0
  | (_, a) :: rest => max (depth a) (depthOfFields rest)

end

end Value

end WidgetStreams
