import WidgetStreams.Json.Reader
import WidgetStreams.Single
import WidgetStreams.Value.Writer

/-!
# Formats

This file defines what a format of texts is, what is documented of the JSON of the
library that reads and writes payloads, and the format in which scenarios are read.

## Main definitions

- `Format` — how values are written, and what is read
- `Format.Documented` — what may be relied on
- `Format.plain` — a format without blanks

## Design notes

Payloads leave open by which text a value is written, and in how many digits a
fraction. They rely on the documented: a document is read as it was written, except
that a fraction is read from the digits that were written of it, and that these
digits tell it from every other number of single precision.
-/

namespace WidgetStreams

/-- A value **within** bounds: whole numbers have 64 bits, signed or unsigned, and fractions are of
    a given kind. -/
inductive Value.Within (fraction : Decimal → Prop) : Value → Prop
  | null : Within fraction .null
  | bool (b : Bool) : Within fraction (.bool b)
  | int {n : Int} (least : Int64.minValue.toInt ≤ n) (most : n < UInt64.size) :
    Within fraction (.int n)
  | decimal {d : Decimal} (h : fraction d) : Within fraction (.decimal d)
  | text (s : String) : Within fraction (.text s)
  | list {items : List Value} (h : ∀ a ∈ items, Within fraction a) : Within fraction (.list items)
  | record {fields : List (String × Value)} (h : ∀ f ∈ fields, Within fraction f.2) :
    Within fraction (.record fields)

/-- A fraction that is a finite number of single precision. -/
def Decimal.IsSingle (d : Decimal) : Prop := ∃ x : Float32, x.toDecimal? = some d

/-- Whether `f` changes no number of single precision by so much that another is nearer. -/
def KeepsNearest (f : Decimal → Decimal) : Prop :=
  ∀ d : Decimal, d.IsSingle → Float32.nearest (f d) = .nearest d

/-- A **format** of texts. -/
structure Format where
  /-- The text of a value. -/
  write : Value → String
  /-- The document that a text consists of. -/
  read? : String → Option Json
  /-- The fraction that is read from the digits of the given one. -/
  reread : Decimal → Decimal

/-- **What is documented** of a format. -/
structure Format.Documented (format : Format) : Prop where
  /-- A written value is read as a document with the same truth values, texts, whole numbers, items
      and fields, if it is not nested deeper than the reader goes. -/
  read?_write : ∀ v : Value, v.Within Decimal.IsSingle → v.depth < 128 →
    format.read? (format.write v) = some (.ofValue (v.mapDecimals format.reread))
  /-- The digits that are written of a number of single precision are not nearer to any other. -/
  keepsNearest_reread : KeepsNearest format.reread

/-- The **plain** format: JSON without blanks, and with as few digits as possible. -/
def Format.plain : Format where
  write v := (v.mapDecimals Decimal.shortest).render
  read? := Json.read?
  reread := Decimal.shortest

end WidgetStreams
