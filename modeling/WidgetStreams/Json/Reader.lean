import WidgetStreams.Json.Basic

/-!
# Reading JSON

This file defines a strict reader of JSON texts.

## Main definitions

- `Json.readNumber` — a number, whole or decimal
- `Json.readUnits`, `Json.joinUnits` — the inside of a quoted text, and the text that it stands for
- `Json.readDocument` — a document at the front of a text
- `Json.read?` — a text that is one document and blanks around it
- `Value.read?` — a text that is one value and blanks around it

## Design notes

A number without point and exponent is whole if it fits into 64 bits, signed or
unsigned; every other number is decimal, negative zero too. Records keep their
fields as written, so a repeated name is still seen by whoever reads the record.
The recursion of `readDocument` is bounded by a count that starts at the length of
the text; what opens in a text also closes, so two steps take at least two characters.
-/

namespace WidgetStreams

namespace Json

/-- Whether the format allows `c` between two tokens. -/
def isGap (c : Char) : Bool := c == ' ' || c == '\n' || c == '\t' || c == '\r'

/-- The text behind its leading blanks. -/
def skipGap : List Char → List Char
  | [] => []
  | c :: rest => if isGap c then skipGap rest else c :: rest

/-- The leading digits of a text and what follows them. -/
def spanDigits : List Char → List Char × List Char
  | [] => ([], [])
  | c :: rest =>
    if c.isDigit then
      let (ds, r) := spanDigits rest
      (c :: ds, r)
    else ([], c :: rest)

/-- The number that a row of digits stands for. -/
def ofDigits (ds : List Char) : Nat := ds.foldl (fun n c => n * 10 + (c.toNat - '0'.toNat)) 0

/-- The least number that is too large to be held: it is nearer to `2 ^ 1024` than to any number
    of 53 binary digits below. -/
def tooLarge : Nat := 1 <<< 1024 - 1 <<< 970

/-- The fraction `digits * 10 ^ (up - down)`, if it is not too large to be held. How large it is
    depends on the digits and the exponent together; below `10 ^ (-400)` nothing is left of it. -/
def scaled? (negative : Bool) (digits up down : Nat) : Option Decimal :=
  if digits = 0 then some (.whole negative 0)
  else if up - down > 308 then none
  else if down - up > digits.log2 + 400 then some (.whole negative 0)
  else
    let n := digits * Decimal.tenTo (up - down)
    if n ≥ tooLarge * Decimal.tenTo (down - up) then none else some (.trim negative n (down - up))

/-- The point and the digits behind it; `none` stands for no point at all. -/
def readFraction : List Char → Option (Option (List Char) × List Char)
  | '.' :: rest =>
    match spanDigits rest with
    | ([], _) => none
    | (ds, r) => some (some ds, r)
  | rest => some (none, rest)

/-- The digits of an exponent. -/
def readPower (negative : Bool) (cs : List Char) : Option (Option (Bool × Nat) × List Char) :=
  match spanDigits cs with
  | ([], _) => none
  | (ds, r) => some (some (negative, ofDigits ds), r)

/-- The exponent of a number; `none` stands for no exponent at all. -/
def readExponent : List Char → Option (Option (Bool × Nat) × List Char)
  | c :: rest =>
    if c = 'e' || c = 'E' then
      match rest with
      | '+' :: r => readPower false r
      | '-' :: r => readPower true r
      | r => readPower false r
    else some (none, c :: rest)
  | [] => some (none, [])

/-- The digits in front of the point: no zero stands in front of another digit. -/
def readWhole (cs : List Char) : Option (List Char × List Char) :=
  match spanDigits cs with
  | ([], _) => none
  | ('0' :: _ :: _, _) => none
  | (ds, r) => some (ds, r)

/-- The value of a number from its parts, if it is not too large to be held. -/
def number? (negative : Bool) (whole : List Char) (fraction : Option (List Char))
    (exponent : Option (Bool × Nat)) : Option Value :=
  match fraction, exponent with
  | none, none =>
    let n := ofDigits whole
    if negative then
      if n = 0 then some (.decimal (.whole true 0))
      else if Int64.minValue.toInt ≤ -n then some (.int (-n))
      else (scaled? true n 0 0).map .decimal
    else if n < UInt64.size then some (.int n)
    else (scaled? false n 0 0).map .decimal
  | _, _ =>
    let behind := fraction.getD []
    let n := ofDigits (whole ++ behind)
    match exponent with
    | some (true, e) => (scaled? negative n 0 (behind.length + e)).map .decimal
    | some (false, e) => (scaled? negative n e behind.length).map .decimal
    | none => (scaled? negative n 0 behind.length).map .decimal

/-- A number without its sign. -/
def readUnsigned (negative : Bool) (cs : List Char) : Option (Option Value × List Char) := do
  let (whole, r) ← readWhole cs
  let (fraction, r) ← readFraction r
  let (exponent, r) ← readExponent r
  some (number? negative whole fraction exponent, r)

/-- A number, which is `none` if it is too large to be held. -/
def readNumber : List Char → Option (Option Value × List Char)
  | '-' :: rest => readUnsigned true rest
  | cs => readUnsigned false cs

/-- The number of a hexadecimal digit. -/
def hexValue (c : Char) : Option Nat :=
  if '0' ≤ c ∧ c ≤ '9' then some (c.toNat - '0'.toNat)
  else if 'a' ≤ c ∧ c ≤ 'f' then some (c.toNat - 'a'.toNat + 10)
  else if 'A' ≤ c ∧ c ≤ 'F' then some (c.toNat - 'A'.toNat + 10)
  else none

/-- The number of four hexadecimal digits. -/
def hexUnit (a b c d : Char) : Option Nat := do
  let a ← hexValue a
  let b ← hexValue b
  let c ← hexValue c
  let d ← hexValue d
  some (((a * 16 + b) * 16 + c) * 16 + d)

/-- Whether a unit is the first half of a pair. -/
def isHighHalf (u : Nat) : Bool := decide (0xD800 ≤ u ∧ u < 0xDC00)

/-- Whether a unit is the second half of a pair. -/
def isLowHalf (u : Nat) : Bool := decide (0xDC00 ≤ u ∧ u < 0xE000)

/-- The character of two halves. -/
def joinHalves (high low : Nat) : Char :=
  Char.ofNat (0x10000 + (high - 0xD800) * 0x400 + (low - 0xDC00))

/-- What a one-letter escape stands for. -/
def escaped? (c : Char) : Option Char :=
  if c = '"' then some '"'
  else if c = '\\' then some '\\'
  else if c = '/' then some '/'
  else if c = 'b' then some '\x08'
  else if c = 'f' then some '\x0c'
  else if c = 'n' then some '\n'
  else if c = 'r' then some '\r'
  else if c = 't' then some '\t'
  else none

/-- The code units of a quoted text, up to and over the closing quote. An escape may give half of a
    pair; every other character is one unit. Control characters must be escaped. -/
def readUnits : List Char → Option (List Nat × List Char)
  | [] => none
  | '"' :: rest => some ([], rest)
  | '\\' :: 'u' :: a :: b :: c :: d :: rest => do
    let u ← hexUnit a b c d
    let (us, r) ← readUnits rest
    some (u :: us, r)
  | '\\' :: c :: rest => do
    let e ← escaped? c
    let (us, r) ← readUnits rest
    some (e.toNat :: us, r)
  | c :: rest =>
    if c.toNat < 32 || c = '\\' then none
    else do
      let (us, r) ← readUnits rest
      some (c.toNat :: us, r)

/-- The characters of code units, if none of them is half of a pair that is not there. -/
def joinUnits : List Nat → Option (List Char)
  | [] => some []
  | [u] => if isHighHalf u || isLowHalf u then none else some [Char.ofNat u]
  | u :: l :: rest =>
    if isHighHalf u then
      if isLowHalf l then (joinUnits rest).map (joinHalves u l :: ·) else none
    else if isLowHalf u then none
    else (joinUnits (l :: rest)).map (Char.ofNat u :: ·)

/-- A quoted text whose opening quote has been read; it is `none` if half of a pair stands alone
    in it. -/
def readText (cs : List Char) : Option (Option String × List Char) :=
  (readUnits cs).map fun (us, r) => ((joinUnits us).map String.ofList, r)

mutual

/-- The document at the front of a text, and what follows it. -/
def readDocument : Nat → List Char → Option (Json × List Char)
  | 0, _ => none
  | n + 1, cs =>
    match skipGap cs with
    | 'n' :: 'u' :: 'l' :: 'l' :: r => some (.scalar (some .null), r)
    | 't' :: 'r' :: 'u' :: 'e' :: r => some (.scalar (some (.bool true)), r)
    | 'f' :: 'a' :: 'l' :: 's' :: 'e' :: r => some (.scalar (some (.bool false)), r)
    | '"' :: r => (readText r).map fun (s, r) => (.scalar (s.map .text), r)
    | '[' :: r =>
      match skipGap r with
      | ']' :: r => some (.list [], r)
      | r => (readItems n r).map fun (js, r) => (.list js, r)
    | '{' :: r =>
      match skipGap r with
      | '}' :: r => some (.record [], r)
      | r => (readFields n r).map fun (fs, r) => (.record fs, r)
    | r => (readNumber r).map fun (v, r) => (.scalar v, r)

/-- Items with commas between them, up to and over the closing bracket. -/
def readItems : Nat → List Char → Option (List Json × List Char)
  | 0, _ => none
  | n + 1, cs =>
    match readDocument n cs with
    | none => none
    | some (j, r) =>
      match skipGap r with
      | ']' :: r => some ([j], r)
      | ',' :: r => (readItems n r).map fun (js, r) => (j :: js, r)
      | _ => none

/-- Fields with commas between them, up to and over the closing brace. -/
def readFields : Nat → List Char → Option (List (Option String × Json) × List Char)
  | 0, _ => none
  | n + 1, cs =>
    match skipGap cs with
    | '"' :: r =>
      match readText r with
      | none => none
      | some (name, r) =>
        match skipGap r with
        | ':' :: r =>
          match readDocument n r with
          | none => none
          | some (j, r) =>
            match skipGap r with
            | '}' :: r => some ([(name, j)], r)
            | ',' :: r => (readFields n r).map fun (fs, r) => ((name, j) :: fs, r)
            | _ => none
        | _ => none
    | _ => none

end

/-- The document that a text consists of, up to blanks around it. -/
def read? (s : String) : Option Json :=
  let cs := s.toList
  match readDocument (cs.length + 1) cs with
  | some (j, rest) => if (skipGap rest).isEmpty then some j else none
  | none => none

end Json

/-- The value that a JSON text stands for. -/
def Value.read? (s : String) : Option Value := (Json.read? s).bind Json.value?

end WidgetStreams
