import WidgetStreams.Value.Basic

/-!
# Writing values as JSON

This file defines the JSON text of a value, without any blank. Every function
puts what it writes in front of the text that follows.

## Main definitions

- `Value.write` — the text of a value in front of a given one
- `Value.render` — the text of a value
-/

namespace WidgetStreams.Value

/-- The lower-case hexadecimal digit of a number below sixteen. -/
def hexDigit (n : Nat) : Char := Nat.digitChar n

/-- The letter by which a character is escaped, if it has one. -/
def escape? (c : Char) : Option Char :=
  if c = '"' then some '"'
  else if c = '\\' then some '\\'
  else if c = '\x08' then some 'b'
  else if c = '\t' then some 't'
  else if c = '\n' then some 'n'
  else if c = '\x0c' then some 'f'
  else if c = '\r' then some 'r'
  else none

/-- One character of a quoted text. Quotes, backslashes and control characters are escaped, the
    control characters without a letter by their numbers. -/
def writeChar (c : Char) (rest : List Char) : List Char :=
  match escape? c with
  | some letter => '\\' :: letter :: rest
  | none =>
    if c.toNat < 32 then
      '\\' :: 'u' :: '0' :: '0' :: hexDigit (c.toNat / 16) :: hexDigit (c.toNat % 16) :: rest
    else c :: rest

/-- The characters of a quoted text and the closing quote. -/
def writeChars : List Char → List Char → List Char
  | [], rest => '"' :: rest
  | c :: cs, rest => writeChar c (writeChars cs rest)

/-- A quoted text. -/
def writeText (s : String) (rest : List Char) : List Char := '"' :: writeChars s.toList rest

/-- A whole number. -/
def writeInt (n : Int) (rest : List Char) : List Char :=
  if n < 0 then '-' :: (Nat.toDigits 10 n.natAbs ++ rest) else Nat.toDigits 10 n.natAbs ++ rest

mutual

/-- The JSON text of a value, in front of `rest`. -/
def write : Value → List Char → List Char
  | .null, rest => 'n' :: 'u' :: 'l' :: 'l' :: rest
  | .bool true, rest => 't' :: 'r' :: 'u' :: 'e' :: rest
  | .bool false, rest => 'f' :: 'a' :: 'l' :: 's' :: 'e' :: rest
  | .int n, rest => writeInt n rest
  | .decimal d, rest => d.toChars ++ rest
  | .text s, rest => writeText s rest
  | .list [], rest => '[' :: ']' :: rest
  | .list (a :: as), rest => '[' :: write a (writeItems as rest)
  | .record [], rest => '{' :: '}' :: rest
  | .record ((name, a) :: fs), rest =>
    '{' :: writeText name (':' :: write a (writeFields fs rest))

/-- The items after the first, each behind a comma, and the closing bracket. -/
def writeItems : List Value → List Char → List Char
  | [], rest => ']' :: rest
  | a :: as, rest => ',' :: write a (writeItems as rest)

/-- The fields after the first, each behind a comma, and the closing brace. -/
def writeFields : List (String × Value) → List Char → List Char
  | [], rest => '}' :: rest
  | (name, a) :: fs, rest => ',' :: writeText name (':' :: write a (writeFields fs rest))

end

/-- The JSON text of a value. -/
def render (v : Value) : String := String.ofList (v.write [])

end WidgetStreams.Value
