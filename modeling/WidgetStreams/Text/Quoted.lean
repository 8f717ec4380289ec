import WidgetStreams.Text.Blank

/-!
# Quoted texts in descriptions

This file defines how a text is quoted where an object describes itself:
between double quotes, with an escape for whatever would not be seen.
-/

namespace WidgetStreams.Text

/-- The ranges of characters beyond ASCII that have no shape of their own: controls, separators,
    format characters, marks that combine with their neighbour, and private or unused places. -/
def shapelessRanges : List (Nat × Nat) :=
  [(0x80, 0xa0), (0xad, 0xad), (0x300, 0x36f), (0x483, 0x489), (0x591, 0x5bd), (0x600, 0x605),
   (0x610, 0x61a), (0x64b, 0x65f), (0x1680, 0x1680), (0x180b, 0x180f), (0x1ab0, 0x1ace),
   (0x1dc0, 0x1dff), (0x2000, 0x200f), (0x2028, 0x202f), (0x205f, 0x206f), (0x20d0, 0x20f0),
   (0x3000, 0x3000), (0x302a, 0x302f), (0x3099, 0x309a), (0xd7fc, 0xf8ff), (0xfe00, 0xfe0f),
   (0xfe20, 0xfe2f), (0xfeff, 0xfeff), (0xfff0, 0xfffb), (0xfffe, 0xffff), (0xe0000, 0x10ffff)]

/-- Whether a character is shown as it is. -/
def isShown (c : Char) : Bool :=
  if c.toNat < 0x80 then decide (0x20 ≤ c.toNat ∧ c.toNat < 0x7f)
  else !inRanges shapelessRanges c.toNat

/-- One character inside quotes. -/
def quoteChar (c : Char) : List Char :=
  if c = '"' then ['\\', '"']
  else if c = '\\' then ['\\', '\\']
  else if c = '\n' then ['\\', 'n']
  else if c = '\r' then ['\\', 'r']
  else if c = '\t' then ['\\', 't']
  else if c.toNat = 0 then ['\\', '0']
  else if isShown c then [c]
  else '\\' :: 'u' :: '\x7b' :: (Nat.toDigits 16 c.toNat ++ ['\x7d'])

/-- A text between quotes. -/
def quote (s : String) : String :=
  String.ofList ('"' :: (s.toList.flatMap quoteChar ++ ['"']))

end WidgetStreams.Text
