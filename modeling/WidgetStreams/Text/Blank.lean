/-!
# Blank characters

This file defines the characters with the property White_Space, and the text
without blanks at its ends.
-/

namespace WidgetStreams.Text

/-- The ranges of the characters with the property White_Space. -/
def blankRanges : List (Nat × Nat) :=
  [(0x9, 0xd), (0x20, 0x20), (0x85, 0x85), (0xa0, 0xa0), (0x1680, 0x1680), (0x2000, 0x200a),
   (0x2028, 0x2029), (0x202f, 0x202f), (0x205f, 0x205f), (0x3000, 0x3000)]

/-- Whether a number lies in one of the ranges. -/
def inRanges (ranges : List (Nat × Nat)) (n : Nat) : Bool :=
  ranges.any fun r => decide (r.1 ≤ n ∧ n ≤ r.2)

/-- Whether a character is blank. -/
def isBlank (c : Char) : Bool := inRanges blankRanges c.toNat

/-- The characters behind the leading blanks. -/
def dropBlank (cs : List Char) : List Char := cs.dropWhile isBlank

/-- The characters between the leading and the trailing blanks. -/
def trimmed (cs : List Char) : List Char := (dropBlank (dropBlank cs).reverse).reverse

end WidgetStreams.Text
