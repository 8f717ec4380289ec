import WidgetStreams.Proofs.Nearest

/-!
# Written numbers can be read

This file proves that the reader finds in a written number the number itself: a
whole one that fits into 64 bits, signed or unsigned, and a decimal one that is
neither too large to be held nor too small. The shortest decimal of every number of
single precision is one of them.

## Main definitions

- `Json.Apart` — what follows a number without being taken for a part of it
- `Decimal.Legible` — a fraction that the reader does not round

## Main results

- `Decimal.IsSingle.legible_shortest` — a number of single precision can be read
- `Json.readNumber_writeInt` — a whole number is read as it was written
- `Json.readNumber_toChars` — and so is a decimal one

## Design notes

A number in front of a text ends where the text goes on with anything but a digit, a
point or an exponent. In a document a number is followed by a comma, a bracket or
nothing.
-/

namespace WidgetStreams

-- ════════════════════════════════════════════════════════════════════════
-- Fractions that can be read
-- ════════════════════════════════════════════════════════════════════════

namespace Decimal

/-- A **legible** fraction: nought, or a number that is neither too large nor too small to be
    held. -/
def Legible (d : Decimal) : Prop :=
  d.digits = 0 ∨ d.digits < Json.tooLarge * tenTo d.places ∧ d.places ≤ d.digits.log2 + 400

/-- **Numbers of single precision can be read**, however many of their digits are written. -/
theorem IsSingle.legible_shortest {d : Decimal} (h : d.IsSingle) : d.shortest.Legible := by
  have small : d.shortest.digits < 2 * 2 ^ 128 * tenTo d.shortest.places ∧
      d.shortest.places ≤ 149 := by
    rcases d.shortest_eq with eq | ⟨count, eq⟩
    · rw [eq]
      exact ⟨Nat.lt_of_lt_of_le h.digits_lt (Nat.mul_le_mul_right _ (by decide)), h.places_le⟩
    · rw [eq]
      exact ⟨digits_leading_lt h.digits_lt count, Nat.le_trans (places_leading_le ..) h.places_le⟩
  refine .inr ⟨Nat.lt_of_lt_of_le small.1 (Nat.mul_le_mul_right _ (by decide +kernel)), ?_⟩
  omega

end Decimal

namespace Json

open Decimal

-- ════════════════════════════════════════════════════════════════════════
-- Digits
-- ════════════════════════════════════════════════════════════════════════

theorem ofDigits_eq (ds : List Char) : ofDigits ds = Nat.ofDigitChars 10 ds 0 := by
  simp only [ofDigits, Nat.ofDigitChars_eq_foldl, Nat.mul_comm]

@[simp] theorem ofDigits_toDigits (n : Nat) : ofDigits (Nat.toDigits 10 n) = n := by
  rw [ofDigits_eq, Nat.ofDigitChars_ten_toDigits]

theorem ofDigits_append (as bs : List Char) :
    ofDigits (as ++ bs) = ofDigits as * tenTo bs.length + ofDigits bs := by
  simp only [ofDigits_eq, Nat.ofDigitChars_append]
  rw [Nat.ofDigitChars_eq_ofDigitChars_zero, Nat.mul_comm]
  rfl

theorem isDigit_toDigits {n : Nat} {c : Char} (h : c ∈ Nat.toDigits 10 n) : c.isDigit = true :=
  Nat.isDigit_of_mem_toDigits (by decide) (by decide) h

/-- No zero stands in front of the digits of a number. -/
theorem toDigits_ne_zero_cons (n : Nat) (c : Char) (cs : List Char) :
    Nat.toDigits 10 n ≠ '0' :: c :: cs := by
  induction n using Nat.strongRecOn generalizing c cs with
  | _ n ih =>
    intro eq
    by_cases small : n < 10
    · simp [Nat.toDigits_of_lt_base small] at eq
    · rw [Nat.toDigits_of_base_le (by decide) (by omega)] at eq
      match front : Nat.toDigits 10 (n / 10) with
      | [] => exact Nat.toDigits_ne_nil front
      | [x] =>
        have zero : x = '0' := by
          rw [front] at eq
          exact (List.cons.inj eq).1
        have value := ofDigits_toDigits (n / 10)
        rw [front, zero, show ofDigits ['0'] = 0 from rfl] at value
        omega
      | x :: y :: ys =>
        have zero : x = '0' := by
          rw [front] at eq
          exact (List.cons.inj eq).1
        exact ih (n / 10) (by omega) y ys (zero ▸ front)

theorem length_toDigits_le {places n : Nat} (h : n < tenTo places) (pos : 0 < places) :
    (Nat.toDigits 10 n).length ≤ places :=
  (Nat.length_toDigits_le_iff (by decide) pos).2 h

theorem length_padded {places n : Nat} (h : n < tenTo places) (pos : 0 < places) :
    (padded places n).length = places := by
  have := length_toDigits_le h pos
  simp only [padded, List.length_append, List.length_replicate]
  omega

@[simp] theorem ofDigits_padded (places n : Nat) : ofDigits (padded places n) = n := by
  rw [ofDigits_eq, padded, Nat.ofDigitChars_append, Nat.ofDigitChars_replicate_zero,
    Nat.mul_zero, ← ofDigits_eq, ofDigits_toDigits]

theorem isDigit_padded {places n : Nat} {c : Char} (h : c ∈ padded places n) :
    c.isDigit = true := by
  rcases List.mem_append.1 h with zero | digit
  · rw [List.eq_of_mem_replicate zero]
    rfl
  · exact isDigit_toDigits digit

-- ════════════════════════════════════════════════════════════════════════
-- The parts of a number
-- ════════════════════════════════════════════════════════════════════════

/-- Whether a character behind a number is no part of it. -/
def endsNumber (c : Char) : Bool := !c.isDigit && c != '.' && c != 'e' && c != 'E'

/-- A text that does not go on with a number in front of it. -/
def Apart (rest : List Char) : Prop := ∀ c ∈ rest.head?, endsNumber c = true

theorem apart_nil : Apart [] := nofun

theorem apart_cons {c : Char} {rest : List Char} (h : endsNumber c = true) : Apart (c :: rest) := by
  intro d eq
  cases eq
  exact h

theorem spanDigits_append {ds rest : List Char} (digits : ∀ c ∈ ds, c.isDigit = true)
    (stop : ∀ c ∈ rest.head?, c.isDigit = false) : spanDigits (ds ++ rest) = (ds, rest) := by
  induction ds with
  | nil =>
    cases rest with
    | nil => rfl
    | cons c rest => simp [spanDigits, stop c rfl]
  | cons c ds ih =>
    have head := digits c (by simp)
    have tail := ih fun d h => digits d (by simp [h])
    simp [spanDigits, head, tail]

variable {rest : List Char}

theorem Apart.stop (h : Apart rest) : ∀ c ∈ rest.head?, c.isDigit = false := by
  intro c at_head
  have := h c at_head
  simp only [endsNumber, Bool.and_eq_true, Bool.not_eq_true'] at this
  exact this.1.1.1

theorem readWhole_toDigits {n : Nat} (stop : ∀ c ∈ rest.head?, c.isDigit = false) :
    readWhole (Nat.toDigits 10 n ++ rest) = some (Nat.toDigits 10 n, rest) := by
  unfold readWhole
  rw [spanDigits_append (fun c => isDigit_toDigits) stop]
  split
  · rename_i eq
    exact absurd (Prod.mk.inj eq).1 Nat.toDigits_ne_nil
  · rename_i eq
    exact absurd (Prod.mk.inj eq).1 (toDigits_ne_zero_cons n _ _)
  · rename_i eq
    obtain ⟨rfl, rfl⟩ := Prod.mk.inj eq
    rfl

theorem readFraction_of_apart (h : Apart rest) : readFraction rest = some (none, rest) := by
  unfold readFraction
  split
  · exact absurd (h '.' rfl) (by decide)
  · rfl

theorem readFraction_point {ds : List Char} (digits : ∀ c ∈ ds, c.isDigit = true)
    (written : ds ≠ [])
    (h : Apart rest) : readFraction ('.' :: (ds ++ rest)) = some (some ds, rest) := by
  simp only [readFraction, spanDigits_append digits h.stop]

theorem readExponent_of_apart (h : Apart rest) : readExponent rest = some (none, rest) := by
  cases rest with
  | nil => rfl
  | cons c rest =>
    have head := h c rfl
    simp only [endsNumber, Bool.and_eq_true, bne_iff_ne] at head
    simp [readExponent, head.1.2, head.2]

/-- A number without a minus sign begins with a digit. -/
theorem readNumber_toDigits (n : Nat) (rest : List Char) :
    readNumber (Nat.toDigits 10 n ++ rest) = readUnsigned false (Nat.toDigits 10 n ++ rest) := by
  match digits : Nat.toDigits 10 n with
  | [] => exact absurd digits Nat.toDigits_ne_nil
  | c :: cs =>
    have digit : c.isDigit = true := isDigit_toDigits (by rw [digits]; exact List.mem_cons_self)
    have signless : c ≠ '-' := by
      rintro rfl
      exact absurd digit (by decide)
    simp [readNumber, signless]

-- ════════════════════════════════════════════════════════════════════════
-- Whole numbers
-- ════════════════════════════════════════════════════════════════════════

theorem readUnsigned_toDigits (negative : Bool) (n : Nat) (h : Apart rest) :
    readUnsigned negative (Nat.toDigits 10 n ++ rest) =
      some (number? negative (Nat.toDigits 10 n) none none, rest) := by
  simp [readUnsigned, readWhole_toDigits h.stop, readFraction_of_apart h, readExponent_of_apart h]

/-- **A whole number** that fits into 64 bits, signed or unsigned, is read as it was written. -/
theorem readNumber_writeInt {n : Int} (least : Int64.minValue.toInt ≤ n) (most : n < UInt64.size)
    (h : Apart rest) : readNumber (Value.writeInt n rest) = some (some (.int n), rest) := by
  by_cases negative : n < 0
  · have value : -(n.natAbs : Int) = n := by omega
    have zero : n.natAbs ≠ 0 := by omega
    simp only [Value.writeInt, if_pos negative, readNumber]
    rw [readUnsigned_toDigits true n.natAbs h]
    simp only [number?, ofDigits_toDigits, value, if_neg zero, if_pos least, if_true]
  · have value : (n.natAbs : Int) = n := by omega
    have small : n.natAbs < UInt64.size := by omega
    simp only [Value.writeInt, if_neg negative]
    rw [readNumber_toDigits, readUnsigned_toDigits false n.natAbs h]
    simp only [number?, ofDigits_toDigits, value, if_pos small]
    rfl

-- ════════════════════════════════════════════════════════════════════════
-- Decimal numbers
-- ════════════════════════════════════════════════════════════════════════

/-- The digits of a fraction behind the point. -/
def behindPoint (d : Decimal) : List Char :=
  if d.places = 0 then ['0'] else padded d.places (d.digits % tenTo d.places)

theorem toChars_eq (d : Decimal) :
    d.toChars = (if d.negative then ['-'] else []) ++
      (Nat.toDigits 10 (d.digits / tenTo d.places) ++ '.' :: behindPoint d) :=
  List.append_assoc ..

theorem isDigit_behindPoint (d : Decimal) : ∀ c ∈ behindPoint d, c.isDigit = true := by
  intro c mem
  unfold behindPoint at mem
  split at mem
  · rw [List.mem_singleton.1 mem]
    rfl
  · exact isDigit_padded mem

theorem length_behindPoint (d : Decimal) : (behindPoint d).length = max d.places 1 := by
  unfold behindPoint
  split
  · rename_i integral
    rw [integral]
    rfl
  · rw [length_padded (Nat.mod_lt _ (tenTo_pos _)) (by omega)]
    omega

/-- All digits of a written fraction together, with a zero more if there are none behind the
    point. -/
theorem ofDigits_toChars (d : Decimal) :
    ofDigits (Nat.toDigits 10 (d.digits / tenTo d.places) ++ behindPoint d) =
      if d.places = 0 then d.digits * 10 else d.digits := by
  rw [ofDigits_append, ofDigits_toDigits, length_behindPoint]
  by_cases integral : d.places = 0
  · have value : d.digits / tenTo 0 = d.digits := Nat.div_one _
    simp only [behindPoint, integral, if_true, value]
    rfl
  · have places : max d.places 1 = d.places := by omega
    rw [places, behindPoint, if_neg integral, ofDigits_padded, if_neg integral]
    exact Nat.div_add_mod' ..

theorem scaled?_of_fits {n places : Nat} (negative : Bool) (nonzero : n ≠ 0)
    (small : n < tooLarge * tenTo places) (large : places ≤ n.log2 + 400) :
    scaled? negative n 0 places = some (trim negative n places) := by
  have unit : n * tenTo (0 - places) = n := by
    rw [Nat.zero_sub]
    exact Nat.mul_one n
  simp only [scaled?, if_neg nonzero, if_neg (show ¬ 0 - places > 308 by omega), Nat.sub_zero,
    if_neg (Nat.not_lt.2 large), unit, if_neg (Nat.not_le.2 small)]

/-- What the reader makes of the digits of a legible fraction. -/
theorem scaled?_toChars {d : Decimal} (h : d.Legible) :
    scaled? d.negative (if d.places = 0 then d.digits * 10 else d.digits) 0 (max d.places 1) =
      some d := by
  by_cases zero : d.digits = 0
  · have places : d.places = 0 := by
      rcases d.lowest with integral | ended
      · exact integral
      · omega
    have whole : whole d.negative 0 = d := by
      rw [← trim_eq_self d, zero, places]
      rfl
    simp only [places, zero, scaled?, if_true, Nat.zero_mul, whole]
  · obtain ⟨small, large⟩ := h.resolve_left zero
    by_cases integral : d.places = 0
    · rw [integral, show tenTo 0 = 1 from rfl] at small
      have dropped : trim d.negative (d.digits * 10) 1 = d := by
        rw [trim, dif_pos (Nat.mul_mod_left ..), Nat.mul_div_cancel _ (by decide), ← integral]
        exact trim_eq_self d
      rw [if_pos integral, integral, show max 0 1 = 1 from rfl,
        scaled?_of_fits d.negative (by omega)
          (by rw [show tenTo 1 = 10 from rfl]; omega) (by omega),
        dropped]
    · rw [if_neg integral, show max d.places 1 = d.places by omega,
        scaled?_of_fits d.negative zero small large, trim_eq_self]

theorem readUnsigned_toChars {d : Decimal} (legible : d.Legible) (h : Apart rest) :
    readUnsigned d.negative
        (Nat.toDigits 10 (d.digits / tenTo d.places) ++ '.' :: (behindPoint d ++ rest)) =
      some (some (.decimal d), rest) := by
  have stop : ∀ c ∈ ('.' :: (behindPoint d ++ rest)).head?, c.isDigit = false := by
    intro c at_head
    cases at_head
    rfl
  have written : behindPoint d ≠ [] := by
    rw [← List.length_pos_iff, length_behindPoint]
    omega
  have value : number? d.negative (Nat.toDigits 10 (d.digits / tenTo d.places))
      (some (behindPoint d)) none = some (.decimal d) := by
    simp only [number?, Option.getD_some, ofDigits_toChars, length_behindPoint,
      scaled?_toChars legible, Option.map_some]
  simp only [readUnsigned, readWhole_toDigits stop, Option.bind_eq_bind, Option.bind_some,
    readFraction_point (isDigit_behindPoint d) written h, readExponent_of_apart h, value]

/-- **A decimal number** that is legible is read as it was written. -/
theorem readNumber_toChars {d : Decimal} (legible : d.Legible) (h : Apart rest) :
    readNumber (d.toChars ++ rest) = some (some (.decimal d), rest) := by
  have read := readUnsigned_toChars legible h
  rw [toChars_eq]
  cases sign : d.negative with
  | true =>
    rw [sign] at read
    simpa [readNumber] using read
  | false =>
    rw [sign] at read
    simpa [readNumber_toDigits] using read

end Json

end WidgetStreams
