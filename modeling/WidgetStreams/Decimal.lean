/-!
# Decimal fractions

This file defines `Decimal`, an exact decimal fraction in lowest terms with a
sign, as the numbers in a document are written: `1.5`, `-2.0`, `0.0`.

## Main definitions

- `Decimal` — sign, digits and places
- `Decimal.trim` — the fraction of a sign, digits and places that may not be in lowest terms
- `Decimal.toChars` — the written form
- `Decimal.sameNumber` — equality that does not look at the sign of zero

## Design notes

Lowest terms are part of the type, so two fractions that are written alike are
the same fraction: `1.50` and `1.5` have one representation.
-/

namespace WidgetStreams

/-- A **decimal fraction**: `digits / 10 ^ places`, negative or not. Zero has a sign too. -/
structure Decimal where
  /-- Whether a minus sign stands in front. -/
  negative : Bool
  /-- The digits without the point, read as one number. -/
  digits : Nat
  /-- How many of the digits stand behind the point. -/
  places : Nat
  /-- No zero stands at the end of the digits behind the point. -/
  lowest : places = 0 ∨ digits % 10 ≠ 0
  deriving Repr, DecidableEq

namespace Decimal

/-- A fraction without digits behind the point. -/
def whole (negative : Bool) (digits : Nat) : Decimal := ⟨negative, digits, 0, .inl rfl⟩

/-- Nought. -/
def zero : Decimal := whole false 0

instance : Inhabited Decimal := ⟨zero⟩

/-- The whole number `n`. -/
def ofInt (n : Int) : Decimal := whole (decide (n < 0)) n.natAbs

/-- The fraction of the given digits, up to `places` of them behind the point: zeros at the end are
    dropped. -/
def trim (negative : Bool) (digits : Nat) : Nat → Decimal
  | 0 => whole negative digits
  | places + 1 =>
    if h : digits % 10 = 0 then trim negative (digits / 10) places
    else ⟨negative, digits, places + 1, .inr h⟩

/-- The number that is written as a one and `n` zeros. -/
def tenTo (n : Nat) : Nat := Nat.pow 10 n

theorem tenTo_succ (n : Nat) : tenTo (n + 1) = tenTo n * 10 := rfl

theorem tenTo_add (m n : Nat) : tenTo (m + n) = tenTo m * tenTo n := Nat.pow_add ..

theorem tenTo_pos (n : Nat) : 0 < tenTo n := Nat.pow_pos (by decide)

/-- Exactly `places` decimal digits of `n`, leading zeros included. -/
def padded (places n : Nat) : List Char :=
  let ds := Nat.toDigits 10 n
  List.replicate (places - ds.length) '0' ++ ds

/-- The written form: a point with at least one digit on both sides of it. -/
def toChars (d : Decimal) : List Char :=
  let sign := if d.negative then ['-'] else []
  let whole := Nat.toDigits 10 (d.digits / tenTo d.places)
  let rest := if d.places = 0 then ['0'] else padded d.places (d.digits % tenTo d.places)
  sign ++ whole ++ '.' :: rest

/-- Whether two fractions are equal as numbers: the sign of zero does not count. -/
def sameNumber (a b : Decimal) : Bool := a == b || a.digits == 0 && b.digits == 0

@[simp] theorem negative_trim (negative : Bool) (digits places : Nat) :
    (trim negative digits places).negative = negative := by
  induction places generalizing digits with
  | zero => rfl
  | succ places ih => by_cases h : digits % 10 = 0 <;> simp [trim, h, ih]

theorem places_trim_le (negative : Bool) (digits places : Nat) :
    (trim negative digits places).places ≤ places := by
  induction places generalizing digits with
  | zero => exact Nat.le_refl 0
  | succ places ih =>
    by_cases h : digits % 10 = 0
    · simpa [trim, h] using Nat.le_succ_of_le (ih (digits / 10))
    · simp [trim, h]

/-- **Dropping zeros keeps the value**: both fractions are equal when multiplied out. -/
theorem digits_trim_mul (negative : Bool) (digits places : Nat) :
    (trim negative digits places).digits * tenTo places =
      digits * tenTo (trim negative digits places).places := by
  induction places generalizing digits with
  | zero => rfl
  | succ places ih =>
    by_cases h : digits % 10 = 0
    · have split : digits / 10 * 10 = digits := by omega
      simp only [trim, h, dite_true]
      rw [tenTo_succ, ← Nat.mul_assoc, ih, Nat.mul_right_comm, split]
    · simp [trim, h]

theorem digits_trim_lt {digits places bound : Nat} (negative : Bool)
    (h : digits < bound * tenTo places) :
    (trim negative digits places).digits < bound * tenTo (trim negative digits places).places := by
  refine Nat.lt_of_mul_lt_mul_right (a := tenTo places) ?_
  rw [digits_trim_mul, Nat.mul_right_comm]
  exact Nat.mul_lt_mul_of_pos_right h (tenTo_pos _)

/-- A fraction in lowest terms has no zeros to drop. -/
theorem trim_eq_self (d : Decimal) : trim d.negative d.digits d.places = d := by
  obtain ⟨negative, digits, places, lowest⟩ := d
  cases places with
  | zero => rfl
  | succ places =>
    have h : ¬ digits % 10 = 0 := by omega
    simp [trim, h]

end Decimal

end WidgetStreams
