import WidgetStreams.Decimal

/-!
# Numbers of single precision

Coordinates are numbers of 32 bits. This file defines which decimal fraction such a
number is, and which such number is nearest to a decimal fraction.

## Main definitions

- `Float32.toDecimal?` — the fraction that a finite number is
- `Float32.nearest` — the number that is nearest to a fraction
- `Decimal.shortest` — the fraction with the fewest digits to which the same number is nearest

## Main results

- `Decimal.nearest_shortest` — the shortest fraction stands for the same number

## Design notes

Every finite number is a whole multiple of `2 ^ (-149)`. Its bits without the sign, read
as one number, count the finite numbers from nought up to it, so rounding up at the
end of a binade goes over to the next one without further ado.
-/

namespace WidgetStreams.Decimal

/-- The whole number nearest to `n / d`; of two that are equally near, the even one. -/
def roundedQuotient (n d : Nat) : Nat :=
  if 2 * (n % d) < d ∨ 2 * (n % d) = d ∧ n / d % 2 = 0 then n / d else n / d + 1

theorem roundedQuotient_mul (n : Nat) {d : Nat} (h : 0 < d) : roundedQuotient (n * d) d = n := by
  simp [roundedQuotient, h, Nat.mul_div_cancel n h]

/-- Rounding at most doubles. -/
theorem roundedQuotient_mul_le (n d : Nat) : roundedQuotient n d * d ≤ 2 * n := by
  have split := Nat.div_add_mod' n d
  unfold roundedQuotient
  split
  · omega
  · rw [Nat.add_mul]
    omega

end WidgetStreams.Decimal

namespace Float32

open WidgetStreams

/-- Nought. -/
def zero : Float32 := ofBits 0

/-- Half of one. -/
def half : Float32 := ofBits 0x3F000000

-- ════════════════════════════════════════════════════════════════════════
-- Numbers as fractions
-- ════════════════════════════════════════════════════════════════════════

/-- The number whose digits in binary are a one and `n` zeros. -/
def twoTo (n : Nat) : Nat := Nat.pow 2 n

/-- Whether the bit of the sign is set. -/
def isNegative (x : Float32) : Bool := decide (twoTo 31 ≤ x.toBits.toNat)

/-- The bits without the sign, as one number: how many numbers lie between nought and it. -/
def rank (x : Float32) : Nat := x.toBits.toNat % twoTo 31

/-- The least rank of what is no number: that of infinity. -/
def rankLimit : Nat := 255 * twoTo 23

/-- How often `2 ^ (-149)` is contained in the number of a rank. -/
def unitsOf (rank : Nat) : Nat :=
  if rank < twoTo 23 then rank
  else (twoTo 23 + rank % twoTo 23) * twoTo (rank / twoTo 23 - 1)

/-- The fraction that a finite number is. -/
def toDecimal? (x : Float32) : Option Decimal :=
  if x.isFinite then some (.trim x.isNegative (unitsOf x.rank * Nat.pow 5 149) 149) else none

theorem exists_toDecimal? {x : Float32} (finite : x.isFinite = true) :
    ∃ d, x.toDecimal? = some d := ⟨_, if_pos finite⟩

-- ════════════════════════════════════════════════════════════════════════
-- The nearest number
-- ════════════════════════════════════════════════════════════════════════

/-- The rank of the number nearest to `n / d` units. What is too large is next to infinity. -/
def rankOf (n d : Nat) : Nat :=
  let binade := (n / d).log2 - 23
  min (binade * twoTo 23 + Decimal.roundedQuotient n (d * twoTo binade)) rankLimit

/-- **The nearest number** of single precision; of two that are equally near, the even one. -/
def nearest (d : Decimal) : Float32 :=
  let rank := rankOf (d.digits * twoTo 149) (Decimal.tenTo d.places)
  ofBits (.ofNat (if d.negative then twoTo 31 + rank else rank))

end Float32

namespace WidgetStreams.Decimal

-- ════════════════════════════════════════════════════════════════════════
-- The fewest digits
-- ════════════════════════════════════════════════════════════════════════

/-- A fraction rounded to at most `count` digits. -/
def leading (d : Decimal) (count : Nat) : Decimal :=
  let dropped := (Nat.toDigits 10 d.digits).length - count
  let kept := roundedQuotient d.digits (tenTo dropped)
  if dropped ≤ d.places then trim d.negative kept (d.places - dropped)
  else whole d.negative (kept * tenTo (dropped - d.places))

theorem places_leading_le (d : Decimal) (count : Nat) : (d.leading count).places ≤ d.places := by
  simp only [leading]
  split
  · exact Nat.le_trans (places_trim_le ..) (Nat.sub_le ..)
  · exact Nat.zero_le _

theorem digits_leading_lt {d : Decimal} {bound : Nat} (h : d.digits < bound * tenTo d.places)
    (count : Nat) : (d.leading count).digits < 2 * bound * tenTo (d.leading count).places := by
  simp only [leading]
  generalize (Nat.toDigits 10 d.digits).length - count = dropped
  have kept : roundedQuotient d.digits (tenTo dropped) * tenTo dropped <
      2 * bound * tenTo d.places := by
    have := roundedQuotient_mul_le d.digits (tenTo dropped)
    rw [Nat.mul_assoc]
    omega
  generalize roundedQuotient d.digits (tenTo dropped) = n at kept ⊢
  split
  · rename_i behind
    apply digits_trim_lt
    have places : tenTo d.places = tenTo (d.places - dropped) * tenTo dropped := by
      rw [← tenTo_add, Nat.sub_add_cancel behind]
    rw [places, ← Nat.mul_assoc] at kept
    exact Nat.lt_of_mul_lt_mul_right kept
  · rename_i before
    have zeros : tenTo dropped = tenTo (dropped - d.places) * tenTo d.places := by
      rw [← tenTo_add, Nat.sub_add_cancel (by omega)]
    rw [zeros, ← Nat.mul_assoc] at kept
    exact Nat.lt_of_lt_of_eq (Nat.lt_of_mul_lt_mul_right kept) (Nat.mul_one _).symm

/-- **The shortest** fraction to which the same number of single precision is nearest; nine digits
    are always enough to tell such numbers apart. -/
def shortest (d : Decimal) : Decimal :=
  let candidates := (List.range 9).map fun n => d.leading (n + 1)
  (candidates.find? fun e => .nearest e = Float32.nearest d).getD d

theorem shortest_eq (d : Decimal) : d.shortest = d ∨ ∃ count, d.shortest = d.leading count := by
  simp only [shortest]
  cases found : ((List.range 9).map fun n => d.leading (n + 1)).find? _ with
  | none => exact .inl rfl
  | some e =>
    obtain ⟨n, -, eq⟩ := List.mem_map.1 (List.mem_of_find?_eq_some found)
    exact .inr ⟨n + 1, eq.symm⟩

theorem nearest_shortest (d : Decimal) : Float32.nearest d.shortest = .nearest d := by
  simp only [shortest]
  cases found : ((List.range 9).map fun n => d.leading (n + 1)).find? _ with
  | none => rfl
  | some e => simpa using List.find?_some found

end WidgetStreams.Decimal
