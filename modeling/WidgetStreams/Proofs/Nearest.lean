import Mathlib
import WidgetStreams.Json.Format

/-!
# Numbers of single precision are nearest to their fractions

This file proves that a finite number of single precision is found again from the
fraction that it is: it is the number that is nearest to that.

## Main results

- `Float32.rankOf_unitsOf` — as many units as a number has are nearest to that number
- `Float32.units_of_toDecimal?` — the fraction of a number has as many units as the number
- `Decimal.nearest_toDecimal?` — the number nearest to the fraction of a number is that number

## Design notes

A number is compared with its fraction by the units of `2 ^ (-149)` that both have, so
nothing has to be divided.
-/

namespace Float32

open WidgetStreams

theorem twoTo_eq (n : Nat) : twoTo n = 2 ^ n := rfl

-- ════════════════════════════════════════════════════════════════════════
-- Units and ranks
-- ════════════════════════════════════════════════════════════════════════

theorem unitsOf_eq (rank : Nat) : unitsOf rank =
    if rank < 2 ^ 23 then rank else (2 ^ 23 + rank % 2 ^ 23) * 2 ^ (rank / 2 ^ 23 - 1) := rfl

theorem unitsOf_lt {rank : Nat} (h : rank < rankLimit) : unitsOf rank < 2 ^ 128 * 2 ^ 149 := by
  rw [unitsOf_eq]
  split
  · omega
  · have binade : 2 ^ (rank / 2 ^ 23 - 1) ≤ 2 ^ 253 :=
      Nat.pow_le_pow_right (by decide) (by simp only [rankLimit, twoTo_eq] at h; omega)
    calc (2 ^ 23 + rank % 2 ^ 23) * 2 ^ (rank / 2 ^ 23 - 1)
        ≤ (2 ^ 23 + rank % 2 ^ 23) * 2 ^ 253 := Nat.mul_le_mul_left _ binade
      _ < 2 ^ 24 * 2 ^ 253 := Nat.mul_lt_mul_of_pos_right (by omega) (by decide)
      _ = 2 ^ 128 * 2 ^ 149 := by decide

theorem log2_mul_two_pow {m : Nat} (least : 2 ^ 23 ≤ m) (most : m < 2 ^ 24) (e : Nat) :
    (m * 2 ^ e).log2 = 23 + e := by
  have pos := Nat.two_pow_pos e
  rw [Nat.log2_eq_iff (Nat.mul_ne_zero (by omega) (Nat.ne_of_gt pos))]
  constructor
  · rw [Nat.pow_add]
    exact Nat.mul_le_mul_right _ least
  · rw [Nat.add_right_comm, Nat.pow_add]
    exact Nat.mul_lt_mul_of_pos_right most pos

/-- The binade of a number is the one that its rank names. -/
theorem log2_unitsOf (rank : Nat) : (unitsOf rank).log2 - 23 = rank / 2 ^ 23 - 1 := by
  rw [unitsOf_eq]
  split
  · rename_i least
    have small : rank.log2 < 24 := by
      by_cases zero : rank = 0
      · simp [zero]
      · exact (Nat.log2_lt zero).2 (by omega)
    omega
  · rw [log2_mul_two_pow (by omega) (by omega)]
    omega

theorem rankOf_unitsOf {rank d : Nat} (h : rank < rankLimit) (pos : 0 < d) :
    rankOf (unitsOf rank * d) d = rank := by
  have parts : (rank / 2 ^ 23 - 1) * 2 ^ 23 +
      Decimal.roundedQuotient (unitsOf rank * d) (d * 2 ^ (rank / 2 ^ 23 - 1)) = rank := by
    have scale := Nat.mul_pos pos (Nat.two_pow_pos (rank / 2 ^ 23 - 1))
    rw [unitsOf_eq]
    split
    · rename_i least
      have binade : rank / 2 ^ 23 - 1 = 0 := by omega
      rw [binade] at scale ⊢
      rw [Nat.pow_zero, Nat.mul_one, Decimal.roundedQuotient_mul _ pos]
      omega
    · rw [Nat.mul_assoc, Nat.mul_comm (2 ^ _) d, Decimal.roundedQuotient_mul _ scale]
      omega
  simp only [rankOf, twoTo_eq, Nat.mul_div_cancel _ pos, log2_unitsOf, parts]
  simp only [rankLimit, twoTo_eq] at h ⊢
  omega

-- ════════════════════════════════════════════════════════════════════════
-- Numbers and their fractions
-- ════════════════════════════════════════════════════════════════════════

open Float.Model in
/-- A number is finite if the bits of its exponent are not all set. -/
theorem isFinite_iff (x : Float32) : x.isFinite = true ↔ x.rank < rankLimit := by
  have unpacked : x.isFinite = true ↔
      @UnpackedFloat.unpackExponent .binary32 x.toBits.toBitVec ≠ -1#8 := by
    simp only [isFinite, Model.isFinite, Model.unpack, UnpackedFloat.unpack, toBits]
    split
    · rename_i set
      split <;> simpa [UnpackedFloat.isFinite] using set
    · rename_i clear
      split
      · split <;> simpa [UnpackedFloat.isFinite] using clear
      · simpa [UnpackedFloat.isFinite] using clear
  have exponent : (@UnpackedFloat.unpackExponent .binary32 x.toBits.toBitVec).toNat =
      x.toBits.toNat / 2 ^ 23 % 2 ^ 8 := by
    simp only [UnpackedFloat.unpackExponent, BitVec.toNat_cast, BitVec.extractLsb_toNat,
      Nat.shiftRight_eq_div_pow, UInt32.toNat_toBitVec]
  rw [unpacked, Ne, ← BitVec.toNat_inj, exponent]
  simp only [rank, rankLimit, twoTo_eq, BitVec.reduceNeg, BitVec.toNat_ofNat]
  omega

/-- **The fraction of a finite number** has its sign, and as many units as the number. -/
theorem units_of_toDecimal? {x : Float32} {d : Decimal} (h : x.toDecimal? = some d) :
    d.negative = x.isNegative ∧ d.digits * 2 ^ 149 = unitsOf x.rank * Decimal.tenTo d.places := by
  obtain ⟨-, eq⟩ := Option.ite_none_right_eq_some.1 h
  cases eq
  have trimmed := Decimal.digits_trim_mul x.isNegative (unitsOf x.rank * 5 ^ 149) 149
  have tens : Decimal.tenTo 149 = 2 ^ 149 * 5 ^ 149 := by rw [← Nat.mul_pow]; rfl
  rw [tens, ← Nat.mul_assoc, Nat.mul_right_comm _ (5 ^ 149)] at trimmed
  exact ⟨Decimal.negative_trim .., Nat.eq_of_mul_eq_mul_right (Nat.pow_pos (by decide)) trimmed⟩

end Float32

namespace WidgetStreams.Decimal

/-- **A finite number** is the one nearest to its own fraction. -/
theorem nearest_toDecimal? {x : Float32} {d : Decimal} (h : x.toDecimal? = some d) :
    Float32.nearest d = x := by
  obtain ⟨sign, units⟩ := Float32.units_of_toDecimal? h
  have finite : x.rank < Float32.rankLimit :=
    (Float32.isFinite_iff x).1 (Option.ite_none_right_eq_some.1 h).1
  have bits : (if x.isNegative then 2 ^ 31 + x.rank else x.rank) = x.toBits.toNat := by
    have := x.toBits.toNat_lt
    change (if decide (2 ^ 31 ≤ x.toBits.toNat) then 2 ^ 31 + x.toBits.toNat % 2 ^ 31
      else x.toBits.toNat % 2 ^ 31) = _
    simp only [decide_eq_true_eq]
    split <;> omega
  rw [Float32.nearest, Float32.twoTo_eq, Float32.twoTo_eq, units,
    Float32.rankOf_unitsOf finite (tenTo_pos _), sign]
  simp only [bits, UInt32.ofNat_toNat, Float32.ofBits_toBits]

theorem IsSingle.places_le {d : Decimal} (h : d.IsSingle) : d.places ≤ 149 := by
  obtain ⟨x, eq⟩ := h
  cases (Option.ite_none_right_eq_some.1 eq).2
  exact places_trim_le ..

theorem IsSingle.digits_lt {d : Decimal} (h : d.IsSingle) :
    d.digits < 2 ^ 128 * tenTo d.places := by
  obtain ⟨x, eq⟩ := h
  have units := (Float32.units_of_toDecimal? eq).2
  have small :=
    Float32.unitsOf_lt ((Float32.isFinite_iff x).1 (Option.ite_none_right_eq_some.1 eq).1)
  refine Nat.lt_of_mul_lt_mul_right (a := 2 ^ 149) ?_
  calc d.digits * 2 ^ 149 = Float32.unitsOf x.rank * tenTo d.places := units
    _ < 2 ^ 128 * 2 ^ 149 * tenTo d.places := Nat.mul_lt_mul_of_pos_right small (tenTo_pos _)
    _ = 2 ^ 128 * tenTo d.places * 2 ^ 149 := Nat.mul_right_comm ..

end WidgetStreams.Decimal
