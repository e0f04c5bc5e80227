import RecordGateway.Number.Approximate
/-!
# Numbers that are no NaN

Rounding gives a finite number or an infinity, whatever is rounded, and so no text reads as a NaN.
Distinct integers have distinct values in units.
-/
namespace RecordGateway

namespace Binary64

private theorem ofSign_not_nan (negative : Bool) {n : Nat} (h : n ≤ infinityBits) :
    (ofSign negative n).isNaN = false := by
  have h52 : pow2 52 = 4503599627370496 := rfl
  have h11 : pow2 11 = 2048 := rfl
  have h63 : pow2 63 = 9223372036854775808 := rfl
  rw [infinityBits, h52] at h
  have hbits (m : Nat) (hm : m < 18446744073709551616) : (UInt64.ofNat m).toNat = m :=
    UInt64.toNat_ofNat_of_lt' (by simpa [UInt64.size] using hm)
  cases negative with
  | false =>
    have hn := hbits n (by omega)
    simp only [isNaN, exponentField, fraction, ofSign, Bool.false_eq_true, if_false, hn, h52, h11,
      Bool.and_eq_false_iff, beq_eq_false_iff_ne, bne_eq_false_iff_eq]
    omega
  | true =>
    have hn := hbits (9223372036854775808 + n) (by omega)
    simp only [isNaN, exponentField, fraction, ofSign, if_true, h63, hn, h52, h11,
      Bool.and_eq_false_iff, beq_eq_false_iff_ne, bne_eq_false_iff_eq]
    omega

private theorem ofRatio_not_nan (negative : Bool) (n d : Nat) :
    (ofRatio negative n d).isNaN = false := by
  unfold ofRatio
  split
  · exact ofSign_not_nan _ (Nat.zero_le _)
  · exact ofSign_not_nan _ (Nat.min_le_right _ _)

theorem ofInt_not_nan (i : Int) : (ofInt i).isNaN = false := ofRatio_not_nan _ _ _

private theorem pow2_pos (n : Nat) : 0 < pow2 n := Nat.two_pow_pos n

theorem unitsOfInt_injective {i j : Int} (h : unitsOfInt i = unitsOfInt j) : i = j := by
  have hpos : (pow2 1074 : Int) ≠ 0 := Int.natCast_ne_zero.mpr (Nat.ne_of_gt (pow2_pos 1074))
  exact Int.eq_of_mul_eq_mul_right hpos h

private theorem ofScaled_not_nan (negative : Bool) (m : Nat) (e : Int) :
    (ofScaled negative m e).isNaN = false := by
  unfold ofScaled
  split
  · exact ofSign_not_nan _ (Nat.zero_le _)
  · exact ofSign_not_nan _ (Nat.min_le_right _ _)

private theorem add_not_nan (x y : Binary64) : (x + y).isNaN = false := ofScaled_not_nan _ _ _

theorem neg_not_nan {x : Binary64} (h : x.isNaN = false) : (-x).isNaN = false := by
  refine ofSign_not_nan _ ?_
  have h52 : pow2 52 = 4503599627370496 := rfl
  have h11 : pow2 11 = 2048 := rfl
  have h63 : pow2 63 = 9223372036854775808 := rfl
  simp only [isNaN, exponentField, fraction, h52, h11, Bool.and_eq_false_iff,
    beq_eq_false_iff_ne, bne_eq_false_iff_eq] at h
  rw [infinityBits, h52, h63]
  omega

private theorem infinite_not_nan {x : Binary64} (h : x.isInfinite = true) : x.isNaN = false := by
  simp only [isInfinite, Bool.and_eq_true, beq_iff_eq] at h
  simp [isNaN, h.2]

end Binary64

private theorem Paired.total_not_nan (x : Paired) : x.total.isNaN = false := by
  unfold total
  split
  · next h => exact Binary64.infinite_not_nan h
  · exact Binary64.add_not_nan _ _

theorem Decimal.nearby_not_nan (x : Decimal) : x.nearby.isNaN = false := by
  simp only [nearby]
  split
  · exact Binary64.ofSign_not_nan _ (Nat.zero_le _)
  · split
    · exact Binary64.ofSign_not_nan _ (Nat.le_refl _)
    · have hvalue (value : Binary64) (h : value.isNaN = false) :
          (if x.negative then -value else value).isNaN = false := by
        split
        · exact Binary64.neg_not_nan h
        · exact h
      refine hvalue _ ?_
      split <;> exact Paired.total_not_nan _


end RecordGateway
