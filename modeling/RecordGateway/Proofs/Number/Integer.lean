import Mathlib.Data.List.Induction
import RecordGateway.Number.Decimal
/-!
# Integers as they are written

A numeral is read as the integer that its digits count, as long as that fits 64 bits.
-/
namespace RecordGateway

/-- ASCII digits after an optional sign, and the integer that they count. -/
inductive Numeral : List Char → Int → Prop where
  | unsigned {digits : List Char} (nonempty : digits ≠ []) (all : digits.all Char.isDigit) :
      Numeral digits (digitsValue digits)
  | plus {digits : List Char} (nonempty : digits ≠ []) (all : digits.all Char.isDigit) :
      Numeral ('+' :: digits) (digitsValue digits)
  | minus {digits : List Char} (nonempty : digits ≠ []) (all : digits.all Char.isDigit) :
      Numeral ('-' :: digits) (-(digitsValue digits : Int))

/-- Written as integers are printed. -/
def IsCanonical : List Char → Prop
  | '+' :: _ => False
  | '-' :: digits => digits.head? ≠ some '0'
  | digits => digits.head? = some '0' → digits = ['0']

/-! ## Reading -/

private theorem takeSign_unsigned {c : Char} {rest : List Char} (hminus : c ≠ '-')
    (hplus : c ≠ '+') :
    takeSign (c :: rest) = (false, c :: rest) := by
  unfold takeSign
  split
  · next heq => exact absurd (List.cons.inj heq).1 hminus
  · next heq => exact absurd (List.cons.inj heq).1 hplus
  · rfl

private theorem readInteger_of_sign {cs digits : List Char} {minus : Bool}
    (hsign : takeSign cs = (minus, digits)) {n : Int} : readInteger cs = some n ↔
      (digits ≠ [] ∧ digits.all Char.isDigit) ∧
        n = if minus then -(digitsValue digits : Int) else digitsValue digits := by
  have hguard : (digits.isEmpty || !digits.all Char.isDigit) = true ↔
      ¬(digits ≠ [] ∧ digits.all Char.isDigit) := by
    rw [Bool.or_eq_true, List.isEmpty_iff, Bool.not_eq_true', not_and_or, not_ne_iff,
      Bool.not_eq_true]
  rw [readInteger, hsign]
  simp only
  split
  · next hbad => exact iff_of_false (by simp) fun h => hguard.mp hbad h.1
  · next hgood =>
    have hdigits := not_not.mp fun h => hgood (hguard.mpr h)
    rw [Option.some_inj, eq_comm, and_iff_right hdigits]

private theorem readInteger_eq_some {cs : List Char} {n : Int} :
    readInteger cs = some n ↔ Numeral cs n := by
  constructor
  · intro h
    cases cs with
    | nil => exact absurd rfl ((readInteger_of_sign rfl).mp h).1.1
    | cons c rest =>
      by_cases hminus : c = '-'
      · subst hminus
        obtain ⟨⟨hne, hall⟩, rfl⟩ := (readInteger_of_sign rfl).mp h
        exact .minus hne hall
      · by_cases hplus : c = '+'
        · subst hplus
          obtain ⟨⟨hne, hall⟩, rfl⟩ := (readInteger_of_sign rfl).mp h
          exact .plus hne hall
        · obtain ⟨⟨hne, hall⟩, rfl⟩ :=
            (readInteger_of_sign (takeSign_unsigned hminus hplus)).mp h
          exact .unsigned hne hall
  · intro h
    cases h with
    | unsigned hne hall =>
      obtain ⟨c, rest, rfl⟩ := List.exists_cons_of_ne_nil hne
      have hc : c.isDigit := List.all_eq_true.mp hall c (List.mem_cons_self ..)
      have hsign := @takeSign_unsigned c rest (by rintro rfl; cases hc) (by rintro rfl; cases hc)
      exact (readInteger_of_sign hsign).mpr ⟨⟨hne, hall⟩, rfl⟩
    | plus hne hall => exact (readInteger_of_sign rfl).mpr ⟨⟨hne, hall⟩, rfl⟩
    | minus hne hall => exact (readInteger_of_sign rfl).mpr ⟨⟨hne, hall⟩, rfl⟩

theorem readInt64_eq_some {cs : List Char} {i : Int64} :
    readInt64 cs = some i ↔ Numeral cs i.toInt := by
  have hlow := Int64.le_toInt i
  have hhigh := Int64.toInt_lt i
  rw [readInt64, Option.bind_eq_some_iff, ← readInteger_eq_some]
  constructor
  · rintro ⟨n, hn, hi⟩
    split at hi
    · next hrange =>
      obtain rfl := Option.some.inj hi
      rw [hn, Int64.toInt_ofInt_of_le (by simpa [int64Min] using hrange.1)
        (by have := hrange.2; simp only [int64Max] at this; omega)]
    · cases hi
  · intro h
    have hrange : int64Min ≤ i.toInt ∧ i.toInt ≤ int64Max := by
      simp only [int64Min, int64Max]
      omega
    exact ⟨i.toInt, h, by rw [if_pos hrange, Int64.ofInt_toInt]⟩

theorem readInt64_eq_none {cs : List Char} :
    readInt64 cs = none ↔ ∀ i : Int64, ¬Numeral cs i.toInt := by
  rw [Option.eq_none_iff_forall_ne_some]
  exact forall_congr' fun i => not_congr readInt64_eq_some

/-! ## Printing -/

private theorem digitChar_digitValue {c : Char} (h : c.isDigit) :
    digitValue c < 10 ∧ Nat.digitChar (digitValue c) = c := by
  obtain ⟨hlow, hhigh⟩ : 48 ≤ c.toNat ∧ c.toNat ≤ 57 := by
    simpa [Char.isDigit, UInt32.le_iff_toNat_le] using h
  have hsmall : digitValue c < 10 := by
    rw [digitValue, show '0'.toNat = 48 from rfl]
    omega
  refine ⟨hsmall, Char.toNat_inj.mp ?_⟩
  rw [Nat.toNat_digitChar_of_lt_ten hsmall, digitValue, show '0'.toNat = 48 from rfl]
  omega

private theorem digitsValue_snoc (digits : List Char) (c : Char) :
    digitsValue (digits ++ [c]) = 10 * digitsValue digits + digitValue c := by
  rw [digitsValue, digitsValue, List.foldl_append]
  rfl

theorem toDigits_digitsValue {digits : List Char} (hne : digits ≠ [])
    (hall : digits.all Char.isDigit) (hlead : digits.head? = some '0' → digits = ['0']) :
    Nat.toDigits 10 (digitsValue digits) = digits := by
  induction digits using List.reverseRecOn with
  | nil => exact absurd rfl hne
  | append_singleton digits c ih =>
    rw [List.all_append, Bool.and_eq_true, List.all_cons, List.all_nil, Bool.and_true] at hall
    obtain ⟨hsmall, hc⟩ := digitChar_digitValue hall.2
    by_cases hempty : digits = []
    · subst hempty
      rw [digitsValue_snoc, show digitsValue [] = 0 from rfl, Nat.mul_zero, Nat.zero_add,
        Nat.toDigits_of_lt_base hsmall, hc, List.nil_append]
    · -- what stands in front of the last digit starts with no zero at all
      have hfirst : digits.head? ≠ some '0' := by
        intro hzero
        have hsingle := hlead (by rw [List.head?_append, hzero, Option.some_or])
        have hlength := congrArg List.length hsingle
        have hpos := List.length_pos_iff.mpr hempty
        simp only [List.length_append, List.length_singleton] at hlength
        omega
      have hdigits := ih hempty hall.1 fun hzero => absurd hzero hfirst
      have hpos : 0 < digitsValue digits := by
        rcases Nat.eq_zero_or_pos (digitsValue digits) with hzero | hpos
        · rw [hzero, Nat.toDigits_zero] at hdigits
          exact absurd (by rw [← hdigits]; rfl) hfirst
        · exact hpos
      have hlast : Nat.toDigits 10 (digitValue c) = [c] := by
        rw [Nat.toDigits_of_lt_base hsmall, hc]
      rw [digitsValue_snoc, ← Nat.toDigits_append_toDigits (by decide) hpos hsmall, hdigits, hlast]

theorem toDigits_head {n : Nat} (h : (Nat.toDigits 10 n).head? = some '0') : n = 0 := by
  induction n using Nat.strongRecOn with
  | ind n ih =>
    by_cases hsmall : n < 10
    · rw [Nat.toDigits_of_lt_base hsmall, List.head?_cons, Option.some_inj] at h
      exact Nat.digitChar_eq_zero.mp h
    · have hlarge : 10 ≤ n := Nat.le_of_not_lt hsmall
      obtain ⟨c, rest, hfirst⟩ :=
        List.exists_cons_of_ne_nil (Nat.toDigits_ne_nil (b := 10) (n := n / 10))
      rw [Nat.toDigits_of_base_le (by decide) hlarge, hfirst, List.cons_append,
        List.head?_cons] at h
      have hzero := ih (n / 10) (by omega) (by rw [hfirst, List.head?_cons, h])
      omega

private theorem toDigits_digitsValue_iff {digits : List Char} (hne : digits ≠ [])
    (hall : digits.all Char.isDigit) : Nat.toDigits 10 (digitsValue digits) = digits ↔
      (digits.head? = some '0' → digits = ['0']) := by
  refine ⟨fun h hzero => ?_, toDigits_digitsValue hne hall⟩
  rw [← h] at hzero
  rw [← h, toDigits_head hzero, Nat.toDigits_zero]

private theorem repr_natCast (n : Nat) : ((n : Int).repr).toList = Nat.toDigits 10 n := by
  rw [Int.repr_eq_if, if_pos (Int.natCast_nonneg n), Int.toNat_natCast, Nat.toList_repr]

private theorem repr_negative {n : Nat} (h : n ≠ 0) :
    ((-(n : Int)).repr).toList = '-' :: Nat.toDigits 10 n := by
  have hneg : ¬0 ≤ -(n : Int) := by omega
  rw [Int.repr_eq_if, if_neg hneg, Int.neg_neg, Int.toNat_natCast, String.toList_append,
    Nat.toList_repr]
  rfl

/-- A number is printed as the numeral that it was read from exactly if that was canonical. -/
theorem Numeral.repr_eq_iff {cs : List Char} {n : Int} (h : Numeral cs n) :
    n.repr.toList = cs ↔ IsCanonical cs := by
  cases h with
  | unsigned hne hall =>
    obtain ⟨c, rest, rfl⟩ := List.exists_cons_of_ne_nil hne
    have hc : c.isDigit := List.all_eq_true.mp hall c (List.mem_cons_self ..)
    rw [repr_natCast, toDigits_digitsValue_iff hne hall]
    unfold IsCanonical
    split
    · next heq => exact absurd hc (by rw [(List.cons.inj heq).1]; decide)
    · next heq => exact absurd hc (by rw [(List.cons.inj heq).1]; decide)
    · rfl
  | @plus digits hne hall =>
    refine iff_of_false (fun heq => ?_) id
    rw [repr_natCast] at heq
    have hplus := Nat.isDigit_of_mem_toDigits (by decide) (by decide)
      (heq ▸ List.mem_cons_self (a := '+') (l := digits))
    cases hplus
  | @minus digits hne hall =>
    have hvalue := toDigits_digitsValue_iff hne hall
    by_cases hzero : digitsValue digits = 0
    · refine iff_of_false (fun heq => ?_) fun hfirst => ?_
      · rw [hzero] at heq
        cases heq
      · have hdigits := hvalue.mpr fun h => absurd h hfirst
        rw [hzero, Nat.toDigits_zero] at hdigits
        exact hfirst (hdigits ▸ rfl)
    · rw [repr_negative hzero, List.cons_inj_right, hvalue]
      refine ⟨fun hsingle hfirst => hzero ?_, fun hfirst hzero => absurd hzero hfirst⟩
      rw [hsingle hfirst]
      rfl

end RecordGateway
