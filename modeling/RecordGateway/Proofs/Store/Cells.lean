import RecordGateway.Proofs.Number
import RecordGateway.Proofs.Store.Rules
import RecordGateway.Value.Column
/-! # Cells in columns -/
namespace RecordGateway

namespace Cell

theorem compare_eq {a b : Cell} :
    a.compare b = .eq ↔ a.rank = b.rank ∧ a.units = b.units ∧ a.bytes = b.bytes := by
  rw [compare, Ordering.then_eq_eq, Ordering.then_eq_eq, Nat.compare_eq_eq, Std.compare_eq_iff_eq,
    Bytes.compare_eq]

private theorem compare_self (a : Cell) : a.compare a = .eq := compare_eq.mpr ⟨rfl, rfl, rfl⟩

theorem settled_real {x : Binary64} : (real x).settle = real x ↔ x.isNaN = false := by
  cases h : x.isNaN <;> simp [settle, h]

end Cell

namespace Affinity

private theorem toNumber_text (bytes : Bytes) :
    toNumber (.text bytes) = .text bytes ∨ (toNumber (.text bytes)).rank = 1 := by
  rw [toNumber]
  split
  · exact .inr rfl
  · split
    · right
      simp only [toWhole]
      split <;> rfl
    · exact .inl rfl

private theorem toWhole_cases (x : Binary64) :
    toWhole x = .real x ∨ ∃ i, toWhole x = .integer i := by
  simp only [toWhole]
  split
  · exact .inr ⟨_, rfl⟩
  · exact .inl rfl

private theorem toNumber_settled {cell : Cell} (h : cell.settle = cell) :
    (toNumber cell).settle = toNumber cell := by
  have hwhole {x : Binary64} (hx : x.isNaN = false) : (toWhole x).settle = toWhole x := by
    rcases toWhole_cases x with hcase | ⟨i, hcase⟩ <;> rw [hcase]
    · simp [Cell.settle, hx]
    · rfl
  cases cell with
  | text bytes =>
    rw [toNumber]
    split
    · rfl
    · split
      · exact hwhole (Decimal.nearby_not_nan _)
      · rfl
  | real x => exact hwhole (Cell.settled_real.mp h)
  | null => rfl
  | integer i => rfl
  | blob bytes => rfl

private theorem toNumber_text_kept {cell : Cell} {bytes : Bytes} (h : toNumber cell = .text bytes) :
    toNumber (.text bytes) = .text bytes := by
  cases cell with
  | text other =>
    rcases toNumber_text other with hsame | hrank
    · rw [hsame] at h
      rwa [← h]
    · rw [h] at hrank
      cases hrank
  | real x =>
    have hreal : toWhole x = .text bytes := h
    rcases toWhole_cases x with hcase | ⟨i, hcase⟩ <;> rw [hcase] at hreal <;> cases hreal
  | null => cases h
  | integer i => cases h
  | blob other => cases h

theorem numeric_meet {a : Affinity} (ha : a.isNumeric = true) (cell : Cell) :
    a.meet .blob cell = match cell with
      | .text _ => toNumber cell
      | _ => cell := by
  have hblob : Affinity.blob.isNumeric = false := rfl
  unfold meet
  rw [ha, hblob]
  cases cell <;> simp

private theorem toNumber_meets {a : Affinity} (ha : a.isNumeric = true) (cell : Cell) :
    a.meet .blob (toNumber cell) = toNumber cell := by
  rw [numeric_meet ha]
  split
  · next bytes h =>
    rw [h]
    exact toNumber_text_kept h
  · rfl

private theorem apply_settled (a : Affinity) {cell : Cell} (h : cell.settle = cell) :
    (a.apply cell).settle = a.apply cell := by
  have hnumber := toNumber_settled h
  cases a with
  | blob => exact h
  | text => cases cell <;> first | exact h | rfl
  | integer => exact hnumber
  | numeric => exact hnumber
  | real =>
    rw [apply]
    split
    · exact Cell.settled_real.mpr (Binary64.ofInt_not_nan _)
    · exact hnumber

private theorem apply_meets (a : Affinity) (cell : Cell) :
    a.meet .blob (a.apply cell) = a.apply cell := by
  cases a with
  | blob => rfl
  | text => cases cell <;> rfl
  | integer => exact toNumber_meets rfl cell
  | numeric => exact toNumber_meets rfl cell
  | real =>
    have hmeets := toNumber_meets (a := .real) rfl cell
    rw [apply]
    split
    · exact numeric_meet rfl _
    · exact hmeets

theorem rules : AffinityRules apply meet where
  untyped _ := rfl
  uncompared own cell := by simp [meet, isNumeric]
  null a own := by cases a <;> cases own <;> rfl
  number {a cell} ha hcell := by cases a <;> cases cell <;> simp_all [meet, isNumeric, Cell.rank]
  printed {cell} hcell := by cases cell <;> first | rfl | cases hcell
  text a bytes := by
    rw [meet]
    split
    · exact toNumber_text bytes
    · split <;> exact .inl rfl
  settled h := apply_settled _ h
  stored _ := apply_meets _ _

/-- A cell that a column of the affinity keeps as it is. -/
structure Keeps (a : Affinity) (cell : Cell) : Prop where
  settled : cell.settle = cell
  meets : a.meet .blob cell = cell

theorem keeps_integer {a : Affinity} (h : a.isNumeric = true) (i : Int64) : a.Keeps (.integer i) :=
  ⟨rfl, numeric_meet h _⟩

theorem apply_keeps (a : Affinity) {cell : Cell} (h : cell.settle = cell) :
    a.Keeps (a.apply cell) :=
  ⟨rules.settled h, rules.stored h⟩

private theorem Keeps.not_text {a : Affinity} {cell : Cell} (h : a.Keeps cell)
    (hcell : cell.rank = 1) :
    a ≠ .text := by
  rintro rfl
  have hprinted := rules.printed hcell
  rw [h.meets, hcell] at hprinted
  cases hprinted

end Affinity

namespace ColumnType

/-- What is read from the cell as the type and written again is equal to the cell. -/
def Faithful : ColumnType → Cell → Prop
  | boolean, .integer i => i = 0 ∨ i = 1
  | real, .integer i => Binary64.unitsOfInt i.toInt = (Binary64.ofInt i.toInt).units
  | text, .text bytes => bytes = Bytes.ofText (Bytes.toText bytes)
  | optional inner, cell => inner.Faithful cell
  | _, _ => True

private theorem narrow_toInt64 {i : Int64} {j : Int32} (h : narrow i = some j) : j.toInt64 = i := by
  unfold narrow at h
  split at h
  · next hrange =>
    obtain rfl := Option.some.inj h
    rw [← Int64.toInt_inj, Int32.toInt_toInt64, Int32.toInt_ofInt_of_le]
    · exact hrange.1
    · exact Int.lt_add_one_of_le hrange.2
  · cases h

end ColumnType

/-- How a cell compares with a written value, each brought to the other's class as in a
comparison of a column with a parameter. -/
def Relation.against (relation : Relation) (a : Affinity) (cell : Cell) (v : Value) : Truth :=
  relation.holds (Affinity.blob.meet a cell) (a.meet .blob (Cell.ofValue v).settle)

private theorem against_equal {a : Affinity} {cell : Cell} (hcell : cell.isNull = false) {v : Value}
    (hv : (a.meet .blob (Cell.ofValue v).settle).isNull = false) :
    Relation.equal.against a cell v = .yes ↔
      cell.compare (a.meet .blob (Cell.ofValue v).settle) = .eq := by
  rw [Relation.against, Affinity.rules.uncompared, comparisonRules.known rfl hcell hv]
  cases cell.compare (a.meet .blob (Cell.ofValue v).settle) <;> simp [Truth.ofBool]

theorem against_same {a : Affinity} {cell : Cell} (hkeeps : a.Keeps cell)
    (hcell : cell.isNull = false) {v : Value} (hv : Cell.ofValue v = cell) :
    Relation.equal.against a cell v = .yes := by
  have hsame : a.meet .blob (Cell.ofValue v).settle = cell := by
    rw [hv, hkeeps.settled, hkeeps.meets]
  rw [against_equal hcell (by rw [hsame, hcell]), hsame]
  exact cell.compare_self

theorem against_number {a : Affinity} {i : Int64} (hkeeps : a.Keeps (.integer i)) {v : Value}
    {number : Cell} (hv : (Cell.ofValue v).settle = number) (hnumber : number.rank = 1) :
    Relation.equal.against a (.integer i) v = .yes ↔
      Binary64.unitsOfInt i.toInt = number.units := by
  have hmeet : a.meet .blob (Cell.ofValue v).settle = number := by
    rw [hv]
    exact Affinity.rules.number (hkeeps.not_text rfl) (by rw [hnumber]; decide)
  have hnull : number.isNull = false := by cases number <;> simp_all [Cell.rank, Cell.isNull]
  have hbytes : number.bytes = [] := by cases number <;> simp_all [Cell.rank, Cell.bytes]
  rw [against_equal rfl (by rw [hmeet, hnull]), hmeet, Cell.compare_eq, hnumber, hbytes]
  simp [Cell.rank, Cell.units, Cell.bytes]

theorem against_real {a : Affinity} {i : Int64} (hkeeps : a.Keeps (.integer i)) :
    Relation.equal.against a (.integer i) (.real (Binary64.ofInt i.toInt)) = .yes ↔
      Binary64.unitsOfInt i.toInt = (Binary64.ofInt i.toInt).units := by
  have hsettle : (Cell.ofValue (.real (Binary64.ofInt i.toInt))).settle =
      .real (Binary64.ofInt i.toInt) := if_neg (by simp [Binary64.ofInt_not_nan])
  exact against_number hkeeps hsettle rfl

theorem against_truth {a : Affinity} {i : Int64} (hkeeps : a.Keeps (.integer i)) :
    Relation.equal.against a (.integer i) (.boolean (i != 0)) = .yes ↔ i = 0 ∨ i = 1 := by
  have hnumber : Relation.equal.against a (.integer i) (.boolean (i != 0)) = .yes ↔
      Binary64.unitsOfInt i.toInt =
        Binary64.unitsOfInt (if (i != 0) = true then 1 else 0 : Int64).toInt :=
    against_number hkeeps rfl rfl
  rw [hnumber]
  by_cases hzero : i = 0
  · simp [hzero]
  · simp only [hzero, bne_iff_ne.mpr hzero, if_true, false_or]
    refine ⟨fun h => Int64.toInt_inj.mp (Binary64.unitsOfInt_injective h), ?_⟩
    rintro rfl
    rfl

theorem against_text {a : Affinity} {bytes : Bytes} (hkeeps : a.Keeps (.text bytes)) (s : String) :
    Relation.equal.against a (.text bytes) (.text s) = .yes ↔ bytes = Bytes.ofText s := by
  generalize hright : a.meet .blob (Cell.text (Bytes.ofText s)) = right
  have hcases : right = .text (Bytes.ofText s) ∨ right.rank = 1 := by
    rw [← hright]
    exact Affinity.rules.text a (Bytes.ofText s)
  have hnull : right.isNull = false := by
    rcases hcases with rfl | hrank
    · rfl
    · cases right <;> simp_all [Cell.rank, Cell.isNull]
  rw [against_equal rfl (by simpa [Cell.ofValue, Cell.settle, hright] using hnull)]
  have hvalue : (Cell.ofValue (.text s)).settle = .text (Bytes.ofText s) := rfl
  rw [hvalue, hright, Cell.compare_eq]
  rcases hcases with rfl | hrank
  · simp [Cell.rank, Cell.units, Cell.bytes]
  · refine iff_of_false (fun h => ?_) fun h => ?_
    · cases h.1.trans hrank
    · -- The same bytes would have been kept as a text.
      rw [← h, hkeeps.meets] at hright
      rw [← hright] at hrank
      cases hrank

namespace ColumnType

/-- A value read from a kept cell and written again is found equal to the cell exactly if the
type is faithful to the cell. A null is written for a null. -/
theorem against_read {a : Affinity} {cell : Cell} (hkeeps : a.Keeps cell) :
    ∀ {type : ColumnType} {x : type.Carrier}, type.read? cell.toValue = some x →
      if (type.write x).isNull then cell = .null
      else Relation.equal.against a cell (type.write x) = .yes ↔ type.Faithful cell := by
  intro type
  induction type with
  | int64 =>
    intro x hread
    cases cell with
    | integer i =>
      obtain rfl : i = x := Option.some.inj hread
      exact iff_of_true (against_same hkeeps rfl rfl) trivial
    | _ => cases hread
  | int32 =>
    intro x hread
    cases cell with
    | integer i =>
      have hsame : Cell.ofValue (int32.write x) = .integer i :=
        congrArg Cell.integer (narrow_toInt64 hread)
      exact iff_of_true (against_same hkeeps rfl hsame) trivial
    | _ => cases hread
  | real =>
    intro x hread
    cases cell with
    | integer i =>
      obtain rfl : Binary64.ofInt i.toInt = x := Option.some.inj hread
      exact against_real hkeeps
    | real y =>
      obtain rfl : y = x := Option.some.inj hread
      exact iff_of_true (against_same hkeeps rfl rfl) trivial
    | _ => cases hread
  | boolean =>
    intro x hread
    cases cell with
    | integer i =>
      obtain rfl : (i != 0) = x := Option.some.inj hread
      exact against_truth hkeeps
    | _ => cases hread
  | text =>
    intro x hread
    cases cell with
    | text bytes =>
      obtain rfl : Bytes.toText bytes = x := Option.some.inj hread
      exact against_text hkeeps _
    | _ => cases hread
  | blob =>
    intro x hread
    cases cell with
    | blob bytes =>
      obtain rfl : bytes = x := Option.some.inj hread
      exact iff_of_true (against_same hkeeps rfl rfl) trivial
    | _ => cases hread
  | optional inner ih =>
    intro x hread
    cases hcell : cell with
    | null =>
      subst hcell
      obtain rfl : none = x := Option.some.inj hread
      rfl
    | _ =>
      subst hcell
      obtain ⟨y, hy, rfl⟩ := Option.map_eq_some_iff.mp hread
      exact ih hy

end ColumnType
end RecordGateway
