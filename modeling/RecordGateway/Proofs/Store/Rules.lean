import Mathlib.Data.List.Induction
import RecordGateway.Store.Truth
/-!
# Rules of the database

What SQLite and its driver are documented to do with values, cells and parameters. The store keeps
these rules, and they leave it no choice.
-/
namespace RecordGateway

/-! ## Storage -/

/-- Values are stored as they are, except that truth values become integers and a NaN a null. -/
structure StorageRules (stored : Value → Cell) : Prop where
  null : stored .null = .null
  integer (i : Int64) : stored (.integer i) = .integer i
  truth (b : Bool) : stored (.boolean b) = .integer (if b then 1 else 0)
  real {x : Binary64} : x.isNaN = false → stored (.real x) = .real x
  nan {x : Binary64} : x.isNaN = true → stored (.real x) = .null
  text (s : String) : stored (.text s) = .text (Bytes.ofText s)
  blob (bytes : Bytes) : stored (.blob bytes) = .blob bytes

theorem storageRules : StorageRules fun v => (Cell.ofValue v).settle where
  null := rfl
  integer _ := rfl
  truth _ := rfl
  real h := if_neg (by rw [h]; decide)
  nan h := if_pos h
  text _ := rfl
  blob _ := rfl

theorem StorageRules.stored_eq {stored : Value → Cell} (h : StorageRules stored) :
    stored = fun v => (Cell.ofValue v).settle := by
  funext v
  cases v with
  | null => rw [h.null, storageRules.null]
  | integer i => rw [h.integer, storageRules.integer]
  | boolean b => rw [h.truth, storageRules.truth]
  | text s => rw [h.text, storageRules.text]
  | blob bytes => rw [h.blob, storageRules.blob]
  | real x =>
    cases hx : x.isNaN with
    | false => rw [h.real hx, storageRules.real hx]
    | true => rw [h.nan hx, storageRules.nan hx]

/-! ## Comparison -/

theorem Bytes.compare_eq {as bs : Bytes} : Bytes.compare as bs = .eq ↔ as = bs := by
  induction as generalizing bs with
  | nil => cases bs <;> simp [Bytes.compare]
  | cons a as ih =>
    cases bs with
    | nil => simp [Bytes.compare]
    | cons b bs =>
      rw [Bytes.compare, Ordering.then_eq_eq, Nat.compare_eq_eq, ih, List.cons.injEq,
        UInt8.toNat_inj]

theorem transCmp_on {α β : Type} (cmp : β → β → Ordering) [Std.TransCmp cmp] (f : α → β) :
    Std.TransCmp fun a b => cmp (f a) (f b) where
  eq_swap := Std.OrientedCmp.eq_swap
  isLE_trans := Std.TransCmp.isLE_trans

private theorem Bytes.compare_eq_compareLex :
    Bytes.compare = List.compareLex (compareOn UInt8.toNat) := by
  funext as bs
  induction as generalizing bs with
  | nil => cases bs <;> rfl
  | cons a as ih =>
    cases bs with
    | nil => rfl
    | cons b bs =>
      rw [Bytes.compare, List.compareLex_cons_cons, ih]
      rfl

instance : Std.TransCmp Bytes.compare := by
  rw [Bytes.compare_eq_compareLex]
  infer_instance

instance : Std.TransCmp Cell.compare :=
  have := transCmp_on Bytes.compare Cell.bytes
  inferInstanceAs (Std.TransCmp (compareLex (compareOn Cell.rank)
    (compareLex (compareOn Cell.units) fun a b => Bytes.compare a.bytes b.bytes)))

namespace Relation

/-- What a relation asks of the order of two cells. -/
def asks : Relation → Option (Ordering → Bool)
  | equal => some (· == .eq)
  | different => some (· != .eq)
  | less => some (· == .lt)
  | lessOrEqual => some (· != .gt)
  | greater => some (· == .gt)
  | greaterOrEqual => some (· != .lt)
  | _ => none

end Relation

/-- Nulls stand below numbers, numbers below texts and texts below blobs; numbers are ordered by
value, texts and blobs by their bytes. Of a null nothing is known, except by IS. -/
structure ComparisonRules (order : Cell → Cell → Ordering)
    (holds : Relation → Cell → Cell → Truth) : Prop where
  classes {a b : Cell} : a.rank < b.rank → order a b = .lt
  swap (a b : Cell) : order b a = (order a b).swap
  nulls : order .null .null = .eq
  numbers {a b : Cell} : a.rank = 1 → b.rank = 1 → order a b = compare a.units b.units
  texts (as bs : Bytes) : order (.text as) (.text bs) = as.compare bs
  blobs (as bs : Bytes) : order (.blob as) (.blob bs) = as.compare bs
  unknown {relation : Relation} {test : Ordering → Bool} {a b : Cell} :
    relation.asks = some test → a.isNull = true ∨ b.isNull = true → holds relation a b = .unknown
  known {relation : Relation} {test : Ordering → Bool} {a b : Cell} :
    relation.asks = some test → a.isNull = false → b.isNull = false →
      holds relation a b = .ofBool (test (order a b))
  same (a b : Cell) : holds .is a b = .ofBool (order a b == .eq)
  notSame (a b : Cell) : holds .isNot a b = .ofBool (order a b != .eq)

theorem comparisonRules : ComparisonRules Cell.compare Relation.holds where
  classes {a b} h := by rw [Cell.compare, Nat.compare_eq_lt.mpr h, Ordering.lt_then]
  swap _ _ := Std.OrientedCmp.eq_swap
  nulls := rfl
  numbers {a b} ha hb := by
    have hbytes {c : Cell} (hc : c.rank = 1) : c.bytes = [] := by cases c <;> first | rfl | cases hc
    rw [Cell.compare, ha, hb, hbytes ha, hbytes hb]
    simp [Bytes.compare]
  texts as bs := by simp [Cell.compare, Cell.rank, Cell.units, Cell.bytes]
  blobs as bs := by simp [Cell.compare, Cell.rank, Cell.units, Cell.bytes]
  unknown {relation test a b} hasks hnull := by
    have hor : (a.isNull || b.isNull) = true := Bool.or_eq_true_iff.mpr hnull
    cases relation <;> first | cases hasks; done | simp [Relation.holds, hor]
  known {relation test a b} hasks ha hb := by
    cases relation <;> first | cases hasks; done | skip
    all_goals
      obtain rfl := Option.some.inj hasks
      simp only [Relation.holds, ha, hb, Bool.or_self, Bool.false_eq_true, if_false]
  same _ _ := rfl
  notSame _ _ := rfl

namespace ComparisonRules

variable {order : Cell → Cell → Ordering} {holds : Relation → Cell → Cell → Truth}

private theorem order_eq (h : ComparisonRules order holds) : order = Cell.compare := by
  funext a b
  rcases Nat.lt_trichotomy a.rank b.rank with hlt | heq | hgt
  · rw [h.classes hlt, comparisonRules.classes hlt]
  · by_cases hnumber : a.rank = 1
    · rw [h.numbers hnumber (heq ▸ hnumber), comparisonRules.numbers hnumber (heq ▸ hnumber)]
    · cases a <;> cases b <;> first
        | cases heq; done
        | exact absurd rfl hnumber
        | exact h.nulls
        | rw [h.texts, comparisonRules.texts]
        | rw [h.blobs, comparisonRules.blobs]
  · rw [h.swap, comparisonRules.swap, h.classes hgt, comparisonRules.classes hgt]

theorem holds_eq (h : ComparisonRules order holds) {relation : Relation}
    (hpattern : relation.isPattern = false) : holds relation = relation.holds := by
  funext a b
  cases hasks : relation.asks with
  | none =>
    cases relation with
    | is => rw [h.same, comparisonRules.same, h.order_eq]
    | isNot => rw [h.notSame, comparisonRules.notSame, h.order_eq]
    | like | notLike => cases hpattern
    | _ => cases hasks
  | some test =>
    by_cases hnull : a.isNull = true ∨ b.isNull = true
    · rw [h.unknown hasks hnull, comparisonRules.unknown hasks hnull]
    · rw [not_or, Bool.not_eq_true, Bool.not_eq_true] at hnull
      rw [h.known hasks hnull.1 hnull.2, comparisonRules.known hasks hnull.1 hnull.2, h.order_eq]

end ComparisonRules

/-! ## Columns -/

/-- What the type of a column does to the cells that it stores and to those that are compared with
it. -/
structure AffinityRules (apply : Affinity → Cell → Cell)
    (meet : Affinity → Affinity → Cell → Cell) : Prop where
  untyped (cell : Cell) : apply .blob cell = cell
  uncompared (own : Affinity) (cell : Cell) : meet .blob own cell = cell
  null (a own : Affinity) : meet a own .null = .null
  /-- Only a column of texts takes a cell that is no text for something else. -/
  number {a : Affinity} {cell : Cell} : a ≠ .text → cell.rank ≠ 2 → meet a .blob cell = cell
  printed {cell : Cell} : cell.rank = 1 → (meet .text .blob cell).rank = 2
  /-- A text stays as it is or is taken for a number. -/
  text (a : Affinity) (bytes : Bytes) :
    meet a .blob (.text bytes) = .text bytes ∨ (meet a .blob (.text bytes)).rank = 1
  settled {a : Affinity} {cell : Cell} : cell.settle = cell → (apply a cell).settle = apply a cell
  /-- What a column has stored it leaves alone. -/
  stored {a : Affinity} {cell : Cell} : cell.settle = cell →
    meet a .blob (apply a cell) = apply a cell

/-! ## Parameters -/

/-- Parameters are bound one after the other. A name that is bound again has the later value, and
one that is never bound is null. -/
structure ParameterRules (value : Assignment → String → Value) : Prop where
  unbound (name : String) : value [] name = .null
  bound (parameters : Assignment) (entry : String × Value) (name : String) :
    value (parameters ++ [entry]) name = if name = entry.1 then entry.2 else value parameters name

private theorem parameterRules : ParameterRules Assignment.value where
  unbound _ := rfl
  bound parameters entry name := by
    rw [Assignment.value, List.reverse_append, List.reverse_singleton, List.singleton_append,
      List.find?_cons]
    by_cases hname : name = entry.1
    · rw [if_pos hname, beq_iff_eq.mpr hname.symm]
    · rw [if_neg hname, beq_false_of_ne (Ne.symm hname)]
      rfl

theorem ParameterRules.value_eq {value : Assignment → String → Value} (h : ParameterRules value) :
    value = Assignment.value := by
  funext parameters name
  induction parameters using List.reverseRecOn with
  | nil => rw [h.unbound, parameterRules.unbound]
  | append_singleton parameters entry ih => rw [h.bound, parameterRules.bound, ih]

end RecordGateway
