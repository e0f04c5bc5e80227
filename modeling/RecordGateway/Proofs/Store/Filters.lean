import RecordGateway.Proofs.Store.Matching
import RecordGateway.Proofs.Store.Ordering
/-!
# Filters and orderings over columns

Each filter of a selection compares the cell of its column with its own value, whatever name the
value is bound to and however often the column is asked for.
-/
namespace RecordGateway

namespace Table

def HasColumn (t : Table) (name : String) : Prop := ∃ c ∈ t.columns, Text.sameName c.name name

instance (t : Table) (name : String) : Decidable (t.HasColumn name) :=
  inferInstanceAs (Decidable (∃ c ∈ t.columns, Text.sameName c.name name))

/-- The cell of a row in the column of a name, with the affinity of the column. -/
def cell? (t : Table) (row : Row) (name : String) : Option (Affinity × Cell) :=
  ((t.columns.zip row.cells).find? fun e => Text.sameName e.1.name name).map
    fun e => (e.1.affinity, e.2)

theorem cell?_isSome {t : Table} {row : Row} (hfits : t.Fits row) {name : String}
    (h : t.HasColumn name) : ∃ entry, t.cell? row name = some entry := by
  obtain ⟨c, hc, hname⟩ := h
  have hzip : (t.columns.zip row.cells).map Prod.fst = t.columns :=
    List.map_fst_zip (Nat.le_of_eq hfits.width.symm)
  rw [← hzip] at hc
  obtain ⟨e, he, rfl⟩ := List.mem_map.mp hc
  obtain ⟨found, hfind, -⟩ :=
    exists_find? (p := fun e : Column × Cell => Text.sameName e.1.name name) he hname
  exact ⟨(found.1.affinity, found.2), by rw [cell?, hfind]; rfl⟩

theorem find?_of_cell? {t : Table} {row : Row} {name : String} {entry : Affinity × Cell}
    (h : t.cell? row name = some entry) : (t.frame row).find? name = some entry := by
  obtain ⟨e, he, rfl⟩ := Option.map_eq_some_iff.mp h
  rw [Frame.find?, frame, List.append_assoc, List.find?_append, List.find?_map, Function.comp_def,
    he]
  rfl

/-- The row has a cell in the column of an entry, and the cell matches the value. -/
def Agrees (t : Table) (row : Row) (entry : String × Value) : Prop :=
  ∃ a cell, t.cell? row entry.1 = some (a, cell) ∧ cell.Matches a entry.2

end Table

/-- The relations by which a filter compares a cell with a value. -/
def comparisons : List (String × Relation) :=
  [("=", .equal), ("!=", .different), ("<", .less), ("<=", .lessOrEqual), (">", .greater),
   (">=", .greaterOrEqual), ("IS", .is)]

theorem read_comparison {word : String} {relation : Relation}
    (h : comparisons.lookup word = some relation) :
    Relation.read word = some relation ∧ relation.isPattern = false := by
  have hall : ∀ e ∈ comparisons, Relation.read e.1 = some e.2 ∧ e.2.isPattern = false := by decide
  obtain ⟨before, later, heq, -⟩ := List.lookup_eq_some_iff.mp h
  exact hall (word, relation) (by simp [heq])

namespace Filter

/-- Whether a filter, taken alone, holds on a row. -/
def holds (t : Table) (f : Filter) (row : Row) : Bool :=
  match comparisons.lookup f.relation, t.cell? row f.field with
  | some relation, some (a, cell) => relation.against a cell f.value == .yes
  | _, _ => false

/-- A filter that compares a column of the table. -/
structure Compares (t : Table) (f : Filter) : Prop where
  column : t.HasColumn f.field
  relation : (comparisons.lookup f.relation).isSome

end Filter

theorem filterConditions_condition {filters : List Filter} {p : Predicate}
    (hp : p ∈ (filterConditions filters .empty).1) :
    ∃ f ∈ filters, Request.Restricts (filterConditions filters .empty).2 f p :=
  forall₂_mem_right (filterConditions_restrict filters .empty) p hp

theorem Request.Restricts.truth {binds : Binds} (hnames : ∀ e ∈ binds.entries, IsBindName e.1)
    {t : Table} {row : Row} (hfits : t.Fits row) {f : Filter} (hread : Term.Names f.field f.field)
    (hcompares : f.Compares t) {c : Condition} (h : Request.Restricts binds f (.condition c)) :
    c.truth binds.entries (t.frame row) = .yes ↔ f.holds t row := by
  obtain ⟨name, hc, hvalue⟩ := h
  obtain rfl : c = .verbatim f.field f.relation name := by simpa using hc
  obtain ⟨word, rfl, hword, hne⟩ := hnames _ ((binds.values.get?_eq_some name _).mp hvalue)
  obtain ⟨relation, hlookup⟩ := Option.isSome_iff_exists.mp hcompares.relation
  obtain ⟨hrelation, hpattern⟩ := read_comparison hlookup
  obtain ⟨⟨a, cell⟩, hcell⟩ := Table.cell?_isSome hfits hcompares.column
  have hfield := evalText_names hread binds.entries (Table.find?_of_cell? hcell)
  rw [Condition.truth_compares hrelation hpattern hfield (evalText_placeholder hword hne _ _),
    Assignment.cell, Binds.value_eq hvalue, Filter.holds]
  simp only [hlookup, hcell, beq_iff_eq]
  rfl

theorem Term.Names.ne_empty {text name : String} (h : Names text name) : text ≠ "" := by
  have hempty : read "" = none := by decide
  rintro rfl
  rcases h with h | ⟨cell, h⟩ <;> rw [hempty] at h <;> cases h

/-- A row passes the filters of a selection exactly if every filter, taken alone, holds on it. -/
theorem passes_filters {t : Table} {row : Row} (hfits : t.Fits row) {filters : List Filter}
    (h : ∀ f ∈ filters, Term.Names f.field f.field ∧ f.Compares t) :
    passes (filterConditions filters .empty).2.entries
      (Reader.whereFilter (filterConditions filters .empty).1) (t.frame row) ↔
      ∀ f ∈ filters, f.holds t row := by
  have hnames := filterConditions_isBindName fun f hf => (h f hf).1.ne_empty
  rw [passes_whereFilter (filterConditions_flat filters)]
  refine (forall₂_forall_iff (fun f p hp => ?_)
    ((List.forall₂_and_left _ _).mpr ⟨h, filterConditions_restrict filters .empty⟩)).symm
  obtain ⟨⟨hread, hcompares⟩, hp⟩ := hp
  obtain ⟨name, rfl, -⟩ := id hp
  rw [← hp.truth hnames hfits hread hcompares]
  constructor
  · rintro hyes c ⟨⟩
    exact hyes
  · exact fun hyes => hyes _ rfl

/-! ## Orderings -/

def Ordered.compareRows (t : Table) (o : Ordered) (a b : Row) : Ordering :=
  let cell (row : Row) : Cell := ((t.cell? row o.field).getD (.blob, .null)).2
  o.direction.directed ((cell a).compare (cell b))

/-- Rows compared by orderings one after another. -/
def lexicographic (t : Table) : List Ordered → Row → Row → Ordering
  | [], _, _ => .eq
  | o :: order, a, b => (o.compareRows t a b).then (lexicographic t order a b)

namespace Selection

private theorem find?_take_append {α : Type} (p : α → Bool) (n : Nat) (xs : List α) :
    (xs.take n ++ xs).find? p = xs.find? p := by
  have hxs : xs.find? p = ((xs.take n).find? p).or ((xs.drop n).find? p) := by
    rw [← List.find?_append, List.take_append_drop]
  rw [List.find?_append, hxs, ← Option.or_assoc, Option.or_self]

theorem orderFrame_star (t : Table) (parameters : Assignment) (frame : Frame) (name : String) :
    (orderFrame t parameters [⟨"*", none⟩] frame).find? name = frame.find? name := by
  have hframe : orderFrame t parameters [⟨"*", none⟩] frame =
      frame.take t.columns.length ++ [] ++ frame := rfl
  rw [hframe, List.append_nil, Frame.find?, find?_take_append]
  rfl

private theorem orderCell_names {t : Table} {row : Row} {name : String}
    (hread : Term.Names name name)
    {entry : Affinity × Cell} (hcell : t.cell? row name = some entry) (parameters : Assignment) :
    orderCell t parameters [⟨"*", none⟩] (t.frame row) name = entry.2 := by
  have hfind : (orderFrame t parameters [⟨"*", none⟩] (t.frame row)).find? name = some entry := by
    rw [orderFrame_star]
    exact Table.find?_of_cell? hcell
  have heval := evalText_names hread parameters hfind
  unfold orderCell
  rw [heval]
  rcases hread with hread | ⟨cell, hread⟩ <;> rw [hread]

theorem compareBy_lexicographic {t : Table} {a b : Row} (ha : t.Fits a) (hb : t.Fits b)
    (parameters : Assignment) {order : List Ordered}
    (h : ∀ o ∈ order, Term.Names o.field o.field ∧ t.HasColumn o.field) :
    compareBy t parameters [⟨"*", none⟩] order (t.frame a) (t.frame b) =
      lexicographic t order a b := by
  induction order with
  | nil => exact compareBy_nil ..
  | cons o order ih =>
    obtain ⟨⟨hread, hcolumn⟩, hrest⟩ := List.forall_mem_cons.mp h
    obtain ⟨entry, hentry⟩ := Table.cell?_isSome ha hcolumn
    obtain ⟨other, hother⟩ := Table.cell?_isSome hb hcolumn
    rw [compareBy_cons, compareLex, ih hrest, orderCell_names hread hentry,
      orderCell_names hread hother, lexicographic, Ordered.compareRows]
    simp only [hentry, hother, Option.getD_some]

end Selection
end RecordGateway
