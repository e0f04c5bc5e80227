import RecordGateway.Proofs.Store.Preparing
import RecordGateway.Proofs.Store.Rewriting
import RecordGateway.Proofs.Value.Trip
/-!
# Inserts that the store has run

An insert of a record adds one row: in the column of each entry the cell that the value is stored
as, and a null in every other column.
-/
namespace RecordGateway

/-! ## Values and the cells they are stored as -/

namespace Cell

theorem Matches.not_nan {a : Affinity} {cell : Cell} {v : Value} (h : cell.Matches a v) :
    v.isNaN = false := by
  cases v with
  | real x =>
    by_contra hnan
    have hsettle : (ofValue (.real x)).settle = .null :=
      storageRules.nan (by simpa [Value.isNaN] using hnan)
    have hcompared : Relation.equal.against a cell (.real x) = .yes := h
    rw [Relation.against, hsettle, Affinity.rules.null, comparisonRules.unknown rfl
      (.inr rfl)] at hcompared
    cases hcompared
  | _ => rfl

theorem settle_matches {v : Value} : (ofValue v).settle.Matches .blob v ↔ v.isNaN = false := by
  constructor
  · exact Matches.not_nan
  · intro hnan
    have hsettle := Value.ofValue_settled hnan
    have hkeeps : Affinity.Keeps .blob (ofValue v) := ⟨hsettle, Affinity.rules.uncompared .blob _⟩
    rw [hsettle, Matches]
    cases v with
    | null => rfl
    | _ => exact against_same hkeeps rfl rfl

end Cell

/-! ## The row of a record -/

/-- The row that a record makes in a table: a null in every column that it says nothing of. -/
def Record.row (record : Record) (t : Table) (id : Int64) : Row :=
  t.image id (t.columns.map fun c => (Store.firstCell record.cells c.name).getD .null)

/-- A table of columns that keep every cell as it is. None of them is the id. -/
structure Table.Untyped (t : Table) : Prop where
  affinity : ∀ c ∈ t.columns, c.affinity = .blob
  key : t.key = none

theorem Table.Untyped.sound {t : Table} (h : t.Untyped)
    (hnames : (t.columns.map fun c => Text.lower c.name).Nodup) (hids : (t.rows.map Row.id).Nodup)
    (hrows : ∀ row ∈ t.rows, row.cells.length = t.columns.length ∧
      ∀ cell ∈ row.cells, cell.settle = cell) : t.Sound := by
  refine ⟨hnames, fun i hi => ?_, hids, fun row hrow => ⟨(hrows row hrow).1, fun c cell hmem => ?_⟩⟩
  · rw [h.key] at hi
    cases hi
  · obtain ⟨hc, hcell⟩ := List.of_mem_zip hmem
    rw [h.affinity c hc]
    exact ⟨(hrows row hrow).2 cell hcell, Affinity.rules.uncompared .blob cell⟩

private theorem Table.Untyped.row_cells {t : Table} (h : t.Untyped) (record : Record) (id : Int64) :
    (record.row t id).cells = t.columns.map fun c =>
      (Store.firstCell record.cells c.name).getD .null := by
  have hwithId (cells : List Cell) : t.withId id cells = cells := by rw [Table.withId, h.key]
  rw [Record.row, Table.image, hwithId, hwithId, Table.settled, ← List.map_prod_left_eq_zip,
    List.map_map]
  refine List.map_congr_left fun c hc => ?_
  simp only [Function.comp_def, h.affinity c hc]
  rfl

/-- A record of columns of a table, each of them once in any letter case. None has a name that
asks the clock. -/
structure Record.Over (record : Record) (t : Table) : Prop where
  columns : ∀ e ∈ record.entries, t.HasColumn e.1
  distinct : (record.entries.map fun e => Text.lower e.1).Nodup
  clock : ∀ e ∈ record.entries, Term.asksClock e.1 = false

namespace Record.Over

variable {record : Record} {t : Table} (h : record.Over t)
include h

theorem firstCell {e : String × Value} (he : e ∈ record.entries) {name : String}
    (hname : Text.sameName name e.1) :
    Store.firstCell record.cells name = some (Cell.ofValue e.2).settle := by
  have hlower := Text.sameName_iff.mp hname
  obtain ⟨d, hfind, hd, hsame⟩ :=
    exists_find? (p := fun d : String × Value => Text.sameName d.1 name) he
      (Text.sameName_iff.mpr hlower.symm)
  obtain rfl : d = e :=
    List.inj_on_of_nodup_map h.distinct hd he ((Text.sameName_iff.mp hsame).trans hlower)
  rw [Store.firstCell, Record.cells, List.find?_map, Function.comp_def, hfind]
  rfl

theorem cell? (huntyped : t.Untyped) {e : String × Value} (he : e ∈ record.entries) (id : Int64) :
    t.cell? (record.row t id) e.1 = some (.blob, (Cell.ofValue e.2).settle) := by
  obtain ⟨c, hc, hname⟩ := h.columns e he
  obtain ⟨found, hfind, hmem, hfound⟩ :=
    exists_find? (p := fun c : Column => Text.sameName c.name e.1) hc hname
  have haffinity := huntyped.affinity found hmem
  rw [Table.cell?, huntyped.row_cells, ← List.map_prod_left_eq_zip, List.find?_map]
  simp only [Function.comp_def, hfind, Option.map_some, haffinity, h.firstCell he hfound,
    Option.getD_some]

/-- The row of a record agrees with an entry exactly if the value is no NaN. -/
theorem row_agrees (huntyped : t.Untyped) {e : String × Value} (he : e ∈ record.entries)
    (id : Int64) : t.Agrees (record.row t id) e ↔ e.2.isNaN = false := by
  rw [← Cell.settle_matches, Table.Agrees, h.cell? huntyped he]
  simp

end Record.Over

/-! ## Inserts that were run -/

namespace Store.Ran

variable {store after : Store} {table name : String} {record : Record} {query : Query}
  {records : List Record} (htable : Term.readName table = some name)
  (h : store.Ran (insertion table record) query records after)
include htable h

theorem inserted : (∀ e ∈ record.entries, (Term.readName (quoteIdentifier e.1)).isSome) ∧
    (∀ e ∈ (insertion table record).binds.entries, IsBindName e.1) ∧
      query = .insert name record.keys ((givenTerms "" record).map Prod.snd) := by
  obtain ⟨compiled, hcompile, -⟩ := h.understood
  have hrecord := (insertion_compiles .sqlite table record).mp ⟨compiled, hcompile⟩
  have hreads := insertion_reads htable hrecord
  obtain ⟨hfine, hquery, -⟩ := hreads.of_ran h
  refine ⟨hfine.1, fun e he => ?_, hquery⟩
  obtain ⟨given, hgiven, hname⟩ := insertion_given he
  exact hname ▸ hfine.2 given hgiven

/-- A condition names a column of a record that was inserted as the insert did, unless an expression
of its own starts by the name. -/
theorem inserted_names {e : String × Value} (he : e ∈ record.entries)
    (hclock : Term.asksClock e.1 = false) (hopens : Term.opens (quoteIdentifier e.1) = false) :
    Term.Names (quoteIdentifier e.1) e.1 := by
  have hname := (h.inserted htable).1 e he
  refine Term.names_quoteIdentifier hclock (Option.isSome_iff_ne_none.mpr fun hnone => ?_)
  rw [(Term.read_eq_none_iff hname).mp hnone] at hopens
  cases hopens

/-- The insert of a gateway adds the row of the record, under an id that was free. -/
theorem inserted_row : ∃ t t', store.table? name = some t ∧ after.table? name = some t' ∧
    t.Alike t' ∧ t'.rows.Perm (record.row t after.lastRowId :: t.rows) ∧
      after.lastRowId ∉ t.rows.map Row.id := by
  obtain ⟨-, hnames, rfl⟩ := h.inserted htable
  have hkeys : record.keys.zip ((givenTerms "" record).map Prod.snd) = givenTerms "" record := by
    rw [← givenTerms_keys "" record]
    exact (List.zip_of_prod rfl rfl).symm
  have hcells : termCells (insertion table record).binds.entries []
      (record.keys.zip ((givenTerms "" record).map Prod.snd)) = record.cells := by
    rw [hkeys]
    exact termCells_given lead_empty_isWordText hnames (List.Subset.refl _) []
  obtain ⟨t, id, t', ht, hinsert, rfl⟩ := perform_insert h.performed
  rw [insert, hcells] at hinsert
  obtain ⟨rfl, hfree⟩ := Table.put_eq_ok (Table.insert_eq_ok hinsert)
  exact ⟨t, _, ht, withTable_table? ht rfl, .withRows t _, Table.place_perm _ _, hfree⟩

end Store.Ran
end RecordGateway
