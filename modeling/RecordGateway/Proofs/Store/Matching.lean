import Mathlib.Data.List.Nodup
import RecordGateway.Proofs.Lists
import RecordGateway.Proofs.Store.Cells
import RecordGateway.Proofs.Store.Selections
/-!
# Rows that match a record

The conditions that an update and a delete make of a record hold on a row exactly if every column
of the record matches: a null matches a null, and any other value matches a cell that the store
finds equal to it.
-/
namespace RecordGateway

private theorem Truth.conjunction_yes {truths : List Truth} :
    combine .and truths = .yes ↔ ∀ t ∈ truths, t = .yes := by
  induction truths with
  | nil => simp [combine]
  | cons t truths ih =>
    have hfold : combine .and (t :: truths) = t.and (combine .and truths) := rfl
    have hand (u v : Truth) : u.and v = .yes ↔ u = .yes ∧ v = .yes := by
      cases u <;> cases v <;> decide
    rw [hfold, hand, ih, List.forall_mem_cons]

namespace Predicate

private theorem partTruths_conditions (holds : Condition → Truth) {parts : List Predicate}
    (h : ∀ p ∈ parts, ∃ c, p = .condition c) :
    partTruths holds parts = parts.filterMap (truth? holds) := by
  induction parts with
  | nil => rfl
  | cons p parts ih =>
    obtain ⟨⟨c, rfl⟩, hrest⟩ := List.forall_mem_cons.mp h
    rw [partTruths, ih hrest, truth?]
    rfl

end Predicate

theorem passes_all {parameters : Assignment} {frame : Frame} {parts : List Predicate}
    (h : ∀ p ∈ parts, ∃ c, p = .condition c) :
    passes parameters (some (.all parts)) frame ↔
      ∀ c, .condition c ∈ parts → c.truth parameters frame = .yes := by
  have hall :
      (∀ t ∈ parts.filterMap (Predicate.truth? (Condition.truth parameters frame)), t = .yes) ↔
      ∀ c, .condition c ∈ parts → c.truth parameters frame = .yes := by
    constructor
    · intro hyes c hc
      exact hyes _ (List.mem_filterMap.mpr ⟨_, hc, rfl⟩)
    · intro hyes t ht
      obtain ⟨p, hp, hpt⟩ := List.mem_filterMap.mp ht
      obtain ⟨c, rfl⟩ := h p hp
      obtain rfl := Option.some.inj hpt
      exact hyes c hp
  rw [passes, Predicate.all, Option.bind_some, Predicate.truth?,
    Predicate.partTruths_conditions _ h, ← hall, ← Truth.conjunction_yes]
  cases parts.filterMap (Predicate.truth? (Condition.truth parameters frame)) with
  | nil => simp [Truth.combine]
  | cons t truths => simp

theorem Binds.value_eq {binds : Binds} {name : String} {value : Value}
    (h : binds.get? name = some value) : Assignment.value binds.entries name = value := by
  have hmem := (binds.values.get?_eq_some name value).mp h
  unfold Assignment.value
  cases hfind : (List.reverse binds.entries).find? fun e => e.1 == name with
  | none =>
    have hnot := List.find?_eq_none.mp hfind _ (List.mem_reverse.mpr hmem)
    simp at hnot
  | some e =>
    have hname : e.1 = name := by simpa using List.find?_some hfind
    have he := List.mem_reverse.mp (List.mem_of_find?_eq_some hfind)
    have hget := (binds.values.get?_eq_some name e.2).mpr (hname ▸ he)
    exact Option.some.inj (hget.symm.trans h)

/-- A cell of a column matches a value that a record has for the column. -/
def Cell.Matches (a : Affinity) (cell : Cell) (value : Value) : Prop :=
  if value.isNull then cell = .null else Relation.equal.against a cell value = .yes

private theorem evalText_null (parameters : Assignment) (frame : Frame) :
    evalText parameters frame "NULL" = (.blob, .null) := by
  have hread : Term.read "NULL" = some (.constant .null) := by decide
  unfold evalText
  rw [hread]
  rfl

namespace Condition

/-- A condition with a relation that is no pattern compares two cells, each brought to the
other's class. -/
theorem truth_compares {parameters : Assignment} {frame : Frame} {field word text : String}
    {relation : Relation} (hrelation : Relation.read word = some relation)
    (hpattern : relation.isPattern = false) {a b : Affinity} {cell other : Cell}
    (hfield : evalText parameters frame field = (a, cell))
    (htext : evalText parameters frame text = (b, other)) :
    (verbatim field word text).truth parameters frame =
      relation.holds (b.meet a cell) (a.meet b other) := by
  unfold truth
  simp only [verbatim, Value.display, hfield, htext, hrelation, hpattern]
  rfl

end Condition

/-- A condition on a column of a record holds exactly if the cell matches the value. -/
theorem Request.Matches.truth {binds : Binds} (hnames : ∀ e ∈ binds.entries, IsBindName e.1)
    {frame : Frame} {a : Affinity} {cell : Cell} {item : String × Value}
    (hfield : evalText binds.entries frame (quoteIdentifier item.1) = (a, cell)) {c : Condition}
    (h : Request.Matches binds item (.condition c)) :
    c.truth binds.entries frame = .yes ↔ cell.Matches a item.2 := by
  unfold Request.Matches at h
  unfold Cell.Matches
  split at h
  · obtain rfl : c = .verbatim (quoteIdentifier item.1) "IS" "NULL" := by simpa using h
    have hrelation : Relation.read "IS" = some .is := by decide
    rw [if_pos ‹_›, Condition.truth_compares hrelation rfl hfield (evalText_null _ _),
      Affinity.rules.uncompared, Affinity.rules.null]
    have hcompare : cell.compare .null = .eq ↔ cell = .null := by
      cases cell <;> simp [Cell.compare_eq, Cell.rank, Cell.units, Cell.bytes]
    rw [← hcompare, comparisonRules.same]
    cases cell.compare .null <;> simp [Truth.ofBool]
  · obtain ⟨name, hc, hvalue⟩ := h
    obtain rfl : c = .verbatim (quoteIdentifier item.1) "=" name := by simpa using hc
    obtain ⟨word, rfl, hword, hne⟩ := hnames _ ((binds.values.get?_eq_some name _).mp hvalue)
    have hrelation : Relation.read "=" = some .equal := by decide
    rw [if_neg ‹_›, Condition.truth_compares hrelation rfl hfield
      (evalText_placeholder hword hne _ _),
      Assignment.cell, Binds.value_eq hvalue]
    rfl

/-! ## Records that were read -/

namespace Mapping

/-- An entry of what was read of a record: a column, and what its type writes of what it reads. -/
def Kept (record : Record) (column : String × ColumnType) (entry : String × Value) : Prop :=
  column.1 = entry.1 ∧ ∃ value x, record.get? column.1 = some value ∧
    column.2.read? value = some x ∧ entry.2 = column.2.write x

private theorem require_eq_ok {record : Record} {column : String} {type : ColumnType}
    {x : type.Carrier}
    (h : record.require column type = .ok x) :
    ∃ value, record.get? column = some value ∧ type.read? value = some x := by
  unfold Record.require at h
  split at h
  · cases h
  · next value hvalue =>
    split at h
    · next y hread =>
      obtain rfl := Except.ok.inj h
      exact ⟨value, hvalue, hread⟩
    · cases h

private theorem readColumns_keeps {record : Record} (columns : List (String × ColumnType))
    {seen : Keyed ColumnType} {found read : Record}
    (hfound : List.Forall₂ (Kept record) seen.entries found.entries)
    (h : readColumns record columns found = .ok read) :
    List.Forall₂ (Kept record) (seen.insertAll columns).entries read.entries := by
  induction columns generalizing seen found with
  | nil =>
    obtain rfl := Except.ok.inj h
    exact hfound
  | cons column columns ih =>
    obtain ⟨name, type⟩ := column
    unfold readColumns at h
    split at h
    · cases h
    · next x hx =>
      obtain ⟨value, hvalue, hread⟩ := require_eq_ok hx
      have hnext : List.Forall₂ (Kept record) (seen.insert name type).entries
          (found.insert name (type.write x)).entries :=
        putEntry_forall₂ (fun _ _ hab => hab.1) ⟨rfl, value, x, hvalue, hread, rfl⟩ hfound
      exact ih hnext h

theorem readColumns_eq_ok {record read : Record} {columns : List (String × ColumnType)}
    (h : readColumns record columns .empty = .ok read) :
    List.Forall₂ (Kept record) (Keyed.ofList columns).entries read.entries :=
  readColumns_keeps columns .nil h

end Mapping

namespace Table

private theorem record_entries {t : Table} (hsound : t.Sound) {row : Row} (hrow : row ∈ t.rows) :
    (t.record row).entries =
      (t.columns.zip row.cells).map fun (c, cell) => (c.name, cell.toValue) := by
  have hzip : (t.columns.zip row.cells).map Prod.fst = t.columns :=
    List.map_fst_zip (Nat.le_of_eq (hsound.rows row hrow).width.symm)
  have hnames : (t.columns.map Column.name).Nodup := by
    refine List.Nodup.of_map Text.lower ?_
    rw [List.map_map]
    exact hsound.names
  refine Keyed.entries_ofList _ ?_
  rw [← hzip, List.map_map] at hnames
  rwa [List.map_map]

theorem mem_record {t : Table} (hsound : t.Sound) {row : Row} (hrow : row ∈ t.rows) {name : String}
    {value : Value} (h : (t.record row).get? name = some value) :
    ∃ c cell, (c, cell) ∈ t.columns.zip row.cells ∧ c.name = name ∧ cell.toValue = value := by
  have hentry := (Keyed.get?_eq_some _ _ _).mp h
  rw [record_entries hsound hrow] at hentry
  obtain ⟨⟨c, cell⟩, hmem, heq⟩ := List.mem_map.mp hentry
  obtain ⟨rfl, rfl⟩ := Prod.mk.inj heq
  exact ⟨c, cell, hmem, rfl, rfl⟩

/-- Every type of a list of columns is faithful to the cell of its column. -/
def Faithful (t : Table) (columns : List (String × ColumnType)) (row : Row) : Prop :=
  ∀ column ∈ (Keyed.ofList columns).entries, ∀ c cell, (c, cell) ∈ t.columns.zip row.cells →
    c.name = column.1 → column.2.Faithful cell

theorem cell_unique {t : Table} (hsound : t.Sound) {row : Row} {c d : Column} {cell other : Cell}
    (hc : (c, cell) ∈ t.columns.zip row.cells) (hd : (d, other) ∈ t.columns.zip row.cells)
    (hname : c.name = d.name) : c.affinity = d.affinity ∧ cell = other := by
  have hfirst := frame_find? hsound hc (congrArg Text.lower hname)
  have hsecond := frame_find? hsound hd rfl
  exact Prod.mk.inj (Option.some.inj (hfirst.symm.trans hsecond))

end Table

private theorem ColumnType.faithful_null (type : ColumnType) : type.Faithful .null := by
  induction type with
  | optional inner ih => exact ih
  | _ => trivial

theorem ColumnType.matches_read {a : Affinity} {cell : Cell} (hkeeps : a.Keeps cell)
    {type : ColumnType} {x : type.Carrier} (h : type.read? cell.toValue = some x) :
    cell.Matches a (type.write x) ↔ type.Faithful cell := by
  have hread := against_read hkeeps h
  unfold Cell.Matches
  split
  · next hnull =>
    rw [if_pos hnull] at hread
    rw [hread]
    exact iff_of_true rfl type.faithful_null
  · next hnull => rwa [if_neg hnull] at hread

/-! ## The conditions of an update -/

private theorem Request.Matches.verbatim {binds : Binds} {entry : String × Value} {p : Predicate}
    (h : Request.Matches binds entry p) :
    ∃ relation text, p = .condition (.verbatim (quoteIdentifier entry.1) relation text) := by
  unfold Request.Matches at h
  split at h
  · exact ⟨_, _, h⟩
  · obtain ⟨name, hp, -⟩ := h
    exact ⟨_, _, hp⟩

/-- A row passes the filter of conditions exactly if all of them hold on it. -/
theorem passes_whereFilter {parts : List Predicate} (h : ∀ p ∈ parts, ∃ c, p = .condition c)
    (parameters : Assignment) (frame : Frame) :
    passes parameters (Reader.whereFilter parts) frame ↔
      ∀ p ∈ parts, ∀ c, p = .condition c → c.truth parameters frame = .yes := by
  cases parts with
  | nil => exact iff_of_true rfl (List.forall_mem_nil _)
  | cons part parts =>
    refine (passes_all h).trans ⟨fun hyes p hp c hc => ?_, fun hyes c hc => hyes _ hc c rfl⟩
    exact hyes c (hc ▸ hp)

namespace Table

/-- The cell of a column matches the value that an entry gives for the column. -/
def Matches (t : Table) (row : Row) (entry : String × Value) : Prop :=
  ∀ c cell, (c, cell) ∈ t.columns.zip row.cells → c.name = entry.1 →
    cell.Matches c.affinity entry.2

variable {t : Table} (hsound : t.Sound) {row : Row} (hrow : row ∈ t.rows)
include hsound

theorem matches_truth {binds : Binds} (hnames : ∀ e ∈ binds.entries, IsBindName e.1)
    {c : Column} {cell : Cell} (hmem : (c, cell) ∈ t.columns.zip row.cells)
    {entry : String × Value} (hname : c.name = entry.1) (hclock : Term.asksClock entry.1 = false)
    (hread : (Term.read (quoteIdentifier entry.1)).isSome) {condition : Condition}
    (h : Request.Matches binds entry (.condition condition)) :
    condition.truth binds.entries (t.frame row) = .yes ↔ t.Matches row entry := by
  have hfield := evalText_names (Term.names_quoteIdentifier hclock hread) binds.entries
    (frame_find? hsound hmem (congrArg Text.lower hname))
  rw [h.truth hnames hfield]
  constructor
  · intro hmatch d other hd hd'
    obtain ⟨haffinity, rfl⟩ := cell_unique hsound hmem hd (hname.trans hd'.symm)
    rwa [← haffinity]
  · exact fun hmatches => hmatches c cell hmem hname

include hrow

theorem kept_cell {column : String × ColumnType} {entry : String × Value}
    (h : Mapping.Kept (t.record row) column entry) :
    ∃ c cell, (c, cell) ∈ t.columns.zip row.cells ∧ c.name = entry.1 ∧ ∃ x,
      column.2.read? cell.toValue = some x ∧ entry.2 = column.2.write x := by
  obtain ⟨hname, value, x, hvalue, hx, hwritten⟩ := h
  obtain ⟨c, cell, hmem, hc, rfl⟩ := mem_record hsound hrow hvalue
  exact ⟨c, cell, hmem, hc.trans hname, x, hx, hwritten⟩

theorem kept_matches {column : String × ColumnType} {entry : String × Value}
    (h : Mapping.Kept (t.record row) column entry) :
    (∀ c cell, (c, cell) ∈ t.columns.zip row.cells → c.name = column.1 → column.2.Faithful cell) ↔
      t.Matches row entry := by
  obtain ⟨c, cell, hmem, hc, x, hx, hwritten⟩ := kept_cell hsound hrow h
  have hone := column.2.matches_read ((hsound.rows row hrow).kept c cell hmem) hx
  rw [← hwritten] at hone
  constructor
  · intro hfaithful d other hd hd'
    obtain ⟨haffinity, rfl⟩ := cell_unique hsound hmem hd (hc.trans hd'.symm)
    rw [← haffinity]
    exact hone.mpr (hfaithful c cell hmem (hc.trans h.1.symm))
  · intro hmatches d other hd hd'
    obtain ⟨-, rfl⟩ := cell_unique hsound hmem hd (hc.trans (h.1.symm.trans hd'.symm))
    exact hone.mp (hmatches c cell hmem hc)

end Table

namespace Store

/-- A row is found exactly if it meets the condition for every column, in whatever it is that makes
the condition true. -/
theorem meets_iff {t : Table} {binds : Binds} {row : Row} {entries : List (String × Value)}
    {parts : List Predicate} (hmatches : List.Forall₂ (Request.Matches binds) entries parts)
    {Meets : String × Value → Prop}
    (hmeets : ∀ entry ∈ entries, ∀ c, Request.Matches binds entry (.condition c) →
      (c.truth binds.entries (t.frame row) = .yes ↔ Meets entry)) :
    meets t binds.entries (Reader.whereFilter parts) row ↔ ∀ entry ∈ entries, Meets entry := by
  have hconditions : ∀ p ∈ parts, ∃ c, p = .condition c := by
    intro p hp
    obtain ⟨entry, -, hmatch⟩ := forall₂_mem_right hmatches p hp
    obtain ⟨relation, text, rfl⟩ := hmatch.verbatim
    exact ⟨_, rfl⟩
  rw [meets, passes_whereFilter hconditions]
  refine (forall₂_forall_iff (fun entry p h => ?_)
    ((List.forall₂_and_left _ _).mpr ⟨hmeets, hmatches⟩)).symm
  obtain ⟨hmeet, hmatch⟩ := h
  obtain ⟨relation, text, rfl⟩ := hmatch.verbatim
  rw [← hmeet _ hmatch]
  constructor
  · rintro hyes c ⟨⟩
    exact hyes
  · exact fun hyes => hyes _ rfl

section
variable {store after : Store} {table name : String} {previous current : Record} {query : Query}
  {records : List Record}

theorem replacement_matches (table : String) (previous current : Record) :
    List.Forall₂ (Request.Matches (replacement table previous current).binds) previous.entries
      (matchConditions previous.entries .empty).1 := by
  rw [← (matchConditions_assigned previous current).1]
  exact matchConditions_match _ _

theorem Ran.replaced (htable : Term.readName table = some name)
    (hran : store.Ran (replacement table previous current) query records after) :
    (∀ e ∈ previous.entries, (Term.read (quoteIdentifier e.1)).isSome) ∧
      query = .update name (givenTerms "n_" current)
        (Reader.whereFilter (matchConditions previous.entries .empty).1) := by
  obtain ⟨compiled, hcompile, -⟩ := hran.understood
  have hcurrent := (replacement_compiles .sqlite table previous current).mp ⟨compiled, hcompile⟩
  obtain ⟨⟨-, hfields⟩, hquery, -⟩ := (replacement_reads htable previous hcurrent).of_ran hran
  refine ⟨fun e he => ?_, hquery⟩
  obtain ⟨term, hterm, -⟩ := hfields e he
  exact Option.isSome_iff_exists.mpr ⟨term, hterm⟩

theorem Ran.finds_iff (htable : Term.readName table = some name)
    (hran : store.Ran (replacement table previous current) query records after)
    {t : Table} (hsound : t.Sound) {row : Row}
    (hcells : ∀ entry ∈ previous.entries, ∃ c cell, (c, cell) ∈ t.columns.zip row.cells ∧
      c.name = entry.1 ∧ Term.asksClock entry.1 = false) :
    meets t (replacement table previous current).binds.entries query.filter row ↔
      ∀ entry ∈ previous.entries, t.Matches row entry := by
  obtain ⟨hfields, rfl⟩ := hran.replaced htable
  refine meets_iff (replacement_matches table previous current) fun entry hentry c hmatch => ?_
  obtain ⟨column, cell, hmem, hname, hclock⟩ := hcells entry hentry
  exact Table.matches_truth hsound (replacement_isBindName table previous current) hmem hname hclock
    (hfields entry hentry) hmatch

/-- An update that was made of a record read of a row finds the row exactly if every type is
faithful to the cell that it was read from. -/
theorem finds_read (htable : Term.readName table = some name)
    (hran : store.Ran (replacement table previous current) query records after)
    {t : Table} (hsound : t.Sound) {row : Row} (hrow : row ∈ t.rows)
    {columns : List (String × ColumnType)}
    (hclock : ∀ column ∈ columns, Term.asksClock column.1 = false)
    (hread : Mapping.readColumns (t.record row) columns .empty = .ok previous) :
    meets t (replacement table previous current).binds.entries query.filter row ↔
      t.Faithful columns row := by
  have hkept := (List.forall₂_and_left _ _).mpr ⟨fun column h => hclock column (Keyed.mem_ofList h),
    Mapping.readColumns_eq_ok hread⟩
  have hcells : ∀ entry ∈ previous.entries, ∃ c cell, (c, cell) ∈ t.columns.zip row.cells ∧
      c.name = entry.1 ∧ Term.asksClock entry.1 = false := by
    intro entry hentry
    obtain ⟨column, -, hfree, hcolumn⟩ := forall₂_mem_right hkept entry hentry
    obtain ⟨c, cell, hmem, hc, -⟩ := Table.kept_cell hsound hrow hcolumn
    exact ⟨c, cell, hmem, hc, hcolumn.1 ▸ hfree⟩
  rw [hran.finds_iff htable hsound hcells, Table.Faithful,
    forall₂_forall_iff (fun _ _ h => Table.kept_matches hsound hrow h.2) hkept]

end

end Store
end RecordGateway
