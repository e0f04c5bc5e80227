import RecordGateway.Proofs.Store.Preparing
/-!
# Deletes that the store runs

A delete of a record whose names are columns of the table takes the rows that agree with the
record in every column.
-/
namespace RecordGateway

/-- Whether the delete of a record takes a row. -/
def Record.takes (record : Record) (t : Table) (row : Row) : Bool :=
  Store.meets t (matchConditions record.entries .empty).2.entries
    (Reader.whereFilter (matchConditions record.entries .empty).1) row

/-- A table without the rows that the delete of a record takes. -/
def Record.left (record : Record) (t : Table) : Table :=
  { t with rows := t.rows.filter fun row => !record.takes t row }

/-- A table is left without the rows that agree with a record, so many of them. -/
structure Record.Clears (record : Record) (t left : Table) (count : Nat) : Prop where
  sublist : left.rows.Sublist t.rows
  kept : ∀ row, row ∈ left.rows ↔ row ∈ t.rows ∧ ¬∀ e ∈ record.entries, t.Agrees row e
  counted : t.rows.length = left.rows.length + count

namespace Record.Clears

variable {record : Record} {t left : Table} {count : Nat} (h : record.Clears t left count)
include h

theorem taken {row : Row} (hrow : row ∈ t.rows) (hagrees : ∀ e ∈ record.entries, t.Agrees row e) :
    1 ≤ count ∧ row ∉ left.rows := by
  have hgone : row ∉ left.rows := fun hleft => ((h.kept row).mp hleft).2 hagrees
  refine ⟨Nat.one_le_iff_ne_zero.mpr fun hzero => hgone ?_, hgone⟩
  have hlength := h.counted
  rw [hzero, Nat.add_zero] at hlength
  rwa [h.sublist.eq_of_length hlength.symm]

theorem missed (hsound : t.Sound) (hnone : ∀ row, ¬∀ e ∈ record.entries, t.Agrees row e) :
    count = 0 ∧ left.rows = t.rows := by
  have hsubset : t.rows ⊆ left.rows := fun row hrow => (h.kept row).mpr ⟨hrow, hnone row⟩
  have hlength := (List.subperm_of_subset (List.Nodup.of_map _ hsound.ids) hsubset).length_le
  have hcounted := h.counted
  exact ⟨by omega, h.sublist.eq_of_length_le hlength⟩

end Record.Clears

/-- A record of columns of a table, whose names the store reads as those columns. -/
def Record.Names (record : Record) (t : Table) : Prop :=
  ∀ e ∈ record.entries, Term.Names (quoteIdentifier e.1) e.1 ∧ t.HasColumn e.1

namespace Record.Names

variable {store : Store} {table name : String} {record : Record} {t : Table} (h : record.Names t)
include h

private theorem depth : ∀ p ∈ (matchConditions record.entries .empty).1, p.depth = 2 := by
  intro p hp
  obtain ⟨e, he, hmatch⟩ := forall₂_mem_right (matchConditions_match record.entries .empty) p hp
  unfold Request.Matches at hmatch
  split at hmatch
  · have hrelation : Relation.read "IS" = some .is := by decide
    have hnull : Term.read "NULL" = some (.constant .null) := by decide
    rw [hmatch, Predicate.depth]
    exact depth_verbatim (h e he).1 hrelation rfl ⟨_, hnull, rfl⟩
  · obtain ⟨bound, rfl, hvalue⟩ := hmatch
    have hrelation : Relation.read "=" = some .equal := by decide
    have hbound := removal_isBindName "" record (bound, e.2) ((Keyed.get?_eq_some _ _ _).mp hvalue)
    rw [Predicate.depth]
    exact depth_verbatim (h e he).1 hrelation rfl hbound.read_depth

private theorem few (name : String) : Refusal.tooDeep (.delete name
      (Reader.whereFilter (matchConditions record.entries .empty).1)) = none ↔
    record.entries.length < Refusal.maxDepth := by
  have hlength := (matchConditions_match record.entries .empty).length_eq
  rw [Refusal.tooDeep_parts h.depth rfl, ← hlength]

theorem takes_iff {row : Row} (hfits : t.Fits row) :
    record.takes t row ↔ ∀ e ∈ record.entries, t.Agrees row e := by
  refine Store.meets_iff (matchConditions_match _ _) fun e he c hmatch => ?_
  obtain ⟨hname, hcolumn⟩ := h e he
  obtain ⟨⟨a, cell⟩, hcell⟩ := Table.cell?_isSome hfits hcolumn
  have hfield := evalText_names hname (matchConditions record.entries .empty).2.entries
    (Table.find?_of_cell? hcell)
  rw [hmatch.truth (matchConditions_isBindName record.entries (List.forall_mem_nil _)) hfield]
  constructor
  · exact fun hagrees => ⟨a, cell, hcell, hagrees⟩
  · rintro ⟨a', cell', hcell', hagrees⟩
    obtain ⟨rfl, rfl⟩ := Prod.mk.inj (Option.some.inj (hcell.symm.trans hcell'))
    exact hagrees

theorem clears (hsound : t.Sound) :
    record.Clears t (record.left t) (t.rows.filter (record.takes t)).length := by
  refine ⟨List.filter_sublist, fun row => ?_, ?_⟩
  · rw [Record.left, List.mem_filter]
    refine and_congr_right fun hrow => ?_
    rw [← h.takes_iff (hsound.rows row hrow), Bool.not_eq_true', Bool.not_eq_true]
  · rw [Nat.add_comm]
    exact List.length_eq_length_filter_add _

/-- The delete is run: it leaves the rows that do not agree, and counts the others. -/
theorem execute (htable : Term.readName table = some name) (ht : store.table? name = some t)
    (hfew : record.entries.length < Refusal.maxDepth) :
    Gateway.execute Store.connection (removal table record) store =
      (.ok (t.rows.filter (record.takes t)).length, { store.withTable (record.left t) with
          changes := (t.rows.filter (record.takes t)).length }) := by
  have hreads := removal_reads htable record
  have hread : ∀ e ∈ record.entries, Reader.Known Scope.all.known (quoteIdentifier e.1) :=
    fun e he => (h e he).1.readable
  have hknown : ∀ e ∈ record.entries,
      Reader.Known (Refusal.known t.names).known (quoteIdentifier e.1) :=
    fun e he => (h e he).1.known (h e he).2 t.columns_subset_names
  have hperform : store.perform (removal table record).binds.entries
      (.delete name (Reader.whereFilter (matchConditions record.entries .empty).1)) =
        (.ok [], { store.withTable (record.left t) with
          changes := (t.rows.filter (record.takes t)).length }) := by
    rw [Store.perform, Store.onTable_eq ht, Store.delete, List.partition_eq_filter_filter]
    rfl
  refine (hreads.ran hread ((h.few name).mpr hfew) (fun sql hscope => ?_) hperform).execute
    (removal_fits .sqlite table record) (hreads.names hread)
  rw [Store.refusal, ht]
  exact hscope _ hknown

end Record.Names

/-- With as many columns as an expression can have levels the delete is refused, and so it is with
a column that the store reads as no column. -/
theorem removal_refused {table name : String} (htable : Term.readName table = some name)
    {record : Record} (h : (∃ e ∈ record.entries, Term.read (quoteIdentifier e.1) = none) ∨
      ((∃ t, record.Names t) ∧ Refusal.maxDepth ≤ record.entries.length)) (store : Store) :
    ∃ e, Gateway.execute Store.connection (removal table record) store = (.error e, store) := by
  refine (removal_reads htable record).refused ?_ store
  rcases h with ⟨e, he, hnone⟩ | ⟨⟨t, hnames⟩, hmany⟩
  · refine .inl fun hread => ?_
    obtain ⟨term, hterm, -⟩ := hread e he
    rw [hnone] at hterm
    cases hterm
  · exact .inr fun hdeep => Nat.not_lt.mpr hmany ((hnames.few name).mp hdeep)

end RecordGateway
