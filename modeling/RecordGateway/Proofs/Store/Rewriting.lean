import RecordGateway.Proofs.Store.Matching
/-!
# Rows that are rewritten

An update replaces the rows that it finds one after another.
-/
namespace RecordGateway

/-- The cells that the values of a record are stored as, under the names of the record. -/
def Record.cells (record : Record) : List (String × Cell) :=
  record.entries.map fun e => (e.1, (Cell.ofValue e.2).settle)

namespace Table

theorem Alike.eq_withRows {t u : Table} (h : t.Alike u) : u = { t with rows := u.rows } := by
  obtain ⟨name, columns, key, rows⟩ := u
  obtain ⟨rfl, rfl, rfl⟩ := h
  rfl

/-- A row takes the values of a record in its columns, and the id that a value asks for. -/
def Rewrites (t : Table) (record : Record) (row row' : Row) : Prop :=
  ∃ id, requestedId ((Store.idCell t record.cells).getD (.integer row.id)) = .ok (some id) ∧
    row' = t.image id ((t.columns.zip row.cells).map fun (c, old) =>
      (Store.lastCell record.cells c.name).getD old)

private theorem Rewrites.alike {t u : Table} (h : t.Alike u) {record : Record} {row row' : Row} :
    u.Rewrites record row row' ↔ t.Rewrites record row row' := by
  rw [h.eq_withRows]
  rfl

end Table

namespace Store

theorem termCells_given {lead : String} (hlead : IsWordText lead) {binds : Binds}
    (hnames : ∀ e ∈ binds.entries, IsBindName e.1) {record : Record}
    (hbinds : (boundOperands lead record.entries .empty).2.entries ⊆ binds.entries)
    (frame : Frame) :
    termCells binds.entries frame (givenTerms lead record) = record.cells := by
  rw [termCells, Record.cells, ← List.forall₂_eq_eq_eq]
  rw [List.forall₂_map_left_iff, List.forall₂_map_right_iff]
  refine (givenTerms_assign hlead record).flip.imp fun given e h => ?_
  obtain ⟨hfield, hmem⟩ := h
  have hbound := hbinds hmem
  obtain ⟨word, hname, hword, hne⟩ := hnames _ hbound
  have hvalue := Binds.value_eq ((binds.values.get?_eq_some given.2 e.2).mpr hbound)
  dsimp only at hname
  rw [hname] at hvalue ⊢
  rw [evalText_placeholder hword hne, Assignment.cell, hvalue, hfield]

section
variable {parameters : Assignment} {sets : List (String × String)} {current : Record}
  (hcells : ∀ frame, termCells parameters frame sets = current.cells)
include hcells

/-- Rewriting a row leaves every other row, and no other row had the id that the row gets. -/
theorem assign_rewrites {t t' : Table} {row : Row}
    (h : assign parameters sets t row = .ok t') :
    t.Alike t' ∧ ∃ row', t.Rewrites current row row' ∧ row' ∈ t'.rows ∧
      ∀ other ∈ t.rows, other.id ≠ row.id → other ∈ t'.rows ∧ other.id ≠ row'.id := by
  unfold assign at h
  simp only [hcells] at h
  have halike : t.Alike t' := by
    obtain ⟨new, -, hput⟩ := Table.replace_eq_ok h
    rw [(Table.put_eq_ok hput).1]
    exact .withRows t _
  obtain ⟨new, hid, hrows, hfree⟩ := Table.replace_rows h
  refine ⟨halike, _, ⟨new, hid, rfl⟩, (hrows _).mpr (.inl rfl), fun other hother hne => ?_⟩
  exact ⟨(hrows other).mpr (.inr ⟨hother, hne⟩), hfree other hother hne⟩

theorem assigns_rewrite (rows : List Row) {t t' : Table} (hids : (rows.map Row.id).Nodup)
    (hrows : ∀ row ∈ rows, row ∈ t.rows)
    (h : rows.foldlM (assign parameters sets) t = .ok t') : t.Alike t' ∧
      (∀ row ∈ rows, ∃ row' ∈ t'.rows, t.Rewrites current row row') ∧
      ∀ other ∈ t.rows, other.id ∉ rows.map Row.id → other ∈ t'.rows := by
  induction rows generalizing t with
  | nil =>
    obtain rfl : t = t' := Except.ok.inj h
    exact ⟨.refl t, by simp, fun other hother _ => hother⟩
  | cons row rows ih =>
    obtain ⟨hid, hids⟩ := List.nodup_cons.mp hids
    obtain ⟨-, hrest⟩ := List.forall_mem_cons.mp hrows
    rw [List.foldlM_cons] at h
    obtain ⟨next, hassign, h⟩ := except_bind_eq_ok.mp h
    obtain ⟨halike, row', himage, hmem, hothers⟩ := assign_rewrites hcells hassign
    have hapart : ∀ other ∈ rows, other.id ≠ row.id :=
      fun other hother heq => hid (List.mem_map.mpr ⟨other, hother, heq⟩)
    obtain ⟨hlast, himages, hkept⟩ := ih hids
      (fun other hother => (hothers other (hrest other hother) (hapart other hother)).1) h
    refine ⟨halike.trans hlast, List.forall_mem_cons.mpr ⟨⟨row', ?_, himage⟩, ?_⟩, ?_⟩
    · -- No row that is still to come has the id of the image.
      refine hkept row' hmem fun hlater => ?_
      obtain ⟨other, hother, heq⟩ := List.mem_map.mp hlater
      exact (hothers other (hrest other hother) (hapart other hother)).2 heq
    · intro other hother
      obtain ⟨other', hother', hrewrites⟩ := himages other hother
      exact ⟨other', hother', (Table.Rewrites.alike halike).mp hrewrites⟩
    · intro other hother hnot
      rw [List.map_cons, List.mem_cons, not_or] at hnot
      exact hkept other (hothers other hother hnot.1).1 hnot.2

/-- An update rewrites the rows that it finds, and leaves the others. -/
theorem update_rewrites {t t' : Table} (hids : (t.rows.map Row.id).Nodup) {finds : Row → Bool}
    (h : (t.rows.filter finds).foldlM (assign parameters sets) t = .ok t') : t.Alike t' ∧
      ∀ row ∈ t.rows,
        if finds row then ∃ row' ∈ t'.rows, t.Rewrites current row row' else row ∈ t'.rows := by
  have hsub : (t.rows.filter finds).Sublist t.rows := List.filter_sublist
  obtain ⟨halike, himages, hothers⟩ := assigns_rewrite hcells _ ((hsub.map Row.id).nodup hids)
    (fun row hrow => hsub.subset hrow) h
  refine ⟨halike, fun row hrow => ?_⟩
  split
  · next hfinds => exact himages row (List.mem_filter.mpr ⟨hrow, hfinds⟩)
  · next hfinds =>
    refine hothers row hrow fun hid => hfinds ?_
    obtain ⟨other, hother, heq⟩ := List.mem_map.mp hid
    obtain ⟨hmem, hfound⟩ := List.mem_filter.mp hother
    rwa [List.inj_on_of_nodup_map hids hmem hrow heq] at hfound

end

/-- The update of a gateway rewrites the rows that it finds, counts them, and leaves the others. -/
theorem Ran.updated_rows {store after : Store} (hsound : store.Sound) {table name : String}
    (htable : Term.readName table = some name) {previous current : Record} {query : Query}
    {records : List Record}
    (h : store.Ran (replacement table previous current) query records after) :
    ∃ t, store.table? name = some t ∧ after.changes = (t.rows.filter
        (meets t (replacement table previous current).binds.entries query.filter)).length ∧
      ∃ t', after.table? name = some t' ∧ ∀ row ∈ t.rows,
        if meets t (replacement table previous current).binds.entries query.filter row then
          ∃ row' ∈ t'.rows, t.Rewrites current row row'
        else row ∈ t'.rows := by
  obtain ⟨-, rfl⟩ := h.replaced htable
  have hbinds : (boundOperands "n_" current.entries .empty).2.entries ⊆
      (replacement table previous current).binds.entries := by
    rw [replacement_binds]
    exact List.subset_append_left _ _
  have hcells := termCells_given lead_new_isWordText
    (replacement_isBindName table previous current) hbinds
  obtain ⟨t, t', ht, hfold, rfl⟩ := perform_update h.performed
  obtain ⟨halike, hrows⟩ := update_rewrites hcells (hsound.table? ht).ids hfold
  exact ⟨t, ht, rfl, t', withTable_table? ht halike.name, hrows⟩

end Store
end RecordGateway
