import RecordGateway.Proofs.Store.Queries
/-!
# Rows that are selected

A selection of whole rows, whatever it filters and orders by, gives records of rows of the table
and changes nothing.
-/
namespace RecordGateway

namespace Table

/-- Every column with the value of its cell. -/
def record (t : Table) (row : Row) : Record :=
  Keyed.ofList ((t.columns.zip row.cells).map fun (c, cell) => (c.name, cell.toValue))

private theorem find?_zip {name : String} {c : Column} {cell : Cell}
    (hname : Text.lower c.name = Text.lower name) :
    ∀ {columns : List Column} {cells : List Cell},
      (columns.map fun c => Text.lower c.name).Nodup → (c, cell) ∈ columns.zip cells →
        Frame.find? ((columns.zip cells).map fun (c, cell) => (c.name, c.affinity, cell)) name =
          some (c.affinity, cell) := by
  intro columns
  induction columns with
  | nil => intro cells _ hmem; simp at hmem
  | cons d columns ih =>
    intro cells hnodup hmem
    obtain ⟨hd, hrest⟩ := List.nodup_cons.mp hnodup
    cases cells with
    | nil => simp at hmem
    | cons first cells =>
      rw [List.zip_cons_cons, List.map_cons, Frame.find?, List.find?_cons]
      rcases List.mem_cons.mp hmem with heq | hmem
      · obtain ⟨rfl, rfl⟩ := Prod.mk.inj heq
        simp only [Text.sameName_iff.mpr hname, Option.map_some]
      · have hother : Text.sameName d.name name = false := by
          rw [Bool.eq_false_iff, Ne, Text.sameName_iff, ← hname]
          intro h
          exact hd (List.mem_map.mpr ⟨c, (List.of_mem_zip hmem).1, h.symm⟩)
        simp only [hother]
        exact ih hrest hmem

theorem frame_find? {t : Table} (hsound : t.Sound) {row : Row} {c : Column} {cell : Cell}
    (hmem : (c, cell) ∈ t.columns.zip row.cells) {name : String}
    (hname : Text.lower c.name = Text.lower name) :
    (t.frame row).find? name = some (c.affinity, cell) := by
  have hfind := find?_zip hname hsound.names hmem
  rw [Frame.find?] at hfind ⊢
  obtain ⟨e, he, hentry⟩ := Option.map_eq_some_iff.mp hfind
  simp only [frame, List.append_assoc, List.find?_append, he, Option.some_or,
    Option.map_some, hentry]

end Table

namespace Selection

private theorem cut_subset {α : Type} (window : Option Window) (rows : List α) :
    cut window rows ⊆ rows := by
  cases window with
  | none => exact fun _ h => h
  | some w => exact fun _ h => List.mem_of_mem_drop (List.mem_of_mem_take h)

/-- A search comes to the rows of the table in some order, to each of them once. -/
theorem foundRows_perm (t : Table) (indexes : List Index) (parameters : Assignment)
    (q : Selection) : (foundRows t indexes parameters q).Perm t.rows :=
  Search.arrange_perm _ _ _ _ _

theorem mem_frames {t : Table} {indexes : List Index} {parameters : Assignment} {q : Selection}
    {frame : Frame} (h : frame ∈ frames t indexes parameters q) :
    ∃ row ∈ t.rows, frame = t.frame row := by
  have hpassing : frame ∈ (foundRows t indexes parameters q).map t.frame := by
    have hsorted := cut_subset q.window _ h
    split at hsorted
    · exact (List.mem_filter.mp hsorted).1
    · exact (List.mem_filter.mp ((List.mergeSort_perm _ _).mem_iff.mp hsorted)).1
  obtain ⟨row, hrow, rfl⟩ := List.mem_map.mp hpassing
  exact ⟨row, (foundRows_perm _ _ _ _).mem_iff.mp hrow, rfl⟩

theorem record_whole {t : Table} (hsound : t.Sound) {row : Row} (hrow : row ∈ t.rows)
    (parameters : Assignment) :
    record (selectList t parameters [⟨"*", none⟩]) (t.frame row) = t.record row := by
  have hlist : selectList t parameters [⟨"*", none⟩] =
      t.columns.map fun c => ⟨c.name, fun frame => ((frame.find? c.name).getD (.blob, .null)).2⟩ :=
    List.append_nil _
  have hzip : (t.columns.zip row.cells).map Prod.fst = t.columns :=
    List.map_fst_zip (Nat.le_of_eq (hsound.rows row hrow).width.symm)
  rw [record, Table.record, hlist, List.map_map]
  congr 1
  conv_lhs => rw [← hzip, List.map_map]
  refine List.map_congr_left fun ⟨c, cell⟩ hmem => ?_
  simp only [Function.comp_apply, Table.frame_find? hsound hmem rfl, Option.getD_some]

end Selection

namespace Store

/-- What a gateway's selection gives are records of rows of its table, and it changes nothing. -/
theorem Ran.selected {store after : Store} (hsound : store.Sound) {table name : String}
    (htable : Term.readName table = some name) {filters : List Filter} {order : List Ordered}
    {query : Query} {records : List Record}
    (h : store.Ran (selection table filters order) query records after) : after = store ∧
      ∃ t, store.table? name = some t ∧
        ∀ record ∈ records, ∃ row ∈ t.rows, record = t.record row := by
  obtain ⟨compiled, hcompile, hunderstand⟩ := h.understood
  rw [selection_compile] at hcompile
  obtain rfl := Except.ok.inj hcompile
  obtain ⟨filter, ordering, window, rfl⟩ := Reader.source_read .all htable
    (selection_resumes table filters order) (understand_eq_ok.mp hunderstand).1
  obtain ⟨t, ht, rfl, rfl⟩ := perform_select h.performed
  refine ⟨rfl, t, ht, fun record hrecord => ?_⟩
  obtain ⟨frame, hframe, rfl⟩ := List.mem_map.mp hrecord
  obtain ⟨row, hrow, rfl⟩ := Selection.mem_frames hframe
  exact ⟨row, hrow, Selection.record_whole (hsound.table? ht) hrow _⟩

end Store
end RecordGateway
