import RecordGateway.Proofs.Store.Preparing
/-! # Selections that the store runs -/
namespace RecordGateway

/-- Filters and orderings that name columns of a table as the store reads them, and no more
filters than an expression can have levels. -/
structure Asked (t : Table) (filters : List Filter) (order : List Ordered) : Prop where
  plain : (∀ f ∈ filters, isPlainIdentifier f.field.toList = true) ∧
    ∀ o ∈ order, isPlainIdentifier o.field.toList = true
  compared : ∀ f ∈ filters, Term.Names f.field f.field ∧ f.Compares t
  ordered : ∀ o ∈ order, Term.Names o.field o.field ∧ t.HasColumn o.field
  few : filters.length < Refusal.maxDepth

/-- What is read in the text of a selection. -/
def wholeRows (filters : List Filter) (order : List Ordered) : Selection :=
  ⟨[⟨"*", none⟩], Reader.whereFilter (filterConditions filters .empty).1, order, none⟩

private theorem Filter.Compares.relation_mem {t : Table} {f : Filter} (h : f.Compares t) :
    f.relation ∈ Reader.comparisonWords := by
  have hall : ∀ e ∈ comparisons, e.1 ∈ Reader.comparisonWords := by decide
  obtain ⟨relation, hlookup⟩ := Option.isSome_iff_exists.mp h.relation
  obtain ⟨before, later, heq, -⟩ := List.lookup_eq_some_iff.mp hlookup
  exact hall (f.relation, relation) (by simp [heq])

section
variable {store after : Store} {table name : String} {t : Table} {filters : List Filter}
  {order : List Ordered}

private theorem compared_reads (htable : Term.readName table = some name)
    (hplain : (∀ f ∈ filters, isPlainIdentifier f.field.toList = true) ∧
      ∀ o ∈ order, isPlainIdentifier o.field.toList = true)
    (hcompares : ∀ f ∈ filters, f.Compares t) :
    (selection table filters order).Reads
      (fun scope => (∀ f ∈ filters, Reader.Known scope.known f.field) ∧
        ∀ o ∈ order, Reader.Known scope.known o.field)
      (.select name none (wholeRows filters order)) :=
  selection_reads htable hplain.1 (fun f hf => (hcompares f hf).relation_mem) hplain.2

private theorem compared_depth (h : ∀ f ∈ filters, Term.Names f.field f.field ∧ f.Compares t) :
    ∀ p ∈ (filterConditions filters .empty).1, p.depth = 2 := by
  intro p hp
  obtain ⟨f, hf, name, rfl, hvalue⟩ := filterConditions_condition hp
  obtain ⟨relation, hlookup⟩ := Option.isSome_iff_exists.mp (h f hf).2.relation
  obtain ⟨hrelation, hpattern⟩ := read_comparison hlookup
  have hname := filterConditions_isBindName (fun f hf => (h f hf).1.ne_empty) (name, f.value)
    ((Keyed.get?_eq_some _ _ _).mp hvalue)
  rw [Predicate.depth]
  exact depth_verbatim (h f hf).1 hrelation hpattern hname.read_depth

private theorem compared_few (h : ∀ f ∈ filters, Term.Names f.field f.field ∧ f.Compares t) :
    Refusal.tooDeep (.select name none (wholeRows filters order)) = none ↔
      filters.length < Refusal.maxDepth := by
  have hlength := (filterConditions_restrict filters .empty).length_eq
  rw [Refusal.tooDeep_parts (compared_depth h) rfl, ← hlength]

/-- The selection is prepared and run, and changes nothing. -/
theorem Asked.fetchAll (h : Asked t filters order) (htable : Term.readName table = some name)
    (ht : store.table? name = some t) :
    Gateway.fetchAll Store.connection (selection table filters order) store =
      (.ok (Selection.records t (store.indexesOf t) (filterConditions filters .empty).2.entries
        (wholeRows filters order)), store) := by
  have hreads := compared_reads htable h.plain fun f hf => (h.compared f hf).2
  have hknown (names : List String) (hnames : t.columns.map Column.name ⊆ names) :
      (∀ f ∈ filters, Reader.Known (Refusal.known names).known f.field) ∧
        ∀ o ∈ order, Reader.Known (Refusal.known names).known o.field :=
    ⟨fun f hf => (h.compared f hf).1.known (h.compared f hf).2.column hnames,
      fun o ho => (h.ordered o ho).1.known (h.ordered o ho).2 hnames⟩
  have hread : (∀ f ∈ filters, Reader.Known Scope.all.known f.field) ∧
      ∀ o ∈ order, Reader.Known Scope.all.known o.field :=
    ⟨fun f hf => (h.compared f hf).1.readable, fun o ho => (h.ordered o ho).1.readable⟩
  refine (hreads.ran hread ((compared_few h.compared).mpr h.few) (fun sql hscope => ?_) ?_).fetchAll
    (selection_fits .sqlite table filters order) (hreads.names hread)
  · rw [Store.refusal, ht]
    exact hscope _ (hknown _ (List.subset_append_of_subset_left _ t.columns_subset_names))
  · exact Store.onTable_eq ht _

end

/-- Rows of a table that are exactly those on which every filter, taken alone, holds: each of
them once, and in the order of the orderings. -/
structure Selected (t : Table) (filters : List Filter) (order : List Ordered) (rows : List Row) :
    Prop where
  exact : ∀ row, row ∈ rows ↔ row ∈ t.rows ∧ ∀ f ∈ filters, f.holds t row
  once : (rows.map Row.id).Nodup
  sorted : rows.Pairwise fun a b => lexicographic t order a b ≠ .gt

/-- What a selection gives are the records of the selected rows. -/
theorem Asked.records {t : Table} (hsound : t.Sound) {filters : List Filter} {order : List Ordered}
    (h : Asked t filters order) (indexes : List Index) : ∃ rows : List Row,
      Selection.records t indexes (filterConditions filters .empty).2.entries
        (wholeRows filters order) = rows.map t.record ∧
      Selected t filters order rows := by
  obtain ⟨rows, hframes, hperm, hsorted⟩ := Selection.frames_ordered
    (t := t) (q := wholeRows filters order) rfl indexes (filterConditions filters .empty).2.entries
  have hrow : ∀ row ∈ rows, row ∈ t.rows := by
    intro row hrow
    exact (List.mem_filter.mp (hperm.mem_iff.mp hrow)).1
  refine ⟨rows, ?_, ?_, ?_, ?_⟩
  · rw [Selection.records, hframes, List.map_map]
    refine List.map_congr_left fun row hmem => ?_
    exact Selection.record_whole hsound (hrow row hmem) _
  · intro row
    rw [hperm.mem_iff, List.mem_filter]
    refine and_congr_right fun hmem => ?_
    have hframe : Selection.filterFrame (filterConditions filters .empty).2.entries
        (wholeRows filters order).items (t.frame row) = t.frame row :=
      List.append_nil _
    rw [hframe]
    exact passes_filters (hsound.rows row hmem) h.compared
  · exact (hperm.map Row.id).nodup_iff.mpr ((List.filter_sublist.map Row.id).nodup hsound.ids)
  · refine hsorted.imp_of_mem fun {a b} ha hb hab => ?_
    have horder := Selection.compareBy_lexicographic (hsound.rows a (hrow a ha))
      (hsound.rows b (hrow b hb)) (filterConditions filters .empty).2.entries h.ordered
    exact horder ▸ hab

/-- A selection by plain names of columns that the store has run is one that it asks no more of:
the names are read, and the filters are not too many. -/
theorem Store.Ran.asked {store after : Store} {table name : String} {t : Table}
    {filters : List Filter} {order : List Ordered} {query : Query} {records : List Record}
    (htable : Term.readName table = some name)
    (h : store.Ran (selection table filters order) query records after)
    (hfilters : ∀ f ∈ filters, Term.IsPlain f.field ∧ f.Compares t)
    (horder : ∀ o ∈ order, Term.IsPlain o.field ∧ t.HasColumn o.field) : Asked t filters order := by
  have hplain : (∀ f ∈ filters, isPlainIdentifier f.field.toList = true) ∧
      ∀ o ∈ order, isPlainIdentifier o.field.toList = true :=
    ⟨fun f hf => (hfilters f hf).1.identifier, fun o ho => (horder o ho).1.identifier⟩
  obtain ⟨⟨hknown, hordered⟩, -, hdeep⟩ :=
    (compared_reads htable hplain fun f hf => (hfilters f hf).2).of_ran h
  have hnames {field : String} (hfield : Term.IsPlain field)
      (hread : Reader.Known Scope.all.known field) : Term.Names field field := by
    obtain ⟨term, hterm, -⟩ := hread
    exact hfield.names (Option.isSome_iff_exists.mpr ⟨term, hterm⟩)
  have hcompared : ∀ f ∈ filters, Term.Names f.field f.field ∧ f.Compares t :=
    fun f hf => ⟨hnames (hfilters f hf).1 (hknown f hf), (hfilters f hf).2⟩
  exact
    { plain := hplain
      compared := hcompared
      ordered := fun o ho => ⟨hnames (horder o ho).1 (hordered o ho), (horder o ho).2⟩
      few := (compared_few hcompared).mp hdeep }

end RecordGateway
