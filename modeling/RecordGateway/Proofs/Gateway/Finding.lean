import RecordGateway.Proofs.Lists
import RecordGateway.Proofs.Session.Deeds
import RecordGateway.Proofs.Store.Selecting
/-!
# Rows that a gateway finds

A gateway over a relational store finds exactly the rows on which every filter holds when it is
taken alone: each of them once, and in the order of the orderings.
-/
namespace RecordGateway

theorem Selected.perm {t : Table} {filters filters' : List Filter} {order order' : List Ordered}
    {rows rows' : List Row} (h : Selected t filters order rows)
    (h' : Selected t filters' order' rows') (hsame : ∀ f, f ∈ filters' ↔ f ∈ filters) :
    rows'.Perm rows := by
  rw [List.perm_ext_iff_of_nodup (.of_map _ h'.once) (.of_map _ h.once)]
  intro row
  rw [h.exact, h'.exact]
  simp only [hsame]

private theorem Asked.of_same {t : Table} {filters filters' : List Filter} {order : List Ordered}
    (h : Asked t filters order) (hsame : ∀ f, f ∈ filters' ↔ f ∈ filters)
    (hfew : filters'.length ≤ filters.length ∨ filters'.length < Refusal.maxDepth) :
    Asked t filters' order := by
  exact
    { plain := ⟨fun f hf => h.plain.1 f ((hsame f).mp hf), h.plain.2⟩
      compared := fun f hf => h.compared f ((hsame f).mp hf)
      ordered := h.ordered
      few := hfew.elim (fun hle => Nat.lt_of_le_of_lt hle h.few) id }

namespace Gateway

variable {M : Type} {m : Mapping M} {g g' : Gateway M} {s s' : Shared Store}
  {filters : List Filter} {order : List Ordered} {found : List (Tracked M)} {name : String}

private theorem models_attached (models : List M) (first : Token) :
    ((track models first).map attached).map Tracked.model = models := by
  rw [List.map_map]
  exact track_models models first

theorem findAll_asked {t : Table} (hsound : t.Sound) (h : Asked t filters order) (m : Mapping M)
    (htable : Term.readName g.table = some name) (ht : s.connection.table? name = some t) :
    ∃ rows, Selected t filters order rows ∧ g.findAll Store.connection m filters order s =
      match (rows.map t.record).mapM m.read with
      | .error e => (.error (.gateway .findAll e), g, s)
      | .ok models => (.ok ((track models s.nextToken).map attached),
          kept g s models s.connection) := by
  have hfetch := h.fetchAll htable ht
  obtain ⟨rows, hrecords, hselected⟩ := h.records hsound (s.connection.indexesOf t)
  rw [hrecords] at hfetch
  refine ⟨rows, hselected, ?_⟩
  rw [findAll, hfetch]
  cases hmodels : (rows.map t.record).mapM m.read <;> simp only [hmodels, kept]

/-- The objects are the rows of a table on which every filter holds, read in the order of the
orderings. -/
def Finds (m : Mapping M) (t : Table) (filters : List Filter) (order : List Ordered)
    (found : List (Tracked M)) : Prop :=
  ∃ rows, Selected t filters order rows ∧
    (rows.map t.record).mapM m.read = .ok (found.map Tracked.model)

private theorem Finds.perm {t : Table} {filters' : List Filter} {order' : List Ordered}
    {found' : List (Tracked M)} (h : Finds m t filters order found)
    (h' : Finds m t filters' order' found') (hsame : ∀ f, f ∈ filters' ↔ f ∈ filters) :
    (found'.map Tracked.model).Perm (found.map Tracked.model) := by
  obtain ⟨rows, hselected, hmodels⟩ := h
  obtain ⟨rows', hselected', hmodels'⟩ := h'
  obtain ⟨models, hread, hperm⟩ := mapM_perm hmodels
    ((hselected.perm hselected' hsame).map t.record)
  rw [hmodels'] at hread
  rwa [Except.ok.inj hread]

theorem findAll_found {t : Table} (hsound : t.Sound) (htable : Term.readName g.table = some name)
    (ht : s.connection.table? name = some t)
    (hfilters : ∀ f ∈ filters, Term.IsPlain f.field ∧ f.Compares t)
    (horder : ∀ o ∈ order, Term.IsPlain o.field ∧ t.HasColumn o.field)
    (hread : g.findAll Store.connection m filters order s = (.ok found, g', s')) :
    Asked t filters order ∧ Finds m t filters order found ∧ s'.connection = s.connection := by
  have hasked : Asked t filters order := by
    unfold findAll at hread
    split at hread
    · cases hread
    · next hfetch =>
      obtain ⟨query, hran⟩ :=
        Store.fetchAll_ran (selection_fits .sqlite g.table filters order) hfetch
      exact hran.asked htable hfilters horder
  obtain ⟨rows, hselected, hall⟩ := findAll_asked hsound hasked m htable ht
  rw [hall] at hread
  cases hmodels : (rows.map t.record).mapM m.read with
  | error e =>
    rw [hmodels] at hread
    cases hread
  | ok models =>
    rw [hmodels] at hread
    cases hread
    exact ⟨hasked, ⟨rows, hselected, by rw [hmodels, models_attached]⟩, rfl⟩

/-- Filters with the members of those that were read by are read by as well. -/
theorem findAll_again {t : Table} {filters' : List Filter} (hsound : t.Sound)
    (htable : Term.readName g.table = some name) (ht : s.connection.table? name = some t)
    (hasked : Asked t filters' order) (hsame : ∀ f, f ∈ filters' ↔ f ∈ filters)
    (hfinds : Finds m t filters order found) :
    ∃ found' g'' s'', g.findAll Store.connection m filters' order s = (.ok found', g'', s'') := by
  obtain ⟨rows, hselected, hmodels⟩ := hfinds
  obtain ⟨rows', hselected', hall⟩ := findAll_asked hsound hasked m htable ht
  obtain ⟨models, hread, -⟩ := mapM_perm hmodels ((hselected.perm hselected' hsame).map t.record)
  rw [hread] at hall
  exact ⟨_, _, _, hall⟩

def levels : Table :=
  ⟨"levels", [⟨"k", "INT", false⟩], none,
    [⟨1, [.integer 1]⟩, ⟨2, [.integer 7]⟩, ⟨3, [.integer 3]⟩, ⟨4, [.null]⟩]⟩

def levelStore : Store := ⟨[levels], [], 4, 1⟩

/-- From one on and below five, the second bound as a text. -/
def levelRange : List Filter := [⟨"k", ">=", .integer 1⟩, ⟨"k", "<", .text "5"⟩]

def level (k : Int64) : Record := .ofList [("k", .integer k)]

example : (selection "levels" levelRange []).binds.entries =
    [(":k", .integer 1), (":k_2", .text "5")] := by decide +kernel

example : (selection "levels" levelRange.reverse []).binds.entries =
    [(":k", .text "5"), (":k_2", .integer 1)] := by decide +kernel

private theorem levelStore_sound : levelStore.Sound := by
  intro t ht
  obtain rfl := List.mem_singleton.mp ht
  have haffinity : Column.affinity ⟨"k", "INT", false⟩ ≠ .text := by decide
  have hcells : ∀ row ∈ levels.rows, row.cells = [row.cells.headD .null] ∧
      (row.cells.headD .null).settle = row.cells.headD .null ∧
      (row.cells.headD .null).rank ≠ 2 := by decide
  refine ⟨by simp [levels], by simp [levels], by decide, fun row hrow => ?_⟩
  obtain ⟨hcell, hsettled, hrank⟩ := hcells row hrow
  generalize row.cells.headD .null = cell at hcell hsettled hrank
  refine ⟨by rw [hcell]; rfl, fun c other hmem => ?_⟩
  rw [hcell] at hmem
  obtain ⟨rfl, rfl⟩ := Prod.mk.inj (List.mem_singleton.mp hmem)
  exact ⟨hsettled, Affinity.rules.number haffinity hrank⟩

private theorem levelRange_fetched :
    fetchAll Store.connection (selection "levels" levelRange [⟨"k", .ascending⟩]) levelStore =
      (.ok [level 1, level 3], levelStore) := by
  have hread : Term.Names "k" "k" := .inl (by decide)
  have hcolumn : levels.HasColumn "k" := ⟨_, List.mem_singleton_self _, by decide⟩
  have hasked : Asked levels levelRange [⟨"k", .ascending⟩] := by
    refine ⟨by decide, ?_, by simpa using ⟨hread, hcolumn⟩, by decide⟩
    simp only [levelRange, List.forall_mem_cons]
    exact ⟨⟨hread, hcolumn, rfl⟩, ⟨hread, hcolumn, rfl⟩, by simp⟩
  let binds := (filterConditions levelRange .empty).2.entries
  let q := wholeRows levelRange [⟨"k", .ascending⟩]
  let passing : List Frame := [levels.frame ⟨1, [.integer 1]⟩, levels.frame ⟨3, [.integer 3]⟩]
  have hrecords : Selection.records levels [] binds q = [level 1, level 3] := by
    have hpassing : ((Selection.foundRows levels [] binds q).map levels.frame).filter (fun frame =>
        passes binds q.filter (Selection.filterFrame binds q.items frame)) = passing := by
      decide +kernel
    have hsorted : (passing.mergeSort fun a b =>
        Selection.compareBy levels binds q.items q.order a b != .gt) = passing :=
      List.mergeSort_of_pairwise (by decide +kernel)
    rw [Selection.records, Selection.frames]
    simp only [hpassing, hsorted]
    decide +kernel
  have hindexes : levelStore.indexesOf levels = [] := rfl
  have htable : Term.readName "levels" = some "levels" := by decide
  rw [hasked.fetchAll htable (by decide), hindexes]
  exact congrArg (fun records => (Except.ok records, levelStore)) hrecords

private theorem findAll_levels :
    findAll Store.connection (.ofColumns [("k", .int64)]) (overTable "levels")
    levelRange [⟨"k", .ascending⟩] ⟨levelStore, 1⟩ =
      (.ok [⟨some 1, level 1⟩, ⟨some 2, level 3⟩], ⟨"levels", [(1, level 1), (2, level 3)]⟩,
        ⟨levelStore, 3⟩) := by
  have hmodels : [level 1, level 3].mapM (Mapping.ofColumns [("k", .int64)]).read =
      .ok [level 1, level 3] := rfl
  rw [findAll]
  simp only [overTable, levelRange_fetched, hmodels]
  rfl

end Gateway
end RecordGateway
