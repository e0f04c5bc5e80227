import RecordGateway.Proofs.Statement.Filling
import RecordGateway.Proofs.Store.Inserting
import RecordGateway.Proofs.Store.Ordering
import RecordGateway.Proofs.Store.Preparing
import RecordGateway.Proofs.Store.Selections
/-!
# Columns under aliases

A select list keeps its aliases apart, and a result column goes by its alias whether it is written
or left out because the expression says the same.
-/
namespace RecordGateway

/-! ## Names of result columns -/

private theorem toLower_eq_point {c : Char} (h : c.toLower = '.') : c = '.' := by
  unfold Char.toLower at h
  split at h
  · next hrange =>
    have hlow : 65 ≤ c.toNat := hrange.1
    have hhigh : c.toNat ≤ 90 := hrange.2
    have hraised : (c.toNat + 32) % 2 ^ 32 = 46 := congrArg Char.toNat h
    omega
  · exact h

namespace Term

theorem Names.eq_of_plain {text name : String} (h : Names text name)
    (hplain : isPlainIdentifier text.toList = true) : name = text := by
  rw [Names, read_plain hplain, readWord, String.ofList_toList] at h
  split at h
  · rcases h with h | ⟨cell, h⟩ <;> cases h
  · rcases h with h | ⟨cell, h⟩ <;> cases h
    rfl
  · rcases h with h | ⟨cell, h⟩ <;> cases h
    rfl
  · split at h
    · rcases h with h | ⟨cell, h⟩ <;> cases h
    · split at h
      · rcases h with h | ⟨cell, h⟩ <;> cases h
      · rcases h with h | ⟨cell, h⟩ <;> cases readColumn_plain hplain h
        rfl

private theorem Names.ne_star {text name : String} (h : Names text name) : text ≠ "*" := by
  have hstar : read "*" = none := by decide
  rintro rfl
  rcases h with h | ⟨cell, h⟩ <;> cases hstar.symm.trans h

theorem Names.trimmed {text name : String} (h : Names text name) :
    Names (Text.trimAscii text) name := by
  unfold Names read at h ⊢
  rwa [Text.trimAscii_trimAscii]

end Term

namespace Table

theorem ownName_plain (t : Table) {name : String} (hplain : isPlainIdentifier name.toList = true) :
    t.ownName name = name := by
  have hchars := plainIdentifier_wordChars hplain
  rw [ownName, if_neg]
  intro hsame
  have hpoint : '.' ∈ (t.qualified "").toList.map Char.toLower := by
    refine List.mem_map.mpr ⟨'.', ?_, by decide⟩
    simp [qualified, String.toList_append]
  have hlower := congrArg String.toList (Text.sameName_iff.mp hsame)
  rw [Text.lower, Text.lower, String.toList_ofList, String.toList_ofList, String.toList_ofList]
    at hlower
  rw [← hlower] at hpoint
  obtain ⟨c, hc, hlow⟩ := List.mem_map.mp hpoint
  obtain rfl := toLower_eq_point hlow
  exact absurd (hchars '.' (List.mem_of_mem_take hc)) (by decide)

theorem properName?_column {t : Table} (hsound : t.Sound) {c : Column} (hc : c ∈ t.columns)
    (hplain : isPlainIdentifier c.name.toList = true) : t.properName? c.name = some c.name := by
  have hunique {d : Column} (hd : d ∈ t.columns) (hsame : Text.sameName d.name c.name) : d = c :=
    List.inj_on_of_nodup_map hsound.names hd hc (Text.sameName_iff.mp hsame)
  have hself : Text.sameName c.name c.name := Text.sameName_iff.mpr rfl
  unfold properName?
  simp only [t.ownName_plain hplain]
  split
  · next hid =>
    cases hposition : t.position? c.name with
    | none =>
      have hnone := List.findIdx?_eq_none_iff.mp hposition c hc
      exact absurd hself (by rw [hnone]; decide)
    | some i =>
      rw [namesId, hposition] at hid
      obtain ⟨hlt, hsame, -⟩ := List.findIdx?_eq_some_iff_getElem.mp hposition
      have hcolumn : t.columns[i]? = some c := by
        rw [List.getElem?_eq_getElem hlt, hunique (List.getElem_mem hlt) hsame]
      rw [keyName, beq_iff_eq.mp hid, Option.bind_some, hcolumn]
      rfl
  · obtain ⟨d, hfind, hd, hsame⟩ :=
      exists_find? (p := fun d : Column => Text.sameName d.name c.name) hc hself
    rw [hfind, hunique hd hsame]
    rfl

end Table

/-- How result columns are called: as the select list says, else as the column that they show. -/
structure NamingRules (name : Table → Item → String) : Prop where
  given (t : Table) {item : Item} {label : String} : item.given = some label → name t item = label
  column {t : Table} {item : Item} {c : Column} : t.Sound → c ∈ t.columns →
    isPlainIdentifier c.name.toList = true → item.given = none →
      Term.Names item.expression c.name → name t item = c.name

namespace Selection

private theorem namingRules :
    NamingRules fun t item => item.given.getD (impliedName t item.expression) where
  given t item label h := by rw [h, Option.getD_some]
  column {t item c} hsound hc hplain hgiven hnames := by
    have hproper := Table.properName?_column hsound hc hplain
    rw [hgiven, Option.getD_none, impliedName]
    rcases hnames with h | ⟨cell, h⟩ <;> rw [h] <;> simp only [hproper, Option.getD_some]

/-- An entry of a select list that reads a column of the table by its name, under a plain alias. -/
structure Aliased (t : Table) (entry : String × String) : Prop where
  plain : isPlainIdentifier entry.1.toList = true
  column : ∃ c ∈ t.columns, Term.Names entry.2 c.name ∧ Term.readName entry.2 = some c.name

section
variable {t : Table} {entry : String × String}

theorem Aliased.outputs (hsound : t.Sound) (h : Aliased t entry) (parameters : Assignment) :
    outputs t parameters (Reader.readItem entry) =
      [⟨entry.1, fun frame => (evalText parameters frame (Text.trimAscii entry.2)).2⟩] := by
  obtain ⟨label, expression⟩ := entry
  obtain ⟨hplain, c, hc, hnames, -⟩ := h
  have hstar : (Reader.readItem (label, expression)).isStar = false :=
    beq_eq_false_iff_ne.mpr hnames.trimmed.ne_star
  have hname : (Reader.readItem (label, expression)).given.getD
      (impliedName t (Reader.readItem (label, expression)).expression) = label := by
    by_cases heq : label = expression
    · subst heq
      obtain rfl := hnames.eq_of_plain hplain
      exact namingRules.column hsound hc hplain (if_pos rfl) hnames.trimmed
    · exact namingRules.given t (if_neg heq)
  simp only [Selection.outputs, hstar, Bool.false_eq_true, if_false]
  exact congrArg (fun name => [Output.mk name _]) hname

private theorem selectList_aliased (hsound : t.Sound) {entries : List (String × String)}
    (h : ∀ entry ∈ entries, Aliased t entry) (parameters : Assignment) :
    selectList t parameters (entries.map Reader.readItem) = entries.map fun entry =>
      ⟨entry.1, fun frame => (evalText parameters frame (Text.trimAscii entry.2)).2⟩ := by
  induction entries with
  | nil => rfl
  | cons entry entries ih =>
    obtain ⟨hentry, hrest⟩ := List.forall_mem_cons.mp h
    have hlist : selectList t parameters ((entry :: entries).map Reader.readItem) =
        outputs t parameters (Reader.readItem entry) ++
          selectList t parameters (entries.map Reader.readItem) := rfl
    rw [hlist, hentry.outputs hsound, ih hrest]
    rfl

theorem Aliased.cell (hsound : t.Sound) {row : Row} (hrow : row ∈ t.rows) (h : Aliased t entry)
    (parameters : Assignment) : ∃ c cell, (c, cell) ∈ t.columns.zip row.cells ∧
      Term.Names entry.2 c.name ∧
      (evalText parameters (t.frame row) (Text.trimAscii entry.2)).2 = cell := by
  obtain ⟨-, c, hc, hnames, -⟩ := h
  have hzip : (t.columns.zip row.cells).map Prod.fst = t.columns :=
    List.map_fst_zip (Nat.le_of_eq (hsound.rows row hrow).width.symm)
  rw [← hzip] at hc
  obtain ⟨⟨c, cell⟩, hmem, rfl⟩ := List.mem_map.mp hc
  refine ⟨c, cell, hmem, hnames, ?_⟩
  rw [evalText_names hnames.trimmed parameters (Table.frame_find? hsound hmem rfl)]

end

/-- A record has the aliases of a select list in their order, and under each of them the cell of
the column that was selected last under it. -/
structure Shows (t : Table) (fields : Keyed String) (selected : List (String × String)) (row : Row)
    (record : Record) : Prop where
  keys : record.keys = fields.keys
  values : ∀ label expression, IsLast selected label expression →
    ∃ c cell, (c, cell) ∈ t.columns.zip row.cells ∧ Term.Names expression c.name ∧
      record.get? label = some cell.toValue

private theorem record_shows {t : Table} (hsound : t.Sound) {row : Row} (hrow : row ∈ t.rows)
    {fields : Keyed String} {selected : List (String × String)}
    (hcollects : fields.Collects selected) (h : ∀ entry ∈ selected, Aliased t entry)
    (parameters : Assignment) :
    Shows t fields selected row
      (record (selectList t parameters (fields.entries.map Reader.readItem)) (t.frame row)) := by
  have haliased : ∀ entry ∈ fields.entries, Aliased t entry := fun entry hentry =>
    h entry (hcollects.subset hentry)
  let shown (entry : String × String) : String × Value :=
    (entry.1, (evalText parameters (t.frame row) (Text.trimAscii entry.2)).2.toValue)
  have hnames : (fields.entries.map shown).map Prod.fst = fields.keys := by
    rw [List.map_map]
    rfl
  have hdistinct : ((fields.entries.map shown).map Prod.fst).Nodup := by
    rw [hnames]
    exact fields.distinct
  have hlist : (selectList t parameters (fields.entries.map Reader.readItem)).map
      (fun o => (o.name, (o.cell (t.frame row)).toValue)) = fields.entries.map shown := by
    rw [selectList_aliased hsound haliased, List.map_map]
    simp only [Function.comp_def]
    rfl
  have hentries : (record (selectList t parameters (fields.entries.map Reader.readItem))
      (t.frame row)).entries = fields.entries.map shown := by
    rw [record, hlist, Keyed.entries_ofList _ hdistinct]
  refine ⟨by rw [Keyed.keys, hentries, hnames], fun label expression hlast => ?_⟩
  have hentry := (hcollects.entries label expression).mpr hlast
  obtain ⟨c, cell, hmem, hcolumn, hcell⟩ := (haliased _ hentry).cell hsound hrow parameters
  refine ⟨c, cell, hmem, hcolumn, ?_⟩
  rw [Keyed.get?_eq_some, hentries, ← hcell]
  exact List.mem_map.mpr ⟨_, hentry, rfl⟩

end Selection

/-! ## Statements of selections alone -/

namespace Statement

/-- Nothing but kind, table and select list is filled. -/
structure OnlySelects (s : Statement) : Prop where
  joins : s.joins = []
  filter : s.filter = none
  having : s.having = none
  groupBy : s.groupBy = []
  order : s.order = []
  limit : s.limit = none

private theorem OnlySelects.startAs {s : Statement} (h : s.OnlySelects) (verb : Verb)
    (table : Option String) : ((startAs verb table).on s).2.OnlySelects := by
  have hstarts := startAs_starts verb table s
  generalize (Statement.startAs verb table).on s = result at hstarts
  cases hstarts with
  | otherKind => exact h
  | secondTable => exact h
  | started => exact ⟨h.joins, h.filter, h.having, h.groupBy, h.order, h.limit⟩

private theorem OnlySelects.selectAs {s : Statement} (h : s.OnlySelects)
    (expression label : String) :
    ((selectAs expression label).on s).2.OnlySelects := by
  have hstarted := h.startAs .select none
  rw [Statement.selectAs, Change.on_bind]
  generalize (Statement.startAs .select none).on s = result at hstarted
  obtain ⟨outcome, between⟩ := result
  cases outcome with
  | error e => exact hstarted
  | ok => exact ⟨hstarted.joins, hstarted.filter, hstarted.having, hstarted.groupBy,
      hstarted.order, hstarted.limit⟩

end Statement

namespace Call

/-- The call names the table or adds to the select list. -/
def Selecting (call : Call) : Prop := IsSource call ∨ (selection? call).isSome

private theorem run_onlySelects {calls : List Call} (h : ∀ call ∈ calls, Selecting call) :
    (run calls).OnlySelects := by
  have hfold (s : Statement) (hs : s.OnlySelects) : (calls.foldl after s).OnlySelects := by
    induction calls generalizing s with
    | nil => exact hs
    | cons call calls ih =>
      obtain ⟨hcall, hrest⟩ := List.forall_mem_cons.mp h
      refine ih hrest _ ?_
      rcases hcall with ⟨table, rfl⟩ | hselection
      · exact hs.startAs .source (some table)
      · obtain ⟨⟨label, expression⟩, hentry⟩ := Option.isSome_iff_exists.mp hselection
        rw [after, selection_apply hentry]
        exact hs.selectAs expression label
  exact hfold .empty ⟨rfl, rfl, rfl, rfl, rfl, rfl⟩

end Call

namespace Statement

private theorem fieldTemplate_text {s : Statement} (hne : s.fields.isEmpty = false) :
    s.fieldTemplate.inline = String.intercalate ", " (s.fields.entries.map Reader.itemText) := by
  rw [fieldTemplate, hne, if_neg Bool.false_ne_true, Template.inline_intercalate, List.map_map]
  congr 1
  refine List.map_congr_left fun ⟨label, expression⟩ _ => ?_
  by_cases heq : label = expression
  · simp [Reader.itemText, heq, Template.inline, Template.write]
  · simp [Reader.itemText, heq, Template.inline, Template.write, String.append_assoc]

namespace OnlySelects

variable {s : Statement} (h : s.OnlySelects)
include h

private theorem template {table : String} (hkind : s.kind = some .select)
    (htable : s.table = some table)
    (d : Dialect) : s.template d =
      .ok (.text "SELECT " :: s.fieldTemplate ++ [.text (" FROM " ++ table)]) := by
  simp only [Statement.template, hkind, selectTemplate, requireTable, htable, joinTemplate, h.joins,
    filterTemplate, h.filter, h.having, clause, groupTemplate, h.groupBy, orderTemplate, h.order,
    limitTemplate, h.limit, List.flatMap_nil, List.isEmpty_nil, if_true, List.append_nil]
  rfl

private theorem fits (hkind : s.kind = some .select) : Request.Fits .sqlite ⟨s, .empty⟩ := by
  refine .of_places [] ?_ rfl
  have hoperands : s.operands .sqlite = [] := by
    simp only [operands, hkind, h.joins, h.filter, h.having, rootOperands, List.flatMap_nil,
      List.append_nil]
  rw [hoperands]
  exact .nil

end OnlySelects
end Statement

namespace Statement.OnlySelects

variable {s : Statement} (h : s.OnlySelects) (hkind : s.kind = some .select)
  {table name : String} (htable : s.table = some table) (hname : Term.readName table = some name)
  (hne : s.fields.isEmpty = false) {t : Table}
  (haliased : ∀ entry ∈ s.fields.entries, Selection.Aliased t entry)
include h hkind htable hname hne haliased

/-- The text of a select list is read as its entries, each under its alias. -/
theorem reads : Request.Reads ⟨s, .empty⟩
    (fun scope => ∀ entry ∈ s.fields.entries, Reader.KnownItem scope.listed entry)
    (.select name none ⟨s.fields.entries.map Reader.readItem, none, [], none⟩) where
  compiles := by
    have hentries : s.fields.entries ≠ [] := List.isEmpty_eq_false_iff.mp hne
    have hlabels : ∀ entry ∈ s.fields.entries, Reader.Labels entry := by
      intro entry hentry
      obtain ⟨hplain, c, -, -, hread⟩ := haliased entry hentry
      exact ⟨hplain, Option.isSome_iff_exists.mpr ⟨_, hread⟩⟩
    have htext : (Template.inline (.text "SELECT " :: s.fieldTemplate ++
        [.text (" FROM " ++ table)])) =
        "SELECT " ++ String.intercalate ", " (s.fields.entries.map Reader.itemText) ++ " FROM " ++
          table := by
      rw [List.cons_append, Template.inline_text, Template.inline_append, fieldTemplate_text hne,
        ← String.toList_inj]
      simp [Template.inline, Template.write, String.toList_append]
    refine ⟨_, (h.fits hkind).compile (h.template hkind htable .sqlite), fun scope q => ?_⟩
    rw [htext]
    exact Reader.list_read scope hname hentries hlabels q
  names _ _ hentry := by cases hentry

/-- The query is run exactly if the store reads every alias that is written as a name. -/
theorem query_iff {store : Store} (ht : store.table? name = some t) :
    (∃ records after, Store.connection.query s store = (.ok records, after)) ↔
      ∀ entry ∈ s.fields.entries, entry.1 ≠ entry.2 → (Term.readName entry.1).isSome := by
  have hreads := h.reads hkind htable hname hne haliased
  constructor
  · rintro ⟨records, after, hquery⟩ entry hentry
    obtain ⟨query, hran⟩ := Store.query_ran (h.fits hkind) hquery
    exact ((hreads.of_ran hran).1 entry hentry).2
  · intro hlabels
    have hall : ∀ entry ∈ s.fields.entries, Reader.KnownItem Scope.all.listed entry := by
      intro entry hentry
      obtain ⟨-, c, -, hnames, -⟩ := haliased entry hentry
      exact ⟨hnames.trimmed.readable, hlabels entry hentry⟩
    have hknown : ∀ entry ∈ s.fields.entries,
        Reader.KnownItem (Refusal.known t.names).listed entry := by
      intro entry hentry
      obtain ⟨-, c, hc, hnames, -⟩ := haliased entry hentry
      exact ⟨hnames.trimmed.known ⟨c, hc, Text.sameName_iff.mpr rfl⟩ t.columns_subset_names,
        hlabels entry hentry⟩
    have hperform := Store.onTable_eq ht fun t => if Selection.fitsWindow none then
      (.ok (Selection.records (t.called none) (store.indexesOf t) Binds.empty.entries
        ⟨s.fields.entries.map Reader.readItem, none, [], none⟩), store)
      else (.error Table.mismatchMessage, store)
    have hran := hreads.ran hall rfl (fun sql hscope => ?_) hperform
    · exact ⟨_, _, hran.queried (h.fits hkind)⟩
    · rw [Store.refusal, ht]
      exact hscope _ hknown

end Statement.OnlySelects

namespace Call

theorem taken_selecting {calls : List Call} (h : ∀ call ∈ calls, Selecting call) :
    taken selection? .empty calls = calls.filterMap selection? := by
  have hfold (s : Statement) (hs : s.Admits .select) :
      taken selection? s calls = calls.filterMap selection? := by
    induction calls generalizing s with
    | nil => rfl
    | cons call calls ih =>
      obtain ⟨hcall, hrest⟩ := List.forall_mem_cons.mp h
      rcases hcall with ⟨table, rfl⟩ | hselection
      · have hafter : (after s (.source table)).Admits .select := by
          have hstarts := Statement.startAs_starts .source (some table) s
          unfold after
          show (((Statement.startAs .source (some table)).on s).2).Admits .select
          generalize (Statement.startAs .source (some table)).on s = result at hstarts
          cases hstarts with
          | otherKind => exact hs
          | secondTable => exact hs
          | started => exact .inr rfl
        have hnone : accepted selection? s (.source table) = [] := by
          unfold accepted
          split <;> rfl
        rw [taken, hnone, List.nil_append, ih hrest _ hafter]
        rfl
      · obtain ⟨entry, hentry⟩ := Option.isSome_iff_exists.mp hselection
        have hok := (selection_accepted s hentry).mpr hs
        have hafter : (after s call).Admits .select :=
          .inr ((verb_law s (selection_verb hentry)).starts hok).1
        rw [taken, accepted, hok, hentry, ih hrest _ hafter, List.filterMap_cons, hentry]
        rfl
  exact hfold .empty (.inl rfl)

end Call

def pairs : Table :=
  ⟨"pairs", [⟨"k", "", false⟩, ⟨"v", "", false⟩], none, [⟨1, [.integer 1, .integer 2]⟩]⟩

def pairStore : Store := ⟨[pairs], [], 1, 1⟩

private theorem pairStore_sound : pairStore.Sound := by
  intro t ht
  obtain rfl := List.mem_singleton.mp ht
  have huntyped : pairs.Untyped := ⟨by decide, rfl⟩
  exact huntyped.sound (by decide +kernel) (by decide) (by decide)

def swapped : List Call :=
  [.select "k", .source "pairs", .selectAs "v" "n", .selectAs "v" "k", .selectAs "k" "n"]

/-- A table with a column that is named like a number. -/
def figures : Table := ⟨"figures", [⟨"1", "", false⟩], none, [⟨1, [.integer 2]⟩]⟩

end RecordGateway
