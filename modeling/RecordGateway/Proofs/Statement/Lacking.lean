import Mathlib.Data.List.Induction
import RecordGateway.Dialect
import RecordGateway.Proofs.Statement.Building
/-!
# What a statement lacks

A statement is rendered unless it lacks a kind, its table, the columns of an insert or the
assignments of an update.
-/
namespace RecordGateway

namespace Statement

/-- What a statement lacks, with the failure that reports it. -/
inductive Lacks (s : Statement) : Failure → Prop where
  | verb (free : s.kind = none) : Lacks s .unrecognizedStatement
  | table {kind : Kind} (set : s.kind = some kind) (needed : kind ≠ .showTables)
      (free : s.table = none) : Lacks s .missingTable
  | column {table : String} (set : s.kind = some .insert) (known : s.table = some table)
      (free : s.columns = []) : Lacks s (.emptyAssignment .insert)
  | assignment {table : String} (set : s.kind = some .update) (known : s.table = some table)
      (free : s.sets.entries = []) : Lacks s (.emptyAssignment .update)

theorem withTable_error {α : Type} {s : Statement} {rest : String → Except Failure α}
    {e : Failure} : s.requireTable >>= rest = .error e ↔
      (s.table = none ∧ e = .missingTable) ∨ ∃ table, s.table = some table ∧
      rest table = .error e := by
  unfold requireTable
  cases s.table with
  | none => simp [bind, Except.bind, eq_comm]
  | some table => simp [bind, Except.bind]

private theorem selectTemplate_error {s : Statement} {e : Failure} :
    s.selectTemplate = .error e ↔ s.table = none ∧ e = .missingTable := by
  rw [selectTemplate, withTable_error]
  simp [pure, Except.pure]

private theorem insertTemplate_error {s : Statement} {e : Failure} :
    s.insertTemplate = .error e ↔ (s.table = none ∧ e = .missingTable) ∨
      ∃ table, s.table = some table ∧ s.columns = [] ∧ e = .emptyAssignment .insert := by
  rw [insertTemplate, withTable_error]
  cases s.columns with
  | nil => simp [bind, Except.bind, throw, throwThe, MonadExceptOf.throw, eq_comm]
  | cons column columns => simp [pure, Except.pure]

private theorem updateTemplate_error {s : Statement} {e : Failure} :
    s.updateTemplate = .error e ↔ (s.table = none ∧ e = .missingTable) ∨
      ∃ table, s.table = some table ∧ s.sets.entries = [] ∧ e = .emptyAssignment .update := by
  rw [updateTemplate, withTable_error, Keyed.isEmpty]
  cases s.sets.entries with
  | nil => simp [bind, Except.bind, throw, throwThe, MonadExceptOf.throw, eq_comm]
  | cons entry entries => simp [pure, Except.pure]

private theorem deleteTemplate_error {s : Statement} {e : Failure} :
    s.deleteTemplate = .error e ↔ s.table = none ∧ e = .missingTable := by
  rw [deleteTemplate, withTable_error]
  simp [pure, Except.pure]

private theorem columnsTemplate_error {d : Dialect} {s : Statement} {e : Failure} :
    s.columnsTemplate d = .error e ↔ s.table = none ∧ e = .missingTable := by
  rw [columnsTemplate, withTable_error]
  cases d <;> simp [pure, Except.pure]

private theorem indexesTemplate_error {d : Dialect} {s : Statement} {e : Failure} :
    s.indexesTemplate d = .error e ↔ s.table = none ∧ e = .missingTable := by
  rw [indexesTemplate, withTable_error]
  cases d <;> simp [pure, Except.pure]

private theorem table_lacks {s : Statement} {kind : Kind} (set : s.kind = some kind)
    (hselect : kind ≠ .showTables) (hinsert : kind ≠ .insert) (hupdate : kind ≠ .update)
    {e : Failure} : Lacks s e ↔ s.table = none ∧ e = .missingTable := by
  constructor
  · intro h
    cases h with
    | verb free => rw [set] at free; cases free
    | table _ _ free => exact ⟨free, rfl⟩
    | column hkind => rw [set] at hkind; exact absurd (Option.some.inj hkind) hinsert
    | assignment hkind => rw [set] at hkind; exact absurd (Option.some.inj hkind) hupdate
  · rintro ⟨free, rfl⟩
    exact .table set hselect free

theorem template_error (d : Dialect) (s : Statement) (e : Failure) :
    s.template d = .error e ↔ Lacks s e := by
  unfold template
  cases hk : s.kind with
  | none =>
    simp only [Except.error.injEq]
    constructor
    · rintro rfl
      exact .verb hk
    · intro h
      cases h <;> simp_all
  | some kind =>
    cases kind with
    | select => exact selectTemplate_error.trans (table_lacks hk (by decide) (by decide)
        (by decide)).symm
    | delete => exact deleteTemplate_error.trans (table_lacks hk (by decide) (by decide)
        (by decide)).symm
    | showColumns =>
      exact columnsTemplate_error.trans (table_lacks hk (by decide) (by decide) (by decide)).symm
    | showIndexes =>
      exact indexesTemplate_error.trans (table_lacks hk (by decide) (by decide) (by decide)).symm
    | showTables =>
      simp only [reduceCtorEq, false_iff]
      intro h
      cases h <;> simp_all
    | insert =>
      refine insertTemplate_error.trans ⟨?_, ?_⟩
      · rintro (⟨free, rfl⟩ | ⟨table, known, free, rfl⟩)
        · exact .table hk (by decide) free
        · exact .column hk known free
      · intro h
        cases h <;> simp_all
    | update =>
      refine updateTemplate_error.trans ⟨?_, ?_⟩
      · rintro (⟨free, rfl⟩ | ⟨table, known, free, rfl⟩)
        · exact .table hk (by decide) free
        · exact .assignment hk known free
      · intro h
        cases h <;> simp_all

private theorem map_error {α β : Type} {f : α → β} {x : Except Failure α} {e : Failure} :
    x.map f = .error e ↔ x = .error e := by
  cases x <;> simp [Except.map]

private theorem evaluate_error (d : Dialect) (s : Statement) (e : Failure) :
    s.evaluate d = .error e ↔ Lacks s e := by
  rw [evaluate, map_error, template_error]

theorem compile_error (d : Dialect) (s : Statement) (e : Failure) :
    s.compile d = .error e ↔ Lacks s e := by
  rw [compile, map_error, template_error]

/-- Both renderings of a statement in a dialect succeed. -/
def Renders (s : Statement) (d : Dialect) : Prop :=
  (∃ sql, s.evaluate d = .ok sql) ∧ ∃ compiled, s.compile d = .ok compiled

private theorem renders_of_not_lacks {d : Dialect} {s : Statement} (h : ∀ e, ¬s.Lacks e) :
    s.Renders d := by
  constructor
  · cases hs : s.evaluate d with
    | ok sql => exact ⟨sql, rfl⟩
    | error e => exact absurd ((s.evaluate_error d e).mp hs) (h e)
  · cases hs : s.compile d with
    | ok compiled => exact ⟨compiled, rfl⟩
    | error e => exact absurd ((s.compile_error d e).mp hs) (h e)

theorem compiles_iff {d : Dialect} {s : Statement} :
    (∃ compiled, s.compile d = .ok compiled) ↔ ∀ e, ¬s.Lacks e := by
  constructor
  · rintro ⟨compiled, hcompiled⟩ e he
    rw [(s.compile_error d e).mpr he] at hcompiled
    cases hcompiled
  · exact fun h => (renders_of_not_lacks h).2

end Statement

namespace Call

/-- A call of a sort was among the calls and succeeded at its turn. -/
def Succeeded (sort : Call → Prop) (calls : List Call) : Prop :=
  ∃ before call later, calls = before ++ call :: later ∧ sort call ∧
    outcome (run before) call = .ok ()

private theorem run_snoc (calls : List Call) (call : Call) :
    run (calls ++ [call]) = after (run calls) call := by
  rw [run_append]
  rfl

private theorem succeeded_snoc (sort : Call → Prop) (calls : List Call) (call : Call) :
    Succeeded sort (calls ++ [call]) ↔
      Succeeded sort calls ∨ (sort call ∧ outcome (run calls) call = .ok ()) := by
  constructor
  · rintro ⟨before, made, later, hcalls, hsort, hok⟩
    rcases List.eq_nil_or_concat later with rfl | ⟨later, last, rfl⟩
    · obtain ⟨rfl, hlast⟩ := List.append_inj' hcalls rfl
      obtain rfl := (List.cons.inj hlast).1
      exact .inr ⟨hsort, hok⟩
    · rw [List.concat_eq_append, ← List.cons_append, ← List.append_assoc] at hcalls
      exact .inl ⟨before, made, later, (List.append_inj' hcalls rfl).1, hsort, hok⟩
  · rintro (⟨before, made, later, rfl, hsort, hok⟩ | ⟨hsort, hok⟩)
    · exact ⟨before, made, later ++ [call], by simp, hsort, hok⟩
    · exact ⟨calls, call, [], rfl, hsort, hok⟩

theorem holds_iff_succeeded (holds : Statement → Prop) {sort : Call → Prop}
    (start : ¬holds .empty)
    (step : ∀ s, Sound s → ∀ call,
      holds (after s call) ↔ holds s ∨ (sort call ∧ outcome s call = .ok ()))
    (calls : List Call) : holds (run calls) ↔ Succeeded sort calls := by
  induction calls using List.reverseRecOn with
  | nil =>
    refine iff_of_false start ?_
    rintro ⟨before, call, later, hcalls, -⟩
    simp at hcalls
  | append_singleton calls call ih =>
    rw [run_snoc, step _ (run_sound calls), ih, succeeded_snoc]

/-! ## The slots that calls fill -/

def IsVerb (call : Call) : Prop := call.verb? ≠ none

def IsSource (call : Call) : Prop := ∃ table, call = .source table

def IsColumn (call : Call) : Prop := ∃ name operand, call = .column name operand

def IsSet (call : Call) : Prop := ∃ field operand, call = .set field operand

private theorem kind_step (s : Statement) (call : Call) :
    (after s call).kind ≠ none ↔ s.kind ≠ none ∨ (IsVerb call ∧ outcome s call = .ok ()) := by
  have hmakes := apply_makes s call
  unfold outcome after IsVerb
  generalize call.apply.on s = result at hmakes
  cases hmakes with
  | otherKind _ set => simp [set]
  | secondTable => simp
  | outside calls => subst calls; simp [verb?]
  | started calls _ _ kind => simp [calls, kind]
  | filled calls _ kind => simp [calls, kind]

theorem select_table {call : Call} {verb : Verb} {table : Option String}
    (calls : call.verb? = some (verb, table)) (kind : verb.kind = .select) :
    table ≠ none ↔ IsSource call := by
  cases call <;> simp [verb?] at calls <;> obtain ⟨rfl, rfl⟩ := calls <;>
    simp [Verb.kind, IsSource] at kind ⊢

/-- The statement is a selection with a table. -/
def HasSource (s : Statement) : Prop := s.kind = some .select ∧ s.table ≠ none

private theorem source_step {s : Statement} (hsound : Sound s) (call : Call) :
    HasSource (after s call) ↔ HasSource s ∨ (IsSource call ∧ outcome s call = .ok ()) := by
  have hmakes := apply_makes s call
  unfold outcome after
  generalize call.apply.on s = result at hmakes
  cases hmakes with
  | otherKind => simp
  | secondTable => simp
  | outside => simp
  | filled calls _ kind tables =>
    have hnot : ¬IsSource call := by
      rintro ⟨table, rfl⟩
      cases calls
    simp [HasSource, kind, tables, hnot]
  | @started verb table t calls own free kind tables =>
    have hafter : HasSource t ↔ verb.kind = .select ∧ table.or s.table ≠ none := by
      rw [HasSource, kind, tables, Option.some.injEq]
    rw [hafter]
    by_cases hverb : verb.kind = .select
    · simp only [← select_table calls hverb, and_true]
      rcases own with hnone | hown
      · -- without a kind there was no table, so the one that is there was brought
        have htable : s.table = none := Classical.byContradiction fun hset =>
          hsound.kind_of_table hset hnone
        simp [HasSource, hnone, htable, hverb]
      · cases table <;> simp [HasSource, hown, hverb]
    · have hnot : ¬IsSource call := by
        rintro ⟨name, rfl⟩
        cases calls
        exact hverb rfl
      have hother : ¬HasSource s := by
        rintro ⟨hselect, -⟩
        rcases own with hnone | hown
        · rw [hselect] at hnone; cases hnone
        · exact hverb (Option.some.inj (hown.symm.trans hselect))
      simp [hverb, hother, hnot]

theorem startAs_slots (verb : Verb) (table : Option String) (s : Statement) :
    ((Statement.startAs verb table).on s).2.columns = s.columns ∧
      ((Statement.startAs verb table).on s).2.sets = s.sets := by
  have hstarts := Statement.startAs_starts verb table s
  generalize (Statement.startAs verb table).on s = result at hstarts
  cases hstarts <;> exact ⟨rfl, rfl⟩

private theorem selectAs_slots (expression label : String) (s : Statement) :
    ((Statement.selectAs expression label).on s).2.columns = s.columns ∧
      ((Statement.selectAs expression label).on s).2.sets = s.sets := by
  have hstarts := Statement.startAs_starts .select none s
  rw [Statement.selectAs, Statement.Change.on_bind]
  generalize (Statement.startAs .select none).on s = result at hstarts
  cases hstarts <;> exact ⟨rfl, rfl⟩

private theorem limitTo_slots (offset length : Int) (s : Statement) :
    ((Statement.limitTo offset length).on s).2.columns = s.columns ∧
      ((Statement.limitTo offset length).on s).2.sets = s.sets := by
  unfold Statement.limitTo
  split <;> exact ⟨rfl, rfl⟩

theorem slots_after (s : Statement) (call : Call) :
    (¬IsColumn call → (after s call).columns = s.columns) ∧
      (¬IsSet call → (after s call).sets = s.sets) := by
  have hkept {change : Statement.Change}
      (h : (change.on s).2.columns = s.columns ∧ (change.on s).2.sets = s.sets) :
      (¬IsColumn call → (change.on s).2.columns = s.columns) ∧
        (¬IsSet call → (change.on s).2.sets = s.sets) := ⟨fun _ => h.1, fun _ => h.2⟩
  cases call with
  | column n o => exact ⟨fun h => absurd ⟨n, o, rfl⟩ h, fun _ => rfl⟩
  | set f o => exact ⟨fun _ => rfl, fun h => absurd ⟨f, o, rfl⟩ h⟩
  | select e => exact hkept (selectAs_slots e e s)
  | selectAs e a => exact hkept (selectAs_slots e a s)
  | source t => exact hkept (startAs_slots _ _ s)
  | insertInto t => exact hkept (startAs_slots _ _ s)
  | update t => exact hkept (startAs_slots _ _ s)
  | deleteFrom t => exact hkept (startAs_slots _ _ s)
  | showTables p => exact hkept (startAs_slots _ _ s)
  | showColumns t => exact hkept (startAs_slots _ _ s)
  | showIndexes t => exact hkept (startAs_slots _ _ s)
  | limitTo o l => exact hkept (limitTo_slots o l s)
  | restrict p | restrictGroups p | join t k c | orderBy f d | groupOn f | markDistinct
  | markTooComplicated => exact ⟨fun _ => rfl, fun _ => rfl⟩

private theorem column_step (s : Statement) (call : Call) :
    (after s call).columns ≠ [] ↔
      s.columns ≠ [] ∨ (IsColumn call ∧ outcome s call = .ok ()) := by
  by_cases h : IsColumn call
  · obtain ⟨name, operand, rfl⟩ := h
    have hcolumns : (after s (.column name operand)).columns = s.columns ++ [(name, operand)] := rfl
    have hok : outcome s (.column name operand) = .ok () := rfl
    simp [hcolumns, hok, IsColumn]
  · simp [(slots_after s call).1 h, h]

private theorem putEntry_ne_nil {α : Type} (key : String) (value : α)
    (entries : List (String × α)) :
    putEntry key value entries ≠ [] := by
  cases entries with
  | nil => simp [putEntry]
  | cons entry entries =>
    rw [putEntry]
    split <;> simp

private theorem set_step (s : Statement) (call : Call) :
    (after s call).sets.entries ≠ [] ↔
      s.sets.entries ≠ [] ∨ (IsSet call ∧ outcome s call = .ok ()) := by
  by_cases h : IsSet call
  · obtain ⟨field, operand, rfl⟩ := h
    have hsets : (after s (.set field operand)).sets.entries =
        putEntry field operand s.sets.entries := rfl
    have hok : outcome s (.set field operand) = .ok () := rfl
    simp [hsets, hok, IsSet, putEntry_ne_nil]
  · simp [(slots_after s call).2 h, h]

/-! ## Statements that calls have made -/

/-- Why the statement that a sequence of calls has made is not rendered. -/
inductive Unfinished (calls : List Call) : Failure → Prop where
  | verb (none : ¬Succeeded IsVerb calls) : Unfinished calls .unrecognizedStatement
  | source (kind : (run calls).kind = some .select) (none : ¬Succeeded IsSource calls) :
      Unfinished calls .missingTable
  | column (kind : (run calls).kind = some .insert) (none : ¬Succeeded IsColumn calls) :
      Unfinished calls (.emptyAssignment .insert)
  | assignment (kind : (run calls).kind = some .update) (none : ¬Succeeded IsSet calls) :
      Unfinished calls (.emptyAssignment .update)

private theorem kind_none (calls : List Call) :
    (run calls).kind = none ↔ ¬Succeeded IsVerb calls := by
  rw [← holds_iff_succeeded (fun s => s.kind ≠ none) (by simp [Statement.empty])
    (fun s _ => kind_step s), not_not]

private theorem columns_none (calls : List Call) :
    (run calls).columns = [] ↔ ¬Succeeded IsColumn calls := by
  rw [← holds_iff_succeeded (fun s => s.columns ≠ []) (by simp [Statement.empty])
    (fun s _ => column_step s), not_not]

private theorem sets_none (calls : List Call) :
    (run calls).sets.entries = [] ↔ ¬Succeeded IsSet calls := by
  rw [← holds_iff_succeeded (fun s => s.sets.entries ≠ [])
    (by simp [Statement.empty, Keyed.empty]) (fun s _ => set_step s), not_not]

private theorem source_none {calls : List Call} (h : (run calls).kind = some .select) :
    (run calls).table = none ↔ ¬Succeeded IsSource calls := by
  rw [← holds_iff_succeeded HasSource (by simp [HasSource, Statement.empty])
    (fun s hs => source_step hs)]
  simp [HasSource, h]

/-- What a statement that calls have made lacks is what the calls have left out. -/
theorem run_lacks (calls : List Call) (e : Failure) :
    (run calls).Lacks e ↔ Unfinished calls e := by
  have htable {kind : Kind} (hkind : (run calls).kind = some kind) (hselect : kind ≠ .select)
      (htables : kind ≠ .showTables) : ∃ table, (run calls).table = some table :=
    Option.ne_none_iff_exists'.mp ((run_sound calls).table_of_kind kind hkind hselect htables)
  constructor
  · intro h
    cases h with
    | verb free => exact .verb ((kind_none calls).mp free)
    | @table kind set needed free =>
      by_cases hselect : kind = .select
      · subst hselect
        exact .source set ((source_none set).mp free)
      · obtain ⟨table, known⟩ := htable set hselect needed
        rw [free] at known
        cases known
    | column set _ free => exact .column set ((columns_none calls).mp free)
    | assignment set _ free => exact .assignment set ((sets_none calls).mp free)
  · intro h
    cases h with
    | verb none => exact .verb ((kind_none calls).mpr none)
    | source kind none => exact .table kind (by decide) ((source_none kind).mpr none)
    | column kind none =>
      obtain ⟨table, known⟩ := htable kind (by decide) (by decide)
      exact .column kind known ((columns_none calls).mpr none)
    | assignment kind none =>
      obtain ⟨table, known⟩ := htable kind (by decide) (by decide)
      exact .assignment kind known ((sets_none calls).mpr none)

/-- How the renderings of a statement that calls have made can fail. -/
structure Fails (d : Dialect) (calls : List Call) : Prop where
  evaluate : ∀ e, (run calls).evaluate d = .error e ↔ Unfinished calls e
  compile : ∀ e, (run calls).compile d = .error e ↔ Unfinished calls e
  otherwise : (∀ e, ¬Unfinished calls e) → (run calls).Renders d
  showTables : (run calls).kind = some .showTables → (run calls).Renders d
  missingTable : (run calls).kind ≠ some .select →
    (run calls).evaluate d ≠ .error .missingTable ∧ (run calls).compile d ≠ .error .missingTable
  missingLimit :
    (run calls).evaluate d ≠ .error .missingLimit ∧ (run calls).compile d ≠ .error .missingLimit

/-- Whatever builder calls were made, in any order and with failures in between, the renderings
fail for a verb, a source, a column or an assignment that was left out, and for nothing else. -/
theorem run_fails (d : Dialect) (calls : List Call) : Fails d calls := by
  have hevaluate (e : Failure) : (run calls).evaluate d = .error e ↔ Unfinished calls e :=
    ((run calls).evaluate_error d e).trans (run_lacks calls e)
  have hcompile (e : Failure) : (run calls).compile d = .error e ↔ Unfinished calls e :=
    ((run calls).compile_error d e).trans (run_lacks calls e)
  have hrenders (h : ∀ e, ¬Unfinished calls e) : (run calls).Renders d :=
    Statement.renders_of_not_lacks fun e he => h e ((run_lacks calls e).mp he)
  refine ⟨hevaluate, hcompile, hrenders, fun hkind => hrenders fun e h => ?_, fun hkind => ?_, ?_⟩
  · cases h with
    | verb none =>
      rw [(kind_none calls).mpr none] at hkind
      cases hkind
    | source kind | column kind | assignment kind =>
      rw [hkind] at kind
      cases kind
  · rw [Ne, Ne, hevaluate, hcompile, and_self]
    intro h
    cases h with
    | source kind => exact hkind kind
  · rw [Ne, Ne, hevaluate, hcompile, and_self]
    intro h
    cases h

end Call
end RecordGateway
