import Mathlib.Logic.Function.Basic
import RecordGateway.Proofs.Collecting
import RecordGateway.Proofs.Connection.Reporting
import RecordGateway.Proofs.Statement.Rendering
import RecordGateway.Proofs.Store.Requests
import RecordGateway.Statement.Call
/-!
# The parameters of a run

A run binds the literals of its statement and then what the caller gives, one after the other; a
report of its failure lists each name once.
-/
namespace RecordGateway

/-! ## Only the values count -/

/-- Two lists of parameters give every name the same value. -/
def Assignment.Agree (p q : Assignment) : Prop := ∀ name, p.value name = q.value name

namespace Assignment.Agree

variable {p q : Assignment} (h : p.Agree q)
include h

private theorem cell : p.cell = q.cell := by
  funext name
  rw [Assignment.cell, Assignment.cell, h name]

private theorem eval (frame : Frame) (term : Term) : term.eval p frame = term.eval q frame := by
  induction term with
  | column name => rfl
  | columnOr name otherwise => rfl
  | parameter name => rw [Term.eval, Term.eval, h.cell]
  | constant cell => rfl
  | signed minus term ih => rw [Term.eval, Term.eval, ih]

private theorem evalText : RecordGateway.evalText p = RecordGateway.evalText q := by
  funext frame s
  unfold RecordGateway.evalText
  cases Term.read s with
  | none => rfl
  | some term => exact h.eval frame term

private theorem truth : Condition.truth p = Condition.truth q := by
  funext frame c
  unfold Condition.truth
  rw [h.evalText]

private theorem passes : RecordGateway.passes p = RecordGateway.passes q := by
  funext filter frame
  rw [RecordGateway.passes, RecordGateway.passes, h.truth]

private theorem filterFrame : Selection.filterFrame p = Selection.filterFrame q := by
  funext items frame
  simp only [Selection.filterFrame, Selection.aliasFrame, h.evalText]

private theorem orderCell (t : Table) : Selection.orderCell t p = Selection.orderCell t q := by
  have heval (frame : Frame) : Term.eval p frame = Term.eval q frame := funext (h.eval frame)
  funext items frame field
  unfold Selection.orderCell
  simp only [Selection.orderFrame, Selection.aliasFrame, h.filterFrame, h.evalText, heval]

private theorem compareBy (t : Table) (items : List Item) (order : List Ordered) (a b : Frame) :
    Selection.compareBy t p items order a b = Selection.compareBy t q items order a b := by
  induction order with
  | nil => rfl
  | cons o order ih => rw [Selection.compareBy, Selection.compareBy, ih, h.orderCell]

private theorem records (t : Table) (indexes : List Index) :
    Selection.records t indexes p = Selection.records t indexes q := by
  have houtputs : Selection.outputs t p = Selection.outputs t q := by
    funext item
    simp only [Selection.outputs, h.evalText]
  funext s
  simp only [Selection.records, Selection.selectList, Selection.frames, Selection.foundRows,
    houtputs, h.truth, h.passes, h.filterFrame, h.compareBy]

private theorem termCells : Store.termCells p = Store.termCells q := by
  funext frame given
  rw [Store.termCells, Store.termCells, h.evalText]

private theorem insert (t : Table) : Store.insert t p = Store.insert t q := by
  funext columns values
  rw [Store.insert, Store.insert, h.termCells]

private theorem meets (t : Table) : Store.meets t p = Store.meets t q := by
  funext filter row
  rw [Store.meets, Store.meets, h.passes]

private theorem update (t : Table) : Store.update t p = Store.update t q := by
  have hassign : Store.assign p = Store.assign q := by
    funext sets t row
    rw [Store.assign, Store.assign, h.termCells]
  funext sets filter
  rw [Store.update, Store.update, h.meets, hassign]

private theorem delete (t : Table) : Store.delete t p = Store.delete t q := by
  funext filter
  rw [Store.delete, Store.delete, h.meets]

/-- What a run of a query does depends on the values of the parameters alone. -/
theorem perform (store : Store) : store.perform p = store.perform q := by
  have htermCell : Store.termCell p = Store.termCell q := by
    funext text
    rw [Store.termCell, Store.termCell, h.evalText]
  funext query
  cases query with
  | select name renamed selection => simp only [Store.perform, h.records]
  | insert name columns values => simp only [Store.perform, h.insert]
  | update name sets filter => simp only [Store.perform, h.update]
  | delete name filter => simp only [Store.perform, h.delete]
  | tables pattern => simp only [Store.perform, htermCell]
  | columns table filter => simp only [Store.perform, Store.termText, htermCell, h.passes]
  | indexes table filter => simp only [Store.perform, Store.termText, htermCell, h.passes]

end Assignment.Agree

/-! ## Values bound in order -/

namespace Assignment

/-- The values of the names once entries were bound one after the other, each taking the place of
what its name had before. -/
def bindEach (before : String → Value) (entries : Assignment) : String → Value :=
  entries.foldl (fun bound entry => Function.update bound entry.1 entry.2) before

private theorem bindEach_snoc (before : String → Value) (entries : Assignment)
    (entry : String × Value)
    (name : String) : bindEach before (entries ++ [entry]) name =
      if name = entry.1 then entry.2 else bindEach before entries name := by
  rw [bindEach, List.foldl_append]
  exact Function.update_apply ..

theorem value_eq_bindEach (entries : Assignment) :
    entries.value = bindEach (fun _ => .null) entries := by
  have hrules : ParameterRules (bindEach fun _ => .null) := ⟨fun _ => rfl, bindEach_snoc _⟩
  rw [hrules.value_eq]

private theorem bindEach_eq (before : String → Value) (entries : Assignment) (name : String) :
    bindEach before entries name = ((Keyed.ofList entries).get? name).getD (before name) := by
  induction entries using List.reverseRecOn with
  | nil => rfl
  | append_singleton entries entry ih =>
    rw [bindEach_snoc, Keyed.ofList_snoc, Keyed.get?_insert, ih]
    by_cases hname : name = entry.1
    · rw [if_pos hname, if_pos hname.symm, Option.getD_some]
    · rw [if_neg hname, if_neg (Ne.symm hname)]

theorem listed_agree (entries : Assignment) : Agree (Keyed.ofList entries).entries entries := by
  intro name
  rw [value_eq_bindEach, value_eq_bindEach, bindEach_eq, bindEach_eq, Keyed.ofList_entries]

end Assignment

/-! ## The list of a report -/

private theorem placeholder_injective : Function.Injective placeholder := fun _ _ h =>
  repr_injective (String.append_right_inj _ |>.mp h)

private theorem placeholder_colon (number : Nat) :
    (placeholder number).toList.head? = some ':' := by
  rw [placeholder, String.toList_append]
  rfl

private theorem Template.parameters_names (t : Template) :
    t.parameters.map Prod.fst = placeholders t.literals.length := by
  rw [parameters_eq_zip, List.map_fst_zip]
  rw [placeholders, List.length_map, List.length_range']

namespace Store

/-- The binds that the report of a failed run lists. -/
def listed (handle : Handle) (binds : Binds) : Binds :=
  (Binds.ofList handle.compiled.parameters).extend binds.entries

def Handle.unbound (handle : Handle) : Handle :=
  { handle with compiled := ⟨handle.compiled.sql, []⟩ }

/-- How the list of a report stands to the run: it names each parameter once, with the value that
the name ends up bound to, and running with the list alone is the same run. -/
structure Lists (handle : Handle) (binds : Binds) : Prop where
  distinct : (listed handle binds).values.keys.Nodup
  names : ∀ name, name ∈ (listed handle binds).values.keys ↔
    name ∈ (bindings handle binds).map Prod.fst
  value : ∀ name, name ∈ (bindings handle binds).map Prod.fst →
    (listed handle binds).get? name = some ((bindings handle binds).value name)
  unbound : ∀ name, name ∉ (bindings handle binds).map Prod.fst →
    (listed handle binds).get? name = none ∧ (bindings handle binds).value name = .null
  /-- Also over what was bound before, and stays where nothing is bound. -/
  bound : ∀ before name, Assignment.bindEach before (bindings handle binds) name =
    ((listed handle binds).get? name).getD (before name)
  concat : List.Disjoint (handle.compiled.parameters.map Prod.fst) (binds.entries.map Prod.fst) →
    (listed handle binds).entries = handle.compiled.parameters ++ binds.entries
  run : ∀ store, run handle.unbound (listed handle binds) store = run handle binds store
  execute : ∀ store,
    execute handle.unbound (listed handle binds) store = execute handle binds store
  run_failed : ∀ store e, (Store.run handle binds store).1 = .error e →
    ∃ cause, e = .execution handle.compiled.sql (listed handle binds).display cause
  execute_failed : ∀ store e, (Store.execute handle binds store).1 = .error e →
    ∃ cause, e = .execution handle.compiled.sql (listed handle binds).display cause

private theorem listed_eq (handle : Handle) (binds : Binds) :
    listed handle binds = .ofList (bindings handle binds) :=
  List.foldl_append.symm

private theorem failure_unbound (handle : Handle) (binds : Binds) :
    failure handle.unbound (listed handle binds) = failure handle binds := by
  have hagain : Binds.ofList (listed handle binds).entries = listed handle binds := by
    rw [listed_eq]
    exact (Binds.ofList_collects _).rebuilt
  funext cause
  exact congrArg (fun all : Binds => Failure.execution handle.compiled.sql all.display cause) hagain

theorem run_eq (handle : Handle) (binds : Binds) (store : Store) : run handle binds store =
    match ((bindings handle binds).map Prod.fst).find? fun name =>
      !handle.query.parameterNames.contains name with
    | some name => (.error (failure handle binds ("Invalid parameter name: " ++ name)), store)
    | none =>
      let (outcome, after) := store.perform (bindings handle binds) handle.query
      (outcome.mapError (failure handle binds), after) := by
  have hfind : (((bindings handle binds).map Prod.fst).find? fun name =>
      !handle.query.parameterNames.contains name) = ((bindings handle binds).find? fun e =>
        !handle.query.parameterNames.contains e.1).map Prod.fst := List.find?_map
  rw [hfind, run]
  dsimp only
  cases (bindings handle binds).find? fun e => !handle.query.parameterNames.contains e.1 <;> rfl

section

variable {s : Statement} {handle : Handle} (hcompile : s.compile .sqlite = .ok handle.compiled)
include hcompile

private theorem compiled_names : ∃ count,
    handle.compiled.parameters.map Prod.fst = Template.placeholders count := by
  obtain ⟨t, -, hcompiled⟩ := Statement.compile_eq_ok hcompile
  exact ⟨t.literals.length, hcompiled ▸ t.parameters_names⟩

private theorem bindings_colon (given : List (String × Value)) :
    ∀ entry ∈ bindings handle (.ofList given), entry.1.toList.head? = some ':' := by
  intro entry hentry
  rcases List.mem_append.mp hentry with hentry | hentry
  · obtain ⟨count, hnames⟩ := compiled_names hcompile
    have hname := List.mem_map_of_mem (f := Prod.fst) hentry
    rw [hnames] at hname
    obtain ⟨number, -, hnumber⟩ := List.mem_map.mp hname
    exact hnumber ▸ placeholder_colon number
  · exact Binds.ofList_colon given entry hentry

private theorem listed_values (given : List (String × Value)) :
    (listed handle (.ofList given)).values = .ofList (bindings handle (.ofList given)) := by
  rw [listed_eq, Binds.ofList_values (bindings_colon hcompile given)]

private theorem bindings_unbound (given : List (String × Value)) :
    bindings handle.unbound (listed handle (.ofList given)) =
      (Keyed.ofList (bindings handle (.ofList given))).entries :=
  congrArg Keyed.entries (listed_values hcompile given)

private theorem run_unbound (given : List (String × Value)) (store : Store) :
    run handle.unbound (listed handle (.ofList given)) store =
    run handle (.ofList given) store := by
  have hnames : ((Keyed.ofList (bindings handle (.ofList given))).entries.map Prod.fst).find?
      (fun name => !handle.unbound.query.parameterNames.contains name) =
      ((bindings handle (.ofList given)).map Prod.fst).find? fun name =>
        !handle.query.parameterNames.contains name := Keyed.find?_keys .empty _ _
  have hperform := (Assignment.listed_agree (bindings handle (.ofList given))).perform store
  rw [run_eq, run_eq, bindings_unbound hcompile, failure_unbound, hnames, ← hperform]
  rfl

private theorem execute_unbound (given : List (String × Value)) (store : Store) :
    execute handle.unbound (listed handle (.ofList given)) store =
      execute handle (.ofList given) store := by
  rw [execute, execute, run_unbound hcompile, failure_unbound]

private theorem lists_of_compile (given : List (String × Value)) :
    Lists handle (.ofList given) := by
  have hvalues := listed_values hcompile given
  have hcollects := Keyed.ofList_collects (bindings handle (.ofList given))
  have hvalue (name : String) : (bindings handle (.ofList given)).value name =
      ((listed handle (.ofList given)).get? name).getD .null := by
    rw [Assignment.value_eq_bindEach, Assignment.bindEach_eq, Binds.get?, hvalues]
  exact {
    distinct := (listed handle (.ofList given)).values.distinct
    names := by
      rw [hvalues]
      exact hcollects.mem_keys
    value := fun name hname => by
      obtain ⟨v, hv⟩ := Option.ne_none_iff_exists'.mp fun hnone =>
        (hcollects.missing name).mp hnone hname
      rw [hvalue, Binds.get?, hvalues, hv, Option.getD_some]
    unbound := fun name hname => by
      have hnone := (hcollects.missing name).mpr hname
      rw [hvalue, Binds.get?, hvalues, hnone]
      exact ⟨rfl, rfl⟩
    bound := fun before name => by
      rw [Assignment.bindEach_eq, Binds.get?, hvalues]
    concat := fun hdisjoint => by
      obtain ⟨count, hnames⟩ := compiled_names hcompile
      have hliterals : (handle.compiled.parameters.map Prod.fst).Nodup :=
        hnames ▸ (List.nodup_range' 1).map placeholder_injective
      have hall : ((bindings handle (.ofList given)).map Prod.fst).Nodup := by
        rw [bindings, List.map_append]
        exact hliterals.append (Binds.ofList given).values.distinct hdisjoint
      exact (congrArg Keyed.entries hvalues).trans (Keyed.entries_ofList _ hall)
    run := run_unbound hcompile given
    execute := execute_unbound hcompile given
    run_failed := fun _ _ => run_error
    execute_failed := fun _ _ => execute_error }

end

/-- What the report of a failed run lists, whatever the caller binds and also under the names of
literals, is what the parameters of the run had as values. -/
theorem parameters_listed :
    (∀ s store after handle, prepare s store = (.ok handle, after) →
      s.compile .sqlite = .ok handle.compiled) ∧
    ∀ (s : Statement) (handle : Handle) (given : List (String × Value)),
      s.compile .sqlite = .ok handle.compiled → Lists handle (.ofList given) :=
  ⟨fun _ _ _ _ hprepare => (prepare_eq_ok hprepare).2.1,
    fun _ _ given hcompile => lists_of_compile hcompile given⟩

/-- A statement with two literals, the name of one of which the caller takes. -/
def twoLiterals : Statement :=
  Call.run [.update "t", .set "a" ⟨.integer 1, true⟩, .set "b" ⟨.integer 2, true⟩]

def twoHandle : Handle where
  compiled := ⟨"UPDATE t SET a = :_1, b = :_2", [(":_1", .integer 1), (":_2", .integer 2)]⟩
  query := .update "t" [("a", ":_1"), ("b", ":_2")] none

theorem parameters_listed_taken :
    twoLiterals.compile .sqlite = .ok twoHandle.compiled ∧
      (listed twoHandle (.ofList [("_1", .integer 5)])).entries =
        [(":_1", .integer 5), (":_2", .integer 2)] ∧
      Lists twoHandle (.ofList [("_1", .integer 5)]) :=
  have hcompile : twoLiterals.compile .sqlite = .ok twoHandle.compiled := by rfl
  ⟨hcompile, by decide, parameters_listed.2 twoLiterals twoHandle [("_1", .integer 5)] hcompile⟩

end Store

end RecordGateway
