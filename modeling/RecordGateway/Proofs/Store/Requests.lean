import RecordGateway.Gateway
import RecordGateway.Proofs.Lists
import RecordGateway.Proofs.Request.Binding
import RecordGateway.Proofs.Store.Soundness
/-! # Requests that the store has run -/
namespace RecordGateway

theorem Refusal.unknownColumn_of_read {sql : String} {scope : Scope} {q : Query}
    (h : Query.read scope sql = .ok q) : unknownColumn sql scope = none := by
  rw [unknownColumn, h]

namespace Store

theorem understand_eq_ok {store : Store} {sql : String} {query : Query} :
    store.understand sql = .ok query ↔ Query.read .all sql = .ok query ∧
      Refusal.tooDeep query = none ∧ store.refusal sql query = none := by
  unfold understand
  cases hread : Query.read .all sql with
  | error left => simp
  | ok q =>
    cases hcause : (Refusal.tooDeep q).or (store.refusal sql q) with
    | some cause =>
      simp only [hcause, reduceCtorEq, false_iff, Except.ok.injEq]
      rintro ⟨rfl, hdeep, hrefusal⟩
      rw [hdeep, hrefusal] at hcause
      cases hcause
    | none =>
      simp only [hcause, Except.ok.injEq]
      constructor
      · rintro rfl
        exact ⟨rfl, Option.or_eq_none_iff.mp hcause⟩
      · exact And.left

/-! ## Queries that were carried out -/

section
variable {store after : Store} {parameters : Assignment} {name : String} {records : List Record}

private theorem onTable_eq_ok {use : Table → Except String (List Record) × Store}
    (h : store.onTable name use = (.ok records, after)) :
    ∃ t, store.table? name = some t ∧ use t = (.ok records, after) := by
  unfold onTable at h
  split at h
  · next t ht => exact ⟨t, ht, h⟩
  · cases h

theorem perform_select {renamed : Option String} {q : Selection}
    (h : store.perform parameters (.select name renamed q) = (.ok records, after)) :
    ∃ t, store.table? name = some t ∧ after = store ∧
      records = Selection.records (t.called renamed) (store.indexesOf t) parameters q := by
  obtain ⟨t, ht, huse⟩ := onTable_eq_ok h
  split at huse
  · cases huse
    exact ⟨t, ht, rfl, rfl⟩
  · cases huse

theorem perform_insert {columns values : List String}
    (h : store.perform parameters (.insert name columns values) = (.ok records, after)) :
    ∃ t id t', store.table? name = some t ∧ insert t parameters columns values = .ok (id, t') ∧
      after = { store.withTable t' with lastRowId := id, changes := 1 } := by
  obtain ⟨t, ht, huse⟩ := onTable_eq_ok h
  cases hinsert : insert t parameters columns values with
  | error violation => rw [hinsert] at huse; cases huse
  | ok done =>
    rw [hinsert] at huse
    exact ⟨t, done.1, done.2, ht, hinsert, (Prod.mk.inj huse).2.symm⟩

theorem perform_update {sets : List (String × String)} {filter : Option Predicate}
    (h : store.perform parameters (.update name sets filter) = (.ok records, after)) :
    ∃ t t', store.table? name = some t ∧
      (t.rows.filter (meets t parameters filter)).foldlM (assign parameters sets) t = .ok t' ∧
      after = { store.withTable t' with
        changes := (t.rows.filter (meets t parameters filter)).length } := by
  obtain ⟨t, ht, huse⟩ := onTable_eq_ok h
  cases hupdate : update t parameters sets filter with
  | error violation => rw [hupdate] at huse; cases huse
  | ok done =>
    obtain ⟨count, t'⟩ := done
    obtain ⟨rows, rfl, rfl, hfold⟩ := update_eq_ok hupdate
    rw [hupdate] at huse
    exact ⟨t, t', ht, hfold, (Prod.mk.inj huse).2.symm⟩

end

/-! ## Requests -/

/-- The store has prepared a request, in whose text it has read the query, and run it. -/
structure Ran (store : Store) (r : Request) (query : Query) (records : List Record)
    (after : Store) : Prop where
  understood : ∃ compiled, r.statement.compile .sqlite = .ok compiled ∧
    store.understand compiled.sql = .ok query
  performed : store.perform r.binds.entries query = (.ok records, after)

theorem prepare_eq_ok {s : Statement} {store after : Store} {handle : Handle}
    (h : prepare s store = (.ok handle, after)) : after = store ∧
      s.compile .sqlite = .ok handle.compiled ∧
      store.understand handle.compiled.sql = .ok handle.query := by
  unfold prepare at h
  split at h
  · cases h
  · next compiled hcompile =>
    split at h
    · cases h
    · next query hunderstand =>
      obtain ⟨hhandle, rfl⟩ := Prod.mk.inj h
      obtain rfl := Except.ok.inj hhandle
      exact ⟨rfl, hcompile, hunderstand⟩

private theorem run_eq_ok {handle : Handle} {binds : Binds} {store after : Store}
    {records : List Record}
    (h : run handle binds store = (.ok records, after)) :
    store.perform (bindings handle binds) handle.query = (.ok records, after) := by
  unfold run at h
  simp only at h
  split at h
  · cases h
  · obtain ⟨hrecords, rfl⟩ := Prod.mk.inj h
    cases hperform : (store.perform (bindings handle binds) handle.query).1 with
    | error e => rw [hperform] at hrecords; cases hrecords
    | ok found =>
      rw [hperform] at hrecords
      obtain rfl := Except.ok.inj hrecords
      exact Prod.ext hperform rfl

theorem bindings_of_fits {r : Request} (hfits : r.Fits .sqlite) {handle : Handle}
    (hcompile : r.statement.compile .sqlite = .ok handle.compiled) :
    bindings handle r.binds = r.binds.entries := by
  rw [bindings, hfits.parameters _ hcompile, List.nil_append]

private theorem Ran.of_run {r : Request} (hfits : r.Fits .sqlite) {store between after : Store}
    {handle : Handle} {records : List Record}
    (hprepare : prepare r.statement store = (.ok handle, between))
    (hrun : run handle r.binds between = (.ok records, after)) :
    store.Ran r handle.query records after := by
  obtain ⟨rfl, hcompile, hunderstand⟩ := prepare_eq_ok hprepare
  refine ⟨⟨_, hcompile, hunderstand⟩, ?_⟩
  rw [← bindings_of_fits hfits hcompile]
  exact run_eq_ok hrun

theorem fetchAll_ran {r : Request} (hfits : r.Fits .sqlite) {store after : Store}
    {records : List Record} (h : Gateway.fetchAll connection r store = (.ok records, after)) :
    ∃ query, store.Ran r query records after := by
  unfold Gateway.fetchAll at h
  split at h
  · cases h
  · next handle between hprepare =>
    unfold Gateway.prepare at hprepare
    split at hprepare
    · cases hprepare
    · next hp =>
      cases hprepare
      exact ⟨_, .of_run hfits hp h⟩

theorem execute_ran {r : Request} (hfits : r.Fits .sqlite) {store after : Store} {count : Nat}
    (h : Gateway.execute connection r store = (.ok count, after)) :
    (∃ query, store.Ran r query [] after) ∧ count = after.changes := by
  unfold Gateway.execute at h
  split at h
  · cases h
  · next handle between hprepare =>
    unfold Gateway.prepare at hprepare
    split at hprepare
    · cases hprepare
    · next hp =>
      cases hprepare
      have hexecute : execute handle r.binds between = (.ok count, after) := h
      unfold execute at hexecute
      split at hexecute
      · cases hexecute
      · next hrun =>
        cases hexecute
        exact ⟨⟨_, .of_run hfits hp hrun⟩, rfl⟩
      · cases hexecute

theorem query_ran {s : Statement} (hfits : Request.Fits .sqlite ⟨s, .empty⟩) {store after : Store}
    {records : List Record} (h : connection.query s store = (.ok records, after)) :
    ∃ query, store.Ran ⟨s, .empty⟩ query records after := by
  unfold Connection.query at h
  split at h
  · cases h
  · next hp => exact ⟨_, .of_run hfits hp h⟩

private theorem prepare_of_understood {s : Statement} {store : Store} {compiled : Compiled}
    {query : Query}
    (hcompile : s.compile .sqlite = .ok compiled)
    (hunderstand : store.understand compiled.sql = .ok query) :
    prepare s store = (.ok ⟨compiled, query⟩, store) := by
  rw [prepare, hcompile]
  simp only [hunderstand]

private theorem run_of_names {handle : Handle} {binds : Binds} {store after : Store}
    {records : List Record}
    (hnames : ∀ e ∈ bindings handle binds, e.1 ∈ handle.query.parameterNames)
    (hperform : store.perform (bindings handle binds) handle.query = (.ok records, after)) :
    run handle binds store = (.ok records, after) := by
  have hall : ((bindings handle binds).find? fun e =>
      !handle.query.parameterNames.contains e.1) = none := by
    rw [List.find?_eq_none]
    intro e he
    simpa using hnames e he
  rw [run]
  simp only [hall, hperform]
  rfl

namespace Ran

variable {store after : Store} {r : Request} {query : Query} {records : List Record}

private theorem run (h : store.Ran r query records after) (hfits : r.Fits .sqlite)
    (hnames : ∀ e ∈ r.binds.entries, e.1 ∈ query.parameterNames) :
    ∃ handle, prepare r.statement store = (.ok handle, store) ∧
      Store.run handle r.binds store = (.ok records, after) := by
  obtain ⟨compiled, hcompile, hunderstand⟩ := h.understood
  have hbindings : bindings ⟨compiled, query⟩ r.binds = r.binds.entries :=
    bindings_of_fits hfits hcompile
  refine ⟨⟨compiled, query⟩, prepare_of_understood hcompile hunderstand, run_of_names ?_ ?_⟩
  · rwa [hbindings]
  · rw [hbindings]
    exact h.performed

theorem execute (h : store.Ran r query [] after) (hfits : r.Fits .sqlite)
    (hnames : ∀ e ∈ r.binds.entries, e.1 ∈ query.parameterNames) :
    Gateway.execute connection r store = (.ok after.changes, after) := by
  obtain ⟨handle, hprepare, hrun⟩ := h.run hfits hnames
  have hconnection : connection.prepare r.statement store = (.ok handle, store) := hprepare
  rw [Gateway.execute, Gateway.prepare, hconnection]
  simp only [connection, Store.execute, hrun]

theorem fetchAll (h : store.Ran r query records after) (hfits : r.Fits .sqlite)
    (hnames : ∀ e ∈ r.binds.entries, e.1 ∈ query.parameterNames) :
    Gateway.fetchAll connection r store = (.ok records, after) := by
  obtain ⟨handle, hprepare, hrun⟩ := h.run hfits hnames
  have hconnection : connection.prepare r.statement store = (.ok handle, store) := hprepare
  rw [Gateway.fetchAll, Gateway.prepare, hconnection]
  exact hrun

theorem queried {s : Statement} (h : store.Ran ⟨s, .empty⟩ query records after)
    (hfits : Request.Fits .sqlite ⟨s, .empty⟩) :
    connection.query s store = (.ok records, after) := by
  obtain ⟨handle, hprepare, hrun⟩ := h.run hfits (List.forall_mem_nil _)
  have hconnection : connection.prepare s store = (.ok handle, store) := hprepare
  rw [Connection.query, hconnection]
  exact hrun

end Ran

theorem execute_refused {r : Request} {store : Store} {compiled : Compiled} {cause : String}
    (hcompile : r.statement.compile .sqlite = .ok compiled)
    (hunderstand : store.understand compiled.sql = .error cause) :
    Gateway.execute connection r store =
      (.error (Gateway.withBinds r.binds (r.statement.refused .sqlite cause)), store) := by
  have hprepare : connection.prepare r.statement store =
      (.error (r.statement.refused .sqlite cause), store) := by
    change prepare r.statement store = _
    rw [prepare, hcompile]
    simp only [hunderstand]
  rw [Gateway.execute, Gateway.prepare, hprepare]

end Store
end RecordGateway
