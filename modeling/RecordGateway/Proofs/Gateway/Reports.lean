import RecordGateway.Proofs.Connection.Reporting
import RecordGateway.Proofs.Lists
import RecordGateway.Proofs.Request.Binding
import RecordGateway.Proofs.Session.Deeds
import RecordGateway.Proofs.Statement.Lacking
/-!
# Reported failures

Every failure of a gateway's operation names the operation once, around the failure that it comes
from.
-/
namespace RecordGateway

def Failure.isGateway : Failure → Bool
  | gateway _ _ => true
  | _ => false

namespace Statement

private theorem compile_not_gateway {d : Dialect} {s : Statement} {e : Failure}
    (h : s.compile d = .error e) : e.isGateway = false := by
  cases (s.compile_error d e).mp h <;> rfl

private theorem refused_not_gateway (d : Dialect) (s : Statement) (cause : String) :
    (s.refused d cause).isGateway = false := by
  unfold refused
  split <;> rfl

theorem refused_evaluated {d : Dialect} {s : Statement} {sql : String}
    (h : s.evaluate d = .ok sql) (cause : String) : s.refused d cause = .driver cause sql := by
  rw [refused, h]

end Statement

theorem Request.Fits.evaluate {d : Dialect} {r : Request} (h : r.Fits d) {compiled : Compiled}
    (hcompile : r.statement.compile d = .ok compiled) :
    r.statement.evaluate d = .ok compiled.sql := by
  obtain ⟨t, ht, rfl⟩ := Statement.compile_eq_ok hcompile
  have hparameters : t.parameters = [] := h.parameters _ hcompile
  have hliterals : t.literals = [] := by
    simpa [Template.parameters] using hparameters
  have hplain : t.inline = t.numbered := t.write_plain _ _ 1 1 hliterals
  simp [Statement.evaluate, ht, Except.map, hplain]

/-- Every failure is one of the operation, around a source that is not itself one. -/
def Wrapped {α : Type} (operation : Operation) (result : Except Failure α) : Prop :=
  ∀ e, result = .error e → ∃ source, e = .gateway operation source ∧ source.isGateway = false

namespace Gateway

section
variable {σ η M α β : Type}

/-- The result fails exactly where the source does, with the failure of the source wrapped. -/
def Wraps (operation : Operation) (source : Except Failure α) (result : Except Failure β) : Prop :=
  ∀ e, result = .error e ↔ ∃ inner, source = .error inner ∧ e = .gateway operation inner

variable (c : Connection σ η) (m : Mapping M)

/-! ## Where failures come from -/

def delivered (run : η → Binds → σ → Except Failure α × σ) (r : Request) (state : σ) :
    Except Failure α × σ :=
  match prepare c r state with
  | (.error e, after) => (.error e, after)
  | (.ok handle, after) => run handle r.binds after

def customModels (statement : Statement) (state : σ) : Except Failure (List M) :=
  match (c.query statement state).1 with
  | .error e => .error e
  | .ok records => records.mapM m.read

private theorem findAll_wraps (g : Gateway M) (filters : List Filter) (order : List Ordered)
    (s : Shared σ) : Wraps .findAll (hydration c m id g filters order s.connection)
      (g.findAll c m filters order s).1 := by
  intro e
  rw [findAll_eq]
  split <;> next h => simp [h, eq_comm]

private theorem findOne_wraps (g : Gateway M) (filters : List Filter) (order : List Ordered)
    (s : Shared σ) : Wraps .findOne (hydration c m (List.take 1) g filters order s.connection)
      (g.findOne c m filters order s).1 := by
  intro e
  rw [findOne_eq]
  split <;> next h => simp [h, eq_comm]

private theorem findCustom_wraps (statement : Statement) (state : σ) :
    Wraps .findCustom (customModels c m statement state) (findCustom c m statement state).1 := by
  intro e
  unfold findCustom customModels
  cases c.query statement state with
  | mk result after =>
    cases result with
    | error inner => simp [eq_comm]
    | ok records =>
      simp only
      cases records.mapM m.read <;> simp [eq_comm]

private theorem create_wraps (g : Gateway M) (model : M) (state : σ) :
    Wraps .create (execute c (insertion g.table (m.write model)) state).1
      (g.create c m model state).1 := by
  intro e
  unfold create
  split <;> next h => simp [h, eq_comm]

private theorem delete_wraps (g : Gateway M) (model : M) (state : σ) :
    Wraps .delete (execute c (removal g.table (m.write model)) state).1
      (g.delete c m model state).1 := by
  intro e
  unfold delete
  split <;> next h => simp [h, eq_comm]

private theorem update_wraps (g : Gateway M) (object : Tracked M) (state : σ) {before : M}
    (h : g.before? object = some before) :
    Wraps .update (execute c (replacement g.table (m.write before) (m.write object.model)) state).1
      (g.update c m object state).1 := by
  intro e
  simp only [update, h]
  split <;> next hexecute => simp [hexecute, eq_comm]

variable {c}

private theorem delivered_unprepared {run : η → Binds → σ → Except Failure α × σ} {r : Request}
    {state : σ} {e : Failure} (h : (c.prepare r.statement state).1 = .error e) :
    (delivered c run r state).1 = .error (withBinds r.binds e) := by
  unfold delivered prepare
  cases hp : c.prepare r.statement state with
  | mk result after =>
    rw [hp] at h
    obtain rfl : result = .error e := h
    rfl

private theorem withBinds_not_gateway {e : Failure} (h : e.isGateway = false) (binds : Binds) :
    (withBinds binds e).isGateway = false := by
  cases e <;> first | rfl | exact h

private theorem withBinds_uncompiled {d : Dialect} {s : Statement} {e : Failure}
    (h : s.compile d = .error e) (binds : Binds) : withBinds binds e = e := by
  cases (s.compile_error d e).mp h <;> rfl

private theorem prepare_not_gateway (hc : c.Reporting) {statement : Statement} {state : σ}
    {e : Failure}
    (h : (c.prepare statement state).1 = .error e) : e.isGateway = false := by
  rcases hc.prepare statement state e h with hcompile | ⟨cause, rfl⟩
  · exact Statement.compile_not_gateway hcompile
  · exact Statement.refused_not_gateway c.dialect statement cause

private theorem delivered_not_gateway (hc : c.Reporting)
    {run : η → Binds → σ → Except Failure α × σ}
    (hrun : ∀ handle binds state e, (run handle binds state).1 = .error e →
      ∃ sql bound cause, e = .execution sql bound cause)
    {r : Request} {state : σ} {e : Failure} (h : (delivered c run r state).1 = .error e) :
    e.isGateway = false := by
  cases hp : c.prepare r.statement state with
  | mk result after =>
    have hprepare : (c.prepare r.statement state).1 = result := by rw [hp]
    cases result with
    | error inner =>
      rw [delivered_unprepared hprepare] at h
      obtain rfl := Except.error.inj h
      exact withBinds_not_gateway (prepare_not_gateway hc hprepare) _
    | ok handle =>
      have hran : (run handle r.binds after).1 = .error e := by
        simpa only [delivered, prepare, hp] using h
      obtain ⟨sql, bound, cause, rfl⟩ := hrun handle r.binds after e hran
      rfl

/-- What a model fails to read of the records that are taken from those fetched. -/
def Unread (c : Connection σ η) (m : Mapping M) (taken : List Record → List Record) (r : Request)
    (state : σ) (e : Failure) : Prop :=
  ∃ records, (fetchAll c r state).1 = .ok records ∧ (taken records).mapM m.read = .error e

def UnreadCustom (c : Connection σ η) (m : Mapping M) (statement : Statement) (state : σ)
    (e : Failure) : Prop :=
  ∃ records, (c.query statement state).1 = .ok records ∧ records.mapM m.read = .error e

/-! ## The reports -/

end

/-- How the refusal of a request is reported: as an execution of the compiled text with the binds
that it was to run with. -/
def RefusedRequest (d : Dialect) (r : Request) (cause : String) (source : Failure) : Prop :=
  ∃ compiled, r.statement.compile d = .ok compiled ∧
    source = .execution compiled.sql r.binds.display cause

/-- How the refusal of a caller's statement is reported: by the driver, with the displayed text. -/
def RefusedStatement (d : Dialect) (s : Statement) (cause : String) (source : Failure) : Prop :=
  ∃ sql, s.evaluate d = .ok sql ∧ source = .driver cause sql

/-- How an operation that prepares a statement reports its failures. -/
structure Reports {σ η α : Type} (c : Connection σ η) (operation : Operation)
    (statement : Statement) (state : σ) (refusal : String → Failure → Prop)
    (unread : Failure → Prop) (result : Except Failure α) : Prop where
  /-- The operation is named once, unless the model itself has failed to read a record so. -/
  named : ∀ e, result = .error e →
    ∃ source, e = .gateway operation source ∧ (source.isGateway → unread source)
  uncompiled : ∀ e, (c.prepare statement state).1 = .error e →
    statement.compile c.dialect = .error e → result = .error (.gateway operation e)
  refused : ∀ cause source,
    (c.prepare statement state).1 = .error (statement.refused c.dialect cause) →
    refusal cause source → result = .error (.gateway operation source)
  passedOn : ∀ e, unread e → result = .error (.gateway operation e)

section
variable {σ η M α β : Type} {c : Connection σ η} {m : Mapping M}

private theorem Reports.wrapped {operation : Operation} {statement : Statement} {state : σ}
    {refusal : String → Failure → Prop} {unread : Failure → Prop} {result : Except Failure α}
    (h : Reports c operation statement state refusal unread result)
    (hunread : ∀ e, unread e → e.isGateway = false) : Wrapped operation result := by
  intro e he
  obtain ⟨source, rfl, hsource⟩ := h.named e he
  refine ⟨source, rfl, ?_⟩
  by_contra hgateway
  rw [Bool.not_eq_false] at hgateway
  rw [hunread source (hsource hgateway)] at hgateway
  cases hgateway

theorem Reports.of_request {operation : Operation} {r : Request} {state : σ}
    {unread : Failure → Prop} {source : Except Failure β} {result : Except Failure α}
    (hfits : r.Fits c.dialect) (hwraps : Wraps operation source result)
    (hprepare : ∀ e, (c.prepare r.statement state).1 = .error e →
      source = .error (withBinds r.binds e))
    (hgateway : ∀ e, source = .error e → e.isGateway → unread e)
    (hunread : ∀ e, unread e → source = .error e) :
    Reports c operation r.statement state (RefusedRequest c.dialect r) unread result where
  named e he := by
    obtain ⟨inner, hsource, rfl⟩ := (hwraps e).mp he
    exact ⟨inner, rfl, hgateway inner hsource⟩
  uncompiled e he hcompile := by
    have hsource := hprepare e he
    rw [withBinds_uncompiled hcompile] at hsource
    exact (hwraps _).mpr ⟨e, hsource, rfl⟩
  refused cause source he hrefusal := by
    obtain ⟨compiled, hcompile, rfl⟩ := hrefusal
    have hsource := hprepare _ he
    rw [Statement.refused_evaluated (hfits.evaluate hcompile)] at hsource
    exact (hwraps _).mpr ⟨_, hsource, rfl⟩
  passedOn e he := (hwraps _).mpr ⟨e, hunread e he, rfl⟩

private theorem execute_reports (hc : c.Reporting) {operation : Operation} {r : Request} {state : σ}
    {result : Except Failure α} (hfits : r.Fits c.dialect)
    (hwraps : Wraps operation (execute c r state).1 result) :
    Reports c operation r.statement state (RefusedRequest c.dialect r) (fun _ => False) result := by
  refine .of_request hfits hwraps (fun e he => delivered_unprepared he) ?_ (fun e he => he.elim)
  intro e he hgateway
  rw [delivered_not_gateway hc hc.execute he] at hgateway
  cases hgateway

private theorem hydration_reports (hc : c.Reporting) {operation : Operation}
    {taken : List Record → List Record} {g : Gateway M} {filters : List Filter}
    {order : List Ordered} {state : σ} {result : Except Failure α}
    (hwraps : Wraps operation (hydration c m taken g filters order state) result) :
    Reports c operation (selection g.table filters order).statement state
      (RefusedRequest c.dialect (selection g.table filters order))
      (Unread c m taken (selection g.table filters order) state) result := by
  have hfits := selection_fits c.dialect g.table filters order
  refine .of_request hfits hwraps (fun e he => ?_) (fun e he hgateway => ?_) (fun e he => ?_)
  · have hfetch : (fetchAll c (selection g.table filters order) state).1 =
        .error (withBinds (selection g.table filters order).binds e) := delivered_unprepared he
    rw [hydration, hfetch]
  · unfold hydration at he
    cases hfetch : (fetchAll c (selection g.table filters order) state).1 with
    | error inner =>
      rw [hfetch] at he
      obtain rfl := Except.error.inj he
      rw [delivered_not_gateway hc hc.fetch hfetch] at hgateway
      cases hgateway
    | ok records =>
      rw [hfetch] at he
      exact ⟨records, hfetch, he⟩
  · obtain ⟨records, hfetch, hread⟩ := he
    rw [hydration, hfetch]
    exact hread

private theorem query_unprepared {statement : Statement} {state : σ} {e : Failure}
    (h : (c.prepare statement state).1 = .error e) : (c.query statement state).1 = .error e := by
  unfold Connection.query
  cases hp : c.prepare statement state with
  | mk result after =>
    rw [hp] at h
    obtain rfl : result = .error e := h
    rfl

private theorem query_not_gateway (hc : c.Reporting) {statement : Statement} {state : σ}
    {e : Failure}
    (h : (c.query statement state).1 = .error e) : e.isGateway = false := by
  cases hp : c.prepare statement state with
  | mk result after =>
    have hprepare : (c.prepare statement state).1 = result := by rw [hp]
    cases result with
    | error inner =>
      rw [query_unprepared hprepare] at h
      obtain rfl := Except.error.inj h
      exact prepare_not_gateway hc hprepare
    | ok handle =>
      have hran : (c.fetch handle .empty after).1 = .error e := by
        simpa only [Connection.query, hp] using h
      obtain ⟨sql, bound, cause, rfl⟩ := hc.fetch handle .empty after e hran
      rfl

private theorem findCustom_reports (hc : c.Reporting) (statement : Statement) (state : σ) :
    Reports c .findCustom statement state (RefusedStatement c.dialect statement)
      (UnreadCustom c m statement state) (findCustom c m statement state).1 := by
  have hwraps := findCustom_wraps c m statement state
  have hunprepared {e : Failure} (he : (c.prepare statement state).1 = .error e) :
      (findCustom c m statement state).1 = .error (.gateway .findCustom e) := by
    refine (hwraps _).mpr ⟨e, ?_, rfl⟩
    rw [customModels, query_unprepared he]
  refine ⟨fun e he => ?_, fun e he _ => hunprepared he, fun cause source he hrefusal => ?_,
    fun e he => ?_⟩
  · obtain ⟨inner, hsource, rfl⟩ := (hwraps e).mp he
    refine ⟨inner, rfl, fun hgateway => ?_⟩
    unfold customModels at hsource
    cases hquery : (c.query statement state).1 with
    | error other =>
      rw [hquery] at hsource
      obtain rfl := Except.error.inj hsource
      rw [query_not_gateway hc hquery] at hgateway
      cases hgateway
    | ok records =>
      rw [hquery] at hsource
      exact ⟨records, hquery, hsource⟩
  · obtain ⟨sql, hsql, rfl⟩ := hrefusal
    rw [Statement.refused_evaluated hsql] at he
    exact hunprepared he
  · obtain ⟨records, hquery, hread⟩ := he
    refine (hwraps _).mpr ⟨e, ?_, rfl⟩
    rw [customModels, hquery]
    exact hread

end

/-- How all operations of a gateway report their failures. -/
structure Reported {σ η M : Type} (c : Connection σ η) (m : Mapping M) (g : Gateway M)
    (filters : List Filter) (order : List Ordered) (model : M) (object : Tracked M)
    (statement : Statement) (s : Shared σ) : Prop where
  findAll : Reports c .findAll (selection g.table filters order).statement s.connection
    (RefusedRequest c.dialect (selection g.table filters order))
    (Unread c m id (selection g.table filters order) s.connection)
    (g.findAll c m filters order s).1
  findOne : Reports c .findOne (selection g.table filters order).statement s.connection
    (RefusedRequest c.dialect (selection g.table filters order))
    (Unread c m (List.take 1) (selection g.table filters order) s.connection)
    (g.findOne c m filters order s).1
  create : Reports c .create (insertion g.table (m.write model)).statement s.connection
    (RefusedRequest c.dialect (insertion g.table (m.write model))) (fun _ => False)
    (g.create c m model s.connection).1
  unknown : g.before? object = none → (g.update c m object s.connection).1 = .ok false
  update : ∀ before, g.before? object = some before →
    Reports c .update (replacement g.table (m.write before) (m.write object.model)).statement
      s.connection
      (RefusedRequest c.dialect (replacement g.table (m.write before) (m.write object.model)))
      (fun _ => False) (g.update c m object s.connection).1
  delete : Reports c .delete (removal g.table (m.write model)).statement s.connection
    (RefusedRequest c.dialect (removal g.table (m.write model))) (fun _ => False)
    (g.delete c m model s.connection).1
  findCustom : Reports c .findCustom statement s.connection
    (RefusedStatement c.dialect statement) (UnreadCustom c m statement s.connection)
    (findCustom c m statement s.connection).1
  /-- A model that is itself read without a gateway never has an operation named twice. -/
  wrapped : (∀ record e, m.read record = .error e → e.isGateway = false) →
    Wrapped .findAll (g.findAll c m filters order s).1 ∧
      Wrapped .findOne (g.findOne c m filters order s).1 ∧
      Wrapped .create (g.create c m model s.connection).1 ∧
      Wrapped .update (g.update c m object s.connection).1 ∧
      Wrapped .delete (g.delete c m model s.connection).1 ∧
      Wrapped .findCustom (Gateway.findCustom c m statement s.connection).1

/-- Over a connection that reports its own failures every operation reports where it failed. -/
theorem failures_reported {σ η M : Type} {c : Connection σ η} (hc : c.Reporting) (m : Mapping M)
    (g : Gateway M) (filters : List Filter) (order : List Ordered) (model : M)
    (object : Tracked M) (statement : Statement) (s : Shared σ) :
    Reported c m g filters order model object statement s := by
  have hall := hydration_reports hc (findAll_wraps c m g filters order s)
  have hone := hydration_reports hc (findOne_wraps c m g filters order s)
  have hcreate := execute_reports hc (insertion_fits _ _ _) (create_wraps c m g model s.connection)
  have hupdate (before : M) (h : g.before? object = some before) :=
    execute_reports hc (replacement_fits _ _ _ _) (update_wraps c m g object s.connection h)
  have hdelete := execute_reports hc (removal_fits _ _ _) (delete_wraps c m g model s.connection)
  have hcustom := findCustom_reports (m := m) hc statement s.connection
  have hunknown (h : g.before? object = none) :
      (g.update c m object s.connection).1 = .ok false := by
    simp [update, h]
  refine ⟨hall, hone, hcreate, hunknown, hupdate, hdelete, hcustom, fun hread => ?_⟩
  have hrecords {records : List Record} {e : Failure} (h : records.mapM m.read = .error e) :
      e.isGateway = false := by
    obtain ⟨record, -, hrecord⟩ := mapM_eq_error h
    exact hread record e hrecord
  refine ⟨hall.wrapped ?_, hone.wrapped ?_, hcreate.wrapped (by simp), ?_,
    hdelete.wrapped (by simp), hcustom.wrapped ?_⟩
  · rintro e ⟨records, -, h⟩
    exact hrecords h
  · rintro e ⟨records, -, h⟩
    exact hrecords h
  · cases hbefore : g.before? object with
    | none =>
      intro e he
      rw [hunknown hbefore] at he
      cases he
    | some before => exact (hupdate before hbefore).wrapped (by simp)
  · rintro e ⟨records, -, h⟩
    exact hrecords h

theorem ofColumns_not_gateway (columns : List (String × ColumnType)) (record : Record) {e : Failure}
    (h : (Mapping.ofColumns columns).read record = .error e) : e.isGateway = false := by
  have hread (columns : List (String × ColumnType)) : ∀ found : Record,
      Mapping.readColumns record columns found = .error e → e.isGateway = false := by
    induction columns with
    | nil =>
      intro found h
      cases h
    | cons column columns ih =>
      intro found h
      unfold Mapping.readColumns at h
      split at h
      · next inner hrequire =>
        obtain rfl : inner = e := Except.error.inj h
        unfold Record.require at hrequire
        split at hrequire
        · obtain rfl := Except.error.inj hrequire
          rfl
        · split at hrequire
          · cases hrequire
          · obtain rfl := Except.error.inj hrequire
            rfl
      · exact ih _ h
  exact hread columns .empty h

private theorem eq_error {α : Type} {x : Except Failure α} {e : Failure}
    (h : (match x with
      | .ok _ => none
      | .error found => some found) = some e) : x = .error e := by
  cases x with
  | ok _ => cases h
  | error found => rw [Option.some.inj h]

/-- A create and a caller's statement over a table that is missing. -/
theorem failures_reported_missing :
    (create Store.connection (.ofColumns [("name", .text)]) (overTable "missing")
        (.ofList [("name", .text "Rex")]) .empty).1 =
      .error (.gateway .create (.execution "INSERT INTO missing (name) VALUES (:name)"
        ":name='Rex'" "no such table: missing")) ∧
    (findCustom Store.connection (.ofColumns [("name", .text)]) (onTable .source "missing")
        .empty).1 =
      .error (.gateway .findCustom
        (.driver "no such table: missing" "SELECT * FROM missing")) ∧
    Wrapped .findAll
      (findAll Store.connection (.ofColumns [("name", .text)]) (overTable "missing") [] []
        ⟨.empty, 1⟩).1 := by
  have h := failures_reported Store.connection_reporting (.ofColumns [("name", .text)])
    (overTable "missing") [] [] (.ofList [("name", .text "Rex")]) (.detached (.ofList []))
    (onTable .source "missing") ⟨.empty, 1⟩
  refine ⟨?_, ?_, ?_⟩
  · refine h.create.refused "no such table: missing" _ (eq_error (by decide +kernel)) ?_
    exact ⟨⟨"INSERT INTO missing (name) VALUES (:name)", []⟩, by decide +kernel, by decide +kernel⟩
  · refine h.findCustom.refused "no such table: missing" _ (eq_error (by decide +kernel)) ?_
    exact ⟨"SELECT * FROM missing", by decide +kernel, rfl⟩
  · exact (h.wrapped fun record e => ofColumns_not_gateway _ record).1

end Gateway
end RecordGateway
