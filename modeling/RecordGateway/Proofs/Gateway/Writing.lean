import RecordGateway.Connection.Scripted
import RecordGateway.Proofs.Connection.Calls
import RecordGateway.Proofs.Request.Parts
import RecordGateway.Store
/-!
# What a write sends

An update and a delete each ask their connection for one request.
-/
namespace RecordGateway.Gateway

open Request

variable {σ η M : Type} (c : Connection σ η) (m : Mapping M)

/-- The calls of one request whose text and binds are the given ones. -/
def Sends (sql : String) (binds : List (String × Value)) (state : σ)
    (acts : List (Connection.Act η)) (result : Except Failure Nat) (after : σ) : Prop :=
  ∃ r : Request, r.statement.compile c.dialect = .ok ⟨sql, []⟩ ∧ r.binds.entries = binds ∧
    Delivers c r state acts result after

private theorem update_sends (g : Gateway M) (object : Tracked M) (state : σ)
    (log : List (Connection.Act η)) {before : M} (hbefore : g.before? object = some before)
    (hcurrent : (m.write object.model).entries ≠ []) :
    ∃ acts result after,
      Sends c ("UPDATE " ++ g.table ++ " SET " ++
          String.intercalate ", " (assignTexts (m.write object.model)) ++
          whereText (matchTexts (m.write before)))
        (assignBinds (m.write object.model) ++ matchBinds (m.write before))
        state acts result after ∧
      g.update c.watched m object (state, log) = (updateAnswer result, after, log ++ acts) := by
  obtain ⟨acts, result, after, hd, -, hwatched⟩ := update_delivers c m g object state log hbefore
  refine ⟨acts, result, after, ⟨_, ?_, ?_, hd⟩, hwatched⟩
  · exact replacement_compile c.dialect g.table hcurrent
  · exact replacement_binds g.table (m.write before) (m.write object.model)

private theorem delete_sends (g : Gateway M) (model : M) (state : σ)
    (log : List (Connection.Act η)) :
    ∃ acts result after,
      Sends c ("DELETE FROM " ++ g.table ++ whereText (matchTexts (m.write model)))
        (matchBinds (m.write model)) state acts result after ∧
      g.delete c.watched m model (state, log) = (deleteAnswer result, after, log ++ acts) := by
  obtain ⟨acts, result, after, hd, -, hwatched⟩ := delete_delivers c m g model state log
  exact ⟨acts, result, after, ⟨_, removal_compile c.dialect g.table (m.write model), rfl, hd⟩,
    hwatched⟩

def crossed : Record := .ofList [("k", .text "a"), ("x", .null)]

private theorem names_distinct (previous current : Record) :
    ((assignBinds current ++ matchBinds previous).map Prod.fst).Nodup := by
  rw [← replacement_binds "" previous current]
  exact (replacement "" previous current).binds.values.distinct

/-- The condition of an update is that of a delete of the before-image, with the same binds for
any record that is written; the assignments and their binds are the same for any before-image.
No name serves both. -/
theorem writes_seek_alike (g : Gateway M) (before : M) :
    (∀ (object : Tracked M) (state : σ) (log : List (Connection.Act η)),
      g.before? object = some before → (m.write object.model).entries ≠ [] →
      ∃ acts result after,
        Sends c ("UPDATE " ++ g.table ++ " SET " ++
            String.intercalate ", " (assignTexts (m.write object.model)) ++
            whereText (matchTexts (m.write before)))
          (assignBinds (m.write object.model) ++ matchBinds (m.write before))
          state acts result after ∧
        g.update c.watched m object (state, log) =
          (updateAnswer result, after, log ++ acts)) ∧
    (∀ (model : M) (state : σ) (log : List (Connection.Act η)), m.write model = m.write before →
      ∃ acts result after,
        Sends c ("DELETE FROM " ++ g.table ++ whereText (matchTexts (m.write before)))
          (matchBinds (m.write before)) state acts result after ∧
        g.delete c.watched m model (state, log) = (deleteAnswer result, after, log ++ acts)) ∧
    List.Forall₂ (Asks (matchBinds (m.write before))) (m.write before).entries
      (matchTexts (m.write before)) ∧
    ∀ current : Record,
      List.Forall₂ (Sets (assignBinds current)) current.entries (assignTexts current) ∧
      ((assignBinds current ++ matchBinds (m.write before)).map Prod.fst).Nodup := by
  refine ⟨?_, ?_, matchTexts_ask _, fun current => ⟨assignTexts_set current, names_distinct _ _⟩⟩
  · intro object state log hbefore hcurrent
    exact update_sends c m g object state log hbefore hcurrent
  · intro model state log hmodel
    rw [← hmodel]
    exact delete_sends c m g model state log

/-- Columns whose names look like names of the condition, and like each other once sanitized. -/
theorem writes_seek_alike_crossing : ∃ acts result after,
    Sends (Scripted.connection .sqlite)
      "UPDATE kv SET o_k = :n_o_k, `o k` = :n_o_k_2 WHERE k = :o_k AND x IS NULL"
      [(":n_o_k", .integer 1), (":n_o_k_2", .integer 2), (":o_k", .text "a")]
      (Scripted.start []) acts result after ∧
    update (Scripted.connection .sqlite).watched .identity ⟨"kv", [(1, crossed)]⟩
        ⟨some 1, .ofList [("o_k", .integer 1), ("o k", .integer 2)]⟩ (Scripted.start [], []) =
      (updateAnswer result, after, acts) :=
  (writes_seek_alike (Scripted.connection .sqlite) .identity ⟨"kv", [(1, crossed)]⟩ crossed).1
    ⟨some 1, .ofList [("o_k", .integer 1), ("o k", .integer 2)]⟩ (Scripted.start []) [] rfl
    (by decide)

/-! ## Writes without a condition -/

/-- A write has a condition exactly when the record whose row it looks for has a column, and the
condition then asks for every column of the record. An update without assignments has no text. -/
theorem writes_conditioned (g : Gateway M) :
    (∀ (object : Tracked M) (before : M) (state : σ) (log : List (Connection.Act η)),
      g.before? object = some before → (m.write object.model).entries ≠ [] →
      ∃ assignments conditions binds acts result after,
        Sends c ("UPDATE " ++ g.table ++ " SET " ++ String.intercalate ", " assignments ++
            if (m.write before).entries = [] then ""
            else " WHERE " ++ String.intercalate " AND " conditions)
          binds state acts result after ∧
        g.update c.watched m object (state, log) = (updateAnswer result, after, log ++ acts) ∧
        List.Forall₂ (Sets binds) (m.write object.model).entries assignments ∧
        List.Forall₂ (Asks binds) (m.write before).entries conditions) ∧
    (∀ (model : M) (state : σ) (log : List (Connection.Act η)),
      ∃ conditions binds acts result after,
        Sends c ("DELETE FROM " ++ g.table ++
            if (m.write model).entries = [] then ""
            else " WHERE " ++ String.intercalate " AND " conditions)
          binds state acts result after ∧
        g.delete c.watched m model (state, log) = (deleteAnswer result, after, log ++ acts) ∧
        List.Forall₂ (Asks binds) (m.write model).entries conditions) ∧
    ∀ (model before : M), (m.write model).entries = [] → ∀ compiled,
      (replacement g.table (m.write before) (m.write model)).statement.compile c.dialect ≠
        .ok compiled := by
  refine ⟨?_, ?_, ?_⟩
  · intro object before state log hbefore hcurrent
    obtain ⟨acts, result, after, hsends, hupdate⟩ :=
      update_sends c m g object state log hbefore hcurrent
    rw [whereText_matchTexts] at hsends
    refine ⟨_, _, _, acts, result, after, hsends, hupdate, ?_, ?_⟩
    · exact (assignTexts_set _).imp fun _ _ h => h.mono (List.subset_append_left _ _)
    · exact (matchTexts_ask _).imp fun _ _ h => h.mono (List.subset_append_right _ _)
  · intro model state log
    obtain ⟨acts, result, after, hsends, hdelete⟩ := delete_sends c m g model state log
    rw [whereText_matchTexts] at hsends
    exact ⟨_, _, acts, result, after, hsends, hdelete, matchTexts_ask _⟩
  · intro model before hempty compiled hcompile
    exact (replacement_compiles c.dialect g.table _ _).mp ⟨compiled, hcompile⟩ hempty

/-- Two rows under `k`, and the number of rows that the last statement changed. -/
def pairStore (first second : String) (changes : Nat) : Store :=
  ⟨[⟨"kv", [⟨"k", "", false⟩], none,
    [⟨1, [Store.textCell first]⟩, ⟨2, [Store.textCell second]⟩]⟩], [], 2, changes⟩

/-- A delete of a record without columns takes every row, and an update of an object that was read
without columns rewrites every row. -/
theorem unconditioned_writes :
    delete Store.connection.recorded .identity (overTable "kv") .empty (pairStore "a" "b" 1, []) =
      (.ok 2, ⟨[⟨"kv", [⟨"k", "", false⟩], none, []⟩], [], 2, 2⟩,
        [.prepared ⟨"DELETE FROM kv", []⟩, .executed "DELETE FROM kv" .empty]) ∧
    update Store.connection.recorded .identity ⟨"kv", [(1, .empty)]⟩
        ⟨some 1, .ofList [("k", .text "c")]⟩ (pairStore "a" "b" 1, []) =
      (.ok true, pairStore "c" "c" 2,
        [.prepared ⟨"UPDATE kv SET k = :n_k", []⟩,
          .executed "UPDATE kv SET k = :n_k" (.ofList [("n_k", .text "c")])]) :=
  ⟨eq_ok (by decide +kernel) (by decide +kernel), eq_ok (by decide +kernel) (by decide +kernel)⟩

/-- A row that was read with two columns, one of them null, is updated under two conditions. -/
theorem writes_conditioned_row : ∃ assignments conditions binds acts result after,
    Sends (Scripted.connection .sqlite)
      ("UPDATE kv SET " ++ String.intercalate ", " assignments ++
        (" WHERE " ++ String.intercalate " AND " conditions))
      binds (Scripted.start []) acts result after ∧
    update (Scripted.connection .sqlite).watched .identity ⟨"kv", [(1, crossed)]⟩
        ⟨some 1, .ofList [("k", .text "b")]⟩ (Scripted.start [], []) =
      (updateAnswer result, after, acts) ∧
    List.Forall₂ (Sets binds) [("k", .text "b")] assignments ∧
    List.Forall₂ (Asks binds) [("k", .text "a"), ("x", .null)] conditions :=
  (writes_conditioned (Scripted.connection .sqlite) .identity ⟨"kv", [(1, crossed)]⟩).1
    ⟨some 1, .ofList [("k", .text "b")]⟩ crossed (Scripted.start []) [] rfl (by decide)

end RecordGateway.Gateway
