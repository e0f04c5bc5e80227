import RecordGateway.Gateway
/-! # Calls on a connection -/
namespace RecordGateway

namespace Connection

inductive Act (η : Type) where
  | prepare (statement : Statement)
  | execute (handle : η) (binds : Binds)
  | fetch (handle : η) (binds : Binds)

/-- The same connection with a list of all calls made on it, failed calls included. -/
def watched {σ η : Type} (c : Connection σ η) : Connection (σ × List (Act η)) η where
  dialect := c.dialect
  prepare s state :=
    let (result, after) := c.prepare s state.1
    (result, after, state.2 ++ [.prepare s])
  sql := c.sql
  execute handle binds state :=
    let (result, after) := c.execute handle binds state.1
    (result, after, state.2 ++ [.execute handle binds])
  fetch handle binds state :=
    let (result, after) := c.fetch handle binds state.1
    (result, after, state.2 ++ [.fetch handle binds])
  lastInsertId state := c.lastInsertId state.1

end Connection

namespace Gateway

theorem eq_ok {α ε σ : Type} {x : Except ε α × σ} {a : α} {state : σ} (h : x.1.toOption = some a)
    (hstate : x.2 = state) : x = (.ok a, state) := by
  obtain ⟨result, after⟩ := x
  cases result with
  | error e => cases h
  | ok b => rw [← hstate, ← Option.some.inj h]

variable {σ η M : Type} (c : Connection σ η) (m : Mapping M)

/-- A request is prepared once, and executed once if that gives a handle. -/
inductive Delivers (r : Request) (state : σ) :
    List (Connection.Act η) → Except Failure Nat → σ → Prop where
  | refused {e : Failure} {after : σ} (prepared : c.prepare r.statement state = (.error e, after)) :
      Delivers r state [.prepare r.statement] (.error (withBinds r.binds e)) after
  | ran {handle : η} {between after : σ} {result : Except Failure Nat}
      (prepared : c.prepare r.statement state = (.ok handle, between))
      (executed : c.execute handle r.binds between = (result, after)) :
      Delivers r state [.prepare r.statement, .execute handle r.binds] result after

private theorem execute_delivers (r : Request) (state : σ) (log : List (Connection.Act η)) :
    ∃ acts result after, Delivers c r state acts result after ∧
      execute c r state = (result, after) ∧
      execute c.watched r (state, log) = (result, after, log ++ acts) := by
  cases hp : c.prepare r.statement state with
  | mk prepared between =>
    cases prepared with
    | error e =>
      refine ⟨_, _, _, .refused hp, ?_, ?_⟩
      · simp [execute, prepare, hp]
      · simp [execute, prepare, Connection.watched, hp]
    | ok handle =>
      cases he : c.execute handle r.binds between with
      | mk result after =>
        refine ⟨_, _, _, .ran hp he, ?_, ?_⟩
        · simp [execute, prepare, hp, he]
        · simp [execute, prepare, Connection.watched, hp, he]

def updateAnswer : Except Failure Nat → Except Failure Bool
  | .ok _ => .ok true
  | .error e => .error (.gateway .update e)

theorem update_unknown (g : Gateway M) (object : Tracked M) (state : σ)
    (h : g.before? object = none) : g.update c m object state = (.ok false, state) := by
  simp [update, h]

theorem update_known (g : Gateway M) (object : Tracked M) (state : σ) {before : M}
    (h : g.before? object = some before) :
    g.update c m object state =
      ((updateAnswer (execute c (replacement g.table (m.write before) (m.write object.model))
          state).1),
        (execute c (replacement g.table (m.write before) (m.write object.model)) state).2) := by
  simp only [update, h]
  split <;> next he => simp [he, updateAnswer]

theorem update_delivers (g : Gateway M) (object : Tracked M) (state : σ)
    (log : List (Connection.Act η)) {before : M} (h : g.before? object = some before) :
    ∃ acts result after,
      Delivers c (replacement g.table (m.write before) (m.write object.model)) state acts result
        after ∧
      g.update c m object state = (updateAnswer result, after) ∧
      g.update c.watched m object (state, log) = (updateAnswer result, after, log ++ acts) := by
  obtain ⟨acts, result, after, hd, hplain, hwatched⟩ := execute_delivers c
    (replacement g.table (m.write before) (m.write object.model)) state log
  refine ⟨acts, result, after, hd, ?_, ?_⟩
  · rw [update_known c m g object state h, hplain]
  · rw [update_known c.watched m g object (state, log) h, hwatched]

def deleteAnswer : Except Failure Nat → Except Failure Nat
  | .ok count => .ok count
  | .error e => .error (.gateway .delete e)

theorem delete_delivers (g : Gateway M) (model : M) (state : σ) (log : List (Connection.Act η)) :
    ∃ acts result after, Delivers c (removal g.table (m.write model)) state acts result after ∧
      g.delete c m model state = (deleteAnswer result, after) ∧
      g.delete c.watched m model (state, log) = (deleteAnswer result, after, log ++ acts) := by
  obtain ⟨acts, result, after, hd, hplain, hwatched⟩ := execute_delivers c
    (removal g.table (m.write model)) state log
  refine ⟨acts, result, after, hd, ?_, ?_⟩
  · rw [delete, hplain]
    cases result <;> rfl
  · rw [delete, hwatched]
    cases result <;> rfl

end Gateway
end RecordGateway
