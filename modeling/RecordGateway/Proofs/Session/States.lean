import RecordGateway.Proofs.Request.Masking
import RecordGateway.Proofs.Store.Soundness
/-! # What the state of a connection keeps -/
namespace RecordGateway

/-- Whatever is asked of the connection, its state keeps the property. -/
structure Connection.Keeps {σ η : Type} (c : Connection σ η) (P : σ → Prop) : Prop where
  prepare : ∀ s state, P state → P (c.prepare s state).2
  execute : ∀ handle binds state, P state → P (c.execute handle binds state).2
  fetch : ∀ handle binds state, P state → P (c.fetch handle binds state).2

theorem Store.connection_keeps : Store.connection.Keeps Store.Sound where
  prepare s store h := (prepare_unchanged s store).symm ▸ h
  execute handle binds store h :=
    (execute_unchanged handle binds store).symm ▸ run_sound h handle binds
  fetch handle binds _ h := run_sound h handle binds

namespace Connection.Keeps

variable {σ η M : Type} {c : Connection σ η} {P : σ → Prop}

private theorem gatewayPrepare (h : c.Keeps P) (r : Request) {state : σ} (hstate : P state) :
    P (Gateway.prepare c r state).2 := by
  have hnext := h.prepare r.statement state hstate
  unfold Gateway.prepare
  split <;> next hp => rwa [hp] at hnext

private theorem gatewayExecute (h : c.Keeps P) (r : Request) {state : σ} (hstate : P state) :
    P (Gateway.execute c r state).2 := by
  have hnext := h.gatewayPrepare r hstate
  unfold Gateway.execute
  split <;> next hp =>
    rw [hp] at hnext
    first | exact hnext | exact h.execute _ _ _ hnext

private theorem fetchAll (h : c.Keeps P) (r : Request) {state : σ} (hstate : P state) :
    P (Gateway.fetchAll c r state).2 := by
  have hnext := h.gatewayPrepare r hstate
  unfold Gateway.fetchAll
  split <;> next hp =>
    rw [hp] at hnext
    first | exact hnext | exact h.fetch _ _ _ hnext

private theorem query (h : c.Keeps P) (s : Statement) {state : σ} (hstate : P state) :
    P (c.query s state).2 := by
  have hnext := h.prepare s state hstate
  unfold Connection.query
  split <;> next hp =>
    rw [hp] at hnext
    first | exact hnext | exact h.fetch _ _ _ hnext

private theorem run (h : c.Keeps P) (s : Statement) (binds : Binds) {state : σ} (hstate : P state) :
    P (Session.run c s binds state).2 := by
  have hnext := h.prepare s state hstate
  unfold Session.run
  split
  · next hp => rwa [hp] at hnext
  · next handle after hp =>
    rw [hp] at hnext
    have hlast := h.execute handle binds after hnext
    split <;> next he => rwa [he] at hlast

private theorem update (h : c.Keeps P) (m : Mapping M) (g : Gateway M) (object : Tracked M)
    {state : σ}
    (hstate : P state) : P (g.update c m object state).2 := by
  cases hbefore : g.before? object with
  | none => rwa [Gateway.update_unknown c m g object state hbefore]
  | some before =>
    rw [Gateway.update_known c m g object state hbefore]
    exact h.gatewayExecute _ hstate

private theorem findCustom (h : c.Keeps P) (m : Mapping M) (s : Statement) {state : σ}
    (hstate : P state) :
    P (Gateway.findCustom c m s state).2 := by
  have hnext := h.query s hstate
  unfold Gateway.findCustom
  split
  · next hq => rwa [hq] at hnext
  · next hq =>
    rw [hq] at hnext
    split <;> exact hnext

private theorem answer_connection {α : Type} (s : Session σ M) (reply : α → Reply M)
    (result : Except Failure α × σ) : (s.answer reply result).1.shared.connection = result.2 := by
  obtain ⟨_ | _, _⟩ := result <;> rfl

private theorem step (h : c.Keeps P) (m : Nat → Mapping M) {s : Session σ M}
    (hs : P s.shared.connection)
    (command : Command M) : P (s.step c m command).1.shared.connection := by
  unfold Session.step
  split
  · next g _ =>
    cases command with
    | findAll filters order =>
      have hafter := h.fetchAll (selection g.table filters order) hs
      rw [← Gateway.findAll_state c (m s.current)] at hafter
      unfold Session.stepWith
      simp only
      split <;> exact hafter
    | findOne filters order =>
      have hafter := h.fetchAll (selection g.table filters order) hs
      rw [← Gateway.findOne_state c (m s.current)] at hafter
      unfold Session.stepWith
      simp only
      split <;> exact hafter
    | findCustom statement =>
      simp only [Session.stepWith, answer_connection]
      exact h.findCustom _ statement hs
    | create subject =>
      simp only [Session.stepWith]
      split
      · rw [answer_connection, Gateway.create_state]
        exact h.gatewayExecute _ hs
      · exact hs
    | delete subject =>
      simp only [Session.stepWith]
      split
      · rw [answer_connection, Gateway.delete_state]
        exact h.gatewayExecute _ hs
      · exact hs
    | update n =>
      simp only [Session.stepWith]
      split
      · rw [answer_connection]
        exact h.update _ g _ hs
      · exact hs
    | query statement =>
      simp only [Session.stepWith, answer_connection]
      exact h.query statement hs
    | execute statement binds =>
      simp only [Session.stepWith, answer_connection]
      exact h.run statement binds hs
    | _ =>
      simp only [Session.stepWith]
      split <;> exact hs
  · exact hs

theorem runAll (h : c.Keeps P) (m : Nat → Mapping M) {s : Session σ M} (hs : P s.shared.connection)
    (commands : List (Command M)) : P (s.runAll c m commands).shared.connection := by
  induction commands generalizing s with
  | nil => exact hs
  | cons command rest ih => exact ih (h.step m hs command)

end Connection.Keeps
end RecordGateway
