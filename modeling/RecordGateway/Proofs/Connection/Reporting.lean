import RecordGateway.Connection.Scripted
import RecordGateway.Store
/-!
# Connections that report their failures

A statement that is not prepared does not compile, or the driver has refused it, and the refusal
is reported with the statement as it is displayed.
-/
namespace RecordGateway

structure Connection.Reporting {σ η : Type} (c : Connection σ η) : Prop where
  prepare : ∀ s state e, (c.prepare s state).1 = .error e →
    s.compile c.dialect = .error e ∨ ∃ cause, e = s.refused c.dialect cause
  execute : ∀ handle binds state e, (c.execute handle binds state).1 = .error e →
    ∃ sql bound cause, e = .execution sql bound cause
  fetch : ∀ handle binds state e, (c.fetch handle binds state).1 = .error e →
    ∃ sql bound cause, e = .execution sql bound cause

namespace Store

theorem run_error {handle : Handle} {binds : Binds} {store : Store} {e : Failure}
    (h : (run handle binds store).1 = .error e) : ∃ cause, e = failure handle binds cause := by
  unfold run at h
  simp only at h
  split at h
  · exact ⟨_, (Except.error.inj h).symm⟩
  · cases hperform : (store.perform (bindings handle binds) handle.query).1 with
    | error cause =>
      rw [hperform] at h
      exact ⟨cause, (Except.error.inj h).symm⟩
    | ok records =>
      rw [hperform] at h
      cases h

theorem execute_error {handle : Handle} {binds : Binds} {store : Store} {e : Failure}
    (h : (execute handle binds store).1 = .error e) : ∃ cause, e = failure handle binds cause := by
  unfold execute at h
  split at h
  · next hrun =>
    obtain rfl := Except.error.inj h
    exact run_error (congrArg Prod.fst hrun)
  · cases h
  · exact ⟨_, (Except.error.inj h).symm⟩

theorem connection_reporting : connection.Reporting where
  prepare s store e h := by
    have hprepare : (prepare s store).1 = .error e := h
    unfold prepare at hprepare
    split at hprepare
    · next hcompile =>
      obtain rfl := Except.error.inj hprepare
      exact .inl hcompile
    · split at hprepare
      · exact .inr ⟨_, (Except.error.inj hprepare).symm⟩
      · cases hprepare
  execute handle binds store e h := by
    obtain ⟨cause, rfl⟩ := execute_error h
    exact ⟨_, _, cause, rfl⟩
  fetch handle binds store e h := by
    obtain ⟨cause, rfl⟩ := run_error h
    exact ⟨_, _, cause, rfl⟩

end Store

theorem Scripted.connection_reporting (d : Dialect) : (connection d).Reporting where
  prepare s state e h := by
    have hprepare : (prepare d s state).1 = .error e := h
    unfold prepare at hprepare
    split at hprepare
    · next hcompile =>
      obtain rfl := Except.error.inj hprepare
      exact .inl hcompile
    · simp only at hprepare
      split at hprepare
      · exact .inr ⟨_, (Except.error.inj hprepare).symm⟩
      · cases hprepare
  execute handle binds state e h := by
    have hexecute : (Scripted.execute handle binds state).1 = .error e := h
    unfold Scripted.execute at hexecute
    split at hexecute
    · exact ⟨_, _, _, (Except.error.inj hexecute).symm⟩
    · cases hexecute
  fetch handle binds state e h := by
    have hfetch : (Scripted.fetch handle binds state).1 = .error e := h
    unfold Scripted.fetch at hfetch
    split at hfetch
    · exact ⟨_, _, _, (Except.error.inj hfetch).symm⟩
    · cases hfetch

end RecordGateway
