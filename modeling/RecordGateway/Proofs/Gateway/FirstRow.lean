import RecordGateway.Connection.Scripted
import RecordGateway.Proofs.Connection.Calls
import RecordGateway.Proofs.Lists
import RecordGateway.Proofs.Session.Deeds
/-!
# The first of the rows

A read of one row asks its connection for the same as a read of all rows, and gives the object
that the other read gives first, with the same before-image.
-/
namespace RecordGateway.Gateway

variable {σ η M : Type} (c : Connection σ η) (m : Mapping M)

/-- A request is prepared once, and its rows are fetched once if that gives a handle. -/
inductive Fetches (r : Request) (state : σ) :
    List (Connection.Act η) → Except Failure (List Record) → σ → Prop where
  | refused {e : Failure} {after : σ} (prepared : c.prepare r.statement state = (.error e, after)) :
      Fetches r state [.prepare r.statement] (.error (withBinds r.binds e)) after
  | ran {handle : η} {between after : σ} {result : Except Failure (List Record)}
      (prepared : c.prepare r.statement state = (.ok handle, between))
      (fetched : c.fetch handle r.binds between = (result, after)) :
      Fetches r state [.prepare r.statement, .fetch handle r.binds] result after

private theorem fetchAll_fetches (r : Request) (state : σ) (log : List (Connection.Act η)) :
    ∃ acts result after, Fetches c r state acts result after ∧
      fetchAll c r state = (result, after) ∧
      fetchAll c.watched r (state, log) = (result, after, log ++ acts) := by
  cases hp : c.prepare r.statement state with
  | mk prepared between =>
    cases prepared with
    | error e =>
      refine ⟨_, _, _, .refused hp, ?_, ?_⟩
      · simp [fetchAll, prepare, hp]
      · simp [fetchAll, prepare, Connection.watched, hp]
    | ok handle =>
      cases hf : c.fetch handle r.binds between with
      | mk result after =>
        refine ⟨_, _, _, .ran hp hf, ?_, ?_⟩
        · simp [fetchAll, prepare, hp, hf]
        · simp [fetchAll, prepare, Connection.watched, hp, hf]

def watching (s : Shared σ) (log : List (Connection.Act η)) :
    Shared (σ × List (Connection.Act η)) :=
  ⟨(s.connection, log), s.nextToken⟩

abbrev Outcome (σ M α : Type) := Except Failure α × Gateway M × Shared σ

/-- The outcome over a watched connection, with the calls made until then. -/
def logged {α : Type} (outcome : Outcome σ M α) (log : List (Connection.Act η)) :
    Outcome (σ × List (Connection.Act η)) M α :=
  (outcome.1, outcome.2.1, watching outcome.2.2 log)

/-- What a read of one row gives beside a read of all rows from the same state. -/
structure First (g : Gateway M) (fetched : Except Failure (List Record))
    (all : Outcome σ M (List (Tracked M))) (one : Outcome σ M (Option (Tracked M))) : Prop where
  none_iff : ∀ rows, fetched = .ok rows → (one.1 = .ok none ↔ rows = [])
  /-- Of the before-images that the read of all rows adds, the first is added. -/
  found : ∀ object others, all.1 = .ok (object :: others) → one.1 = .ok (some object) ∧
    ∃ entry entries, object = attached entry ∧ others = entries.map attached ∧
      all.2.1 = { g with snapshots := g.snapshots ++ entry :: entries } ∧
      one.2.1 = { g with snapshots := g.snapshots ++ [entry] }
  before : ∀ object others, all.1 = .ok (object :: others) →
    one.2.1.before? object = all.2.1.before? object ∧
      (g.before? object = none → one.2.1.before? object = some object.model)
  failure : ∀ e, one.1 = .error e →
    ∃ source, e = .gateway .findOne source ∧ all.1 = .error (.gateway .findAll source)

namespace First

variable {g : Gateway M} {fetched : Except Failure (List Record)}
  {all : Outcome σ M (List (Tracked M))} {one : Outcome σ M (Option (Tracked M))}

theorem failed (source : Failure) (hfetched : fetched ≠ .ok [])
    (hall : all.1 = .error (.gateway .findAll source))
    (hone : one.1 = .error (.gateway .findOne source)) : First g fetched all one where
  none_iff rows hrows := by
    have hne : rows ≠ [] := fun h => hfetched (h ▸ hrows)
    simp [hone, hne]
  found object others h := by simp [hall] at h
  before object others h := by simp [hall] at h
  failure e h := ⟨source, by simpa [hone] using h.symm, hall⟩

private theorem empty (hfetched : fetched = .ok []) (hall : all.1 = .ok [])
    (hone : one.1 = .ok none) :
    First g fetched all one where
  none_iff rows hrows := by simpa [hone, hfetched, eq_comm] using hrows
  found object others h := by simp [hall] at h
  before object others h := by simp [hall] at h
  failure e h := by simp [hone] at h

theorem hydrated (entry : Token × M) (hfetched : fetched ≠ .ok [])
    (hone : one.1 = .ok (some (attached entry)))
    (hkept : one.2.1 = { g with snapshots := g.snapshots ++ [entry] })
    (hall : (∃ e, all.1 = .error e) ∨ ∃ entries, all.1 = .ok ((entry :: entries).map attached) ∧
      all.2.1 = { g with snapshots := g.snapshots ++ entry :: entries }) :
    First g fetched all one := by
  have hbefore (entries : List (Token × M)) :
      before? { g with snapshots := g.snapshots ++ entry :: entries } (attached entry) =
        (g.before? (attached entry)).or (some entry.2) := by
    have hnew : List.lookup entry.1 (entry :: entries) = some entry.2 := List.lookup_cons_self
    simp only [before?, attached, Option.bind_some, List.lookup_append, hnew]
  refine ⟨fun rows hrows => ?_, fun object others h => ?_, fun object others h => ?_, ?_⟩
  · have hne : rows ≠ [] := fun h => hfetched (h ▸ hrows)
    simp [hone, hne]
  · obtain ⟨e, he⟩ | ⟨entries, hentries, hall⟩ := hall
    · simp [he] at h
    · rw [hentries, List.map_cons, Except.ok.injEq, List.cons.injEq] at h
      obtain ⟨rfl, rfl⟩ := h
      exact ⟨hone, entry, entries, rfl, rfl, hall, hkept⟩
  · obtain ⟨e, he⟩ | ⟨entries, hentries, hall⟩ := hall
    · simp [he] at h
    · rw [hentries, List.map_cons, Except.ok.injEq, List.cons.injEq] at h
      obtain ⟨rfl, -⟩ := h
      rw [hkept, hall, hbefore, hbefore]
      refine ⟨rfl, fun hnew => ?_⟩
      rw [hnew]
      rfl
  · intro e h
    simp [hone] at h

end First

section
variable {g : Gateway M} {filters : List Filter} {order : List Ordered} {s : Shared σ}
  {fetched : Except Failure (List Record)} {after : σ}

private theorem first_of_fetched
    (h : fetchAll c (selection g.table filters order) s.connection = (fetched, after)) :
    First g fetched (g.findAll c m filters order s) (g.findOne c m filters order s) := by
  cases fetched with
  | error e => exact .failed e (by simp) (by simp only [findAll, h]) (by simp only [findOne, h])
  | ok rows =>
    cases rows with
    | nil => exact .empty rfl (by simp only [findAll, h]; rfl) (by simp only [findOne, h])
    | cons record records =>
      cases hr : m.read record with
      | error e =>
        have hall : (record :: records).mapM m.read = .error e := by
          rw [List.mapM_cons, hr]
          rfl
        exact .failed e (by simp) (by simp only [findAll, h, hall]) (by simp only [findOne, h, hr])
      | ok model =>
        refine .hydrated (s.nextToken, model) (by simp) (by simp only [findOne, h, hr]; rfl)
          (by simp only [findOne, h, hr]) ?_
        cases hall : (record :: records).mapM m.read with
        | error e => exact .inl ⟨.gateway .findAll e, by simp only [findAll, h, hall]⟩
        | ok models =>
          obtain ⟨first, others, hread, -, rfl⟩ :=
            List.forall₂_cons_left_iff.mp (mapM_eq_ok.mp hall)
          obtain rfl : model = first := Except.ok.inj (hr.symm.trans hread)
          exact .inr ⟨track others (s.nextToken + 1), by simp only [findAll, h, hall]; rfl,
            by simp only [findAll, h, hall]; rfl⟩

private theorem findAll_logged {log acts : List (Connection.Act η)}
    (h : fetchAll c (selection g.table filters order) s.connection = (fetched, after))
    (hwatched : fetchAll c.watched (selection g.table filters order) (s.connection, log) =
      (fetched, after, log ++ acts)) :
    (g.findAll c m filters order s).2.2.connection = after ∧
      g.findAll c.watched m filters order (watching s log) =
        logged (g.findAll c m filters order s) (log ++ acts) := by
  have hrows : fetchAll c.watched (selection g.table filters order) (watching s log).connection =
      (fetched, after, log ++ acts) := hwatched
  simp only [findAll, h, hrows]
  cases fetched with
  | error e => exact ⟨rfl, rfl⟩
  | ok rows =>
    dsimp only
    cases rows.mapM m.read <;> exact ⟨rfl, rfl⟩

private theorem findOne_logged {log acts : List (Connection.Act η)}
    (h : fetchAll c (selection g.table filters order) s.connection = (fetched, after))
    (hwatched : fetchAll c.watched (selection g.table filters order) (s.connection, log) =
      (fetched, after, log ++ acts)) :
    (g.findOne c m filters order s).2.2.connection = after ∧
      g.findOne c.watched m filters order (watching s log) =
        logged (g.findOne c m filters order s) (log ++ acts) := by
  have hrows : fetchAll c.watched (selection g.table filters order) (watching s log).connection =
      (fetched, after, log ++ acts) := hwatched
  simp only [findOne, h, hrows]
  cases fetched with
  | error e => exact ⟨rfl, rfl⟩
  | ok rows =>
    cases rows with
    | nil => exact ⟨rfl, rfl⟩
    | cons record records =>
      dsimp only
      cases m.read record <;> exact ⟨rfl, rfl⟩

end

/-- A read of one row and a read of all rows from the same state make the same calls and leave the
connection in the same state, and the one gives the first of what the other gives. -/
theorem findOne_first (g : Gateway M) (filters : List Filter) (order : List Ordered) (s : Shared σ)
    (log : List (Connection.Act η)) :
    ∃ acts fetched after,
      Fetches c (selection g.table filters order) s.connection acts fetched after ∧
      ((g.findAll c m filters order s).2.2.connection = after ∧
        g.findAll c.watched m filters order (watching s log) =
          logged (g.findAll c m filters order s) (log ++ acts)) ∧
      ((g.findOne c m filters order s).2.2.connection = after ∧
        g.findOne c.watched m filters order (watching s log) =
          logged (g.findOne c m filters order s) (log ++ acts)) ∧
      First g fetched (g.findAll c m filters order s) (g.findOne c m filters order s) := by
  obtain ⟨acts, fetched, after, hfetches, hplain, hwatched⟩ :=
    fetchAll_fetches c (selection g.table filters order) s.connection log
  exact ⟨acts, fetched, after, hfetches, findAll_logged c m hplain hwatched,
    findOne_logged c m hplain hwatched, first_of_fetched c m hplain⟩

/-- A second row without a name is no obstacle to a read of one row. -/
example :
    let script : List Scripted.Answer := [⟨none, none, none, 0,
      [.ofList [("name", .text "Ann")], .ofList [("name", .null)]]⟩]
    let columns : Mapping Record := .ofColumns [("name", .text)]
    let people : Gateway Record := overTable "people"
    (people.findAll (Scripted.connection .sqlite) columns [] [] ⟨Scripted.start script, 1⟩).1 =
        .error (.gateway .findAll (.typeMismatch "name" "TEXT" "NULL")) ∧
      (people.findOne (Scripted.connection .sqlite) columns [] [] ⟨Scripted.start script, 1⟩).1 =
        .ok (some ⟨some 1, .ofList [("name", .text "Ann")]⟩) := by
  exact ⟨rfl, rfl⟩

end RecordGateway.Gateway
