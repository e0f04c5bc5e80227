import RecordGateway.Session
/-!
# Commands carried out

What one command does to the before-images of a session, and to the tokens to come.
-/
namespace RecordGateway

def Tracked.pair? {M : Type} (object : Tracked M) : Option (Token × M) :=
  object.token.map fun token => (token, object.model)

namespace Gateway

private theorem pair?_attached {M : Type} (entry : Token × M) :
    (attached entry).pair? = some entry := rfl

private theorem filterMap_attached {M : Type} (entries : List (Token × M)) :
    (entries.map attached).filterMap Tracked.pair? = entries := by
  induction entries with
  | nil => rfl
  | cons entry rest ih => rw [List.map_cons, List.filterMap_cons, pair?_attached, ih]

theorem track_tokens {M : Type} (models : List M) (first : Token) :
    (track models first).map Prod.fst = List.range' first models.length := by
  induction models generalizing first with
  | nil => rfl
  | cons model models ih =>
    simp only [track, List.zipIdx_cons, List.map_cons, List.length_cons, List.range'_succ]
    exact congrArg _ (ih (first + 1))

theorem track_models {M : Type} (models : List M) (first : Token) :
    (track models first).map Prod.snd = models := by
  induction models generalizing first with
  | nil => rfl
  | cons model models ih =>
    simp only [track, List.zipIdx_cons, List.map_cons]
    exact congrArg _ (ih (first + 1))

private theorem track_length {M : Type} (models : List M) (first : Token) :
    (track models first).length = models.length := by
  simp [track]

section
variable {σ η M : Type} (c : Connection σ η) (m : Mapping M)

/-- The models that a read makes of the rows it takes from those fetched. -/
def hydration (taken : List Record → List Record) (g : Gateway M) (filters : List Filter)
    (order : List Ordered) (state : σ) : Except Failure (List M) :=
  match (fetchAll c (selection g.table filters order) state).1 with
  | .error e => .error e
  | .ok records => (taken records).mapM m.read

/-- A gateway and a counter after models have been read into them. -/
def kept (g : Gateway M) (s : Shared σ) (models : List M) (after : σ) : Gateway M × Shared σ :=
  ({ g with snapshots := g.snapshots ++ track models s.nextToken },
    ⟨after, s.nextToken + models.length⟩)

private theorem kept_nil (g : Gateway M) (s : Shared σ) (after : σ) :
    kept g s [] after = (g, { s with connection := after }) := by
  simp [kept, track]

theorem findAll_eq (g : Gateway M) (filters : List Filter) (order : List Ordered) (s : Shared σ) :
    g.findAll c m filters order s =
      match hydration c m id g filters order s.connection with
      | .error e => (.error (.gateway .findAll e),
          kept g s [] (fetchAll c (selection g.table filters order) s.connection).2)
      | .ok models => (.ok ((track models s.nextToken).map attached),
          kept g s models (fetchAll c (selection g.table filters order) s.connection).2) := by
  simp only [kept_nil, findAll, hydration, id]
  cases hf : fetchAll c (selection g.table filters order) s.connection with
  | mk result after =>
    cases result with
    | error e => rfl
    | ok records =>
      simp only
      cases records.mapM m.read <;> rfl

theorem findOne_eq (g : Gateway M) (filters : List Filter) (order : List Ordered) (s : Shared σ) :
    g.findOne c m filters order s =
      match hydration c m (List.take 1) g filters order s.connection with
      | .error e => (.error (.gateway .findOne e),
          kept g s [] (fetchAll c (selection g.table filters order) s.connection).2)
      | .ok models => (.ok ((track models s.nextToken).head?.map attached),
          kept g s models (fetchAll c (selection g.table filters order) s.connection).2) := by
  simp only [kept_nil, findOne, hydration]
  cases hf : fetchAll c (selection g.table filters order) s.connection with
  | mk result after =>
    cases result with
    | error e => rfl
    | ok records =>
      cases records with
      | nil => simp [pure, Except.pure, kept_nil, track]
      | cons record records =>
        cases hr : m.read record with
        | error e => simp [hr, bind, Except.bind]
        | ok model =>
          simp [hr, bind, Except.bind, pure, Except.pure, kept, track, attached]

private theorem hydration_take_one {g : Gateway M} {filters : List Filter} {order : List Ordered}
    {state : σ} {models : List M}
    (h : g.hydration c m (List.take 1) filters order state = .ok models) :
    models = [] ∨ ∃ model, models = [model] := by
  simp only [hydration] at h
  cases hf : (fetchAll c (selection g.table filters order) state).1 with
  | error e => simp [hf] at h
  | ok records =>
    cases records with
    | nil =>
      left
      simpa [hf, pure, Except.pure, eq_comm] using h
    | cons record records =>
      right
      cases hr : m.read record with
      | error e => simp [hf, hr, bind, Except.bind] at h
      | ok model =>
        refine ⟨model, ?_⟩
        simpa [hf, hr, bind, Except.bind, pure, Except.pure, eq_comm] using h

end
end Gateway

private theorem set_eq_modify {α : Type} {xs : List α} {i : Nat} {x : α} (f : α → α)
    (h : xs[i]? = some x) : xs.set i (f x) = xs.modify i f := by
  apply List.ext_getElem?
  intro j
  rw [List.getElem?_modify, List.getElem?_set]
  by_cases hj : i = j
  · subst hj
    have hi : i < xs.length := (List.getElem?_eq_some_iff.mp h).1
    simp only [if_true, hi, h]
    rfl
  · simp [hj]

structure Deed (σ M : Type) where
  before : Session σ M
  command : Command M
  reply : Reply M
  after : Session σ M

/-- The commands whose success adds or drops a before-image. -/
def Command.tracks {M : Type} : Command M → Bool
  | .findAll _ _ => true
  | .findOne _ _ => true
  | .forget _ => true
  | _ => false

namespace Deed

variable {σ η M : Type}

def returned (d : Deed σ M) : List (Tracked M) :=
  match d.command, d.reply with
  | .findAll _ _, .objects _ found => found
  | .findOne _ _, .object (some (_, found)) => [found]
  | _, _ => []

def handed (d : Deed σ M) : List (Token × M) := d.returned.filterMap Tracked.pair?

def forgotten? (d : Deed σ M) : Option Token :=
  match d.command with
  | .forget n => d.before.objects[n]?.bind Tracked.token
  | _ => none

/-- The models that the command hydrates, if all of it succeeds. -/
def hydrated (c : Connection σ η) (m : Mapping M) (d : Deed σ M) : List M :=
  match d.before.gateway?, d.command with
  | some g, .findAll filters order =>
    (g.hydration c m id filters order d.before.shared.connection).toOption.getD []
  | some g, .findOne filters order =>
    (g.hydration c m (List.take 1) filters order d.before.shared.connection).toOption.getD []
  | _, _ => []

/-- What the deed does to the gateway that it goes to. -/
def change (d : Deed σ M) (g : Gateway M) : Gateway M :=
  { g with
    snapshots := g.snapshots.filter (fun entry => d.forgotten? != some entry.1) ++ d.handed }

/-- The effect of a deed on before-images and tokens. -/
structure Lawful (c : Connection σ η) (m : Mapping M) (d : Deed σ M) : Prop where
  gateways : d.after.gateways = d.before.gateways.modify d.before.current d.change
  counter : d.after.shared.nextToken = d.before.shared.nextToken + d.handed.length
  tokens : d.handed.map Prod.fst = List.range' d.before.shared.nextToken d.handed.length
  objects : d.returned = d.handed.map Gateway.attached
  models : d.handed.map Prod.snd = d.hydrated c m

private theorem handed_of_returned {d : Deed σ M} (h : d.returned = []) : d.handed = [] := by
  rw [handed, h]
  rfl

private theorem quiet_of_not_tracks (c : Connection σ η) (m : Mapping M) {d : Deed σ M}
    (h : d.command.tracks = false) :
    d.returned = [] ∧ d.forgotten? = none ∧ d.hydrated c m = [] := by
  obtain ⟨before, command, reply, after⟩ := d
  refine ⟨?_, ?_, ?_⟩
  · cases command <;> first | rfl | cases h
  · cases command <;> first | rfl | cases h
  · cases command <;> cases hg : before.gateway? <;>
      first | cases h; done | simp only [hydrated, hg]

private theorem returned_of_failed {d : Deed σ M} {e : Failure} (h : d.reply = .failed e) :
    d.returned = [] := by
  obtain ⟨before, command, reply, after⟩ := d
  subst h
  cases command <;> rfl

private theorem change_of_not_forget {d : Deed σ M} (h : d.forgotten? = none) (g : Gateway M) :
    d.change g = { g with snapshots := g.snapshots ++ d.handed } := by
  have hall : g.snapshots.filter (fun entry => d.forgotten? != some entry.1) = g.snapshots := by
    rw [h]
    exact List.filter_eq_self.mpr fun _ _ => rfl
  rw [change, hall]

private theorem change_quiet {d : Deed σ M} (hh : d.handed = []) (hf : d.forgotten? = none) :
    d.change = id := by
  funext g
  rw [change_of_not_forget hf, hh, List.append_nil]
  rfl

private theorem Lawful.of_silent {c : Connection σ η} {m : Mapping M} {d : Deed σ M}
    (hr : d.returned = []) (hm : d.hydrated c m = [])
    (hg : d.after.gateways = d.before.gateways.modify d.before.current d.change)
    (hn : d.after.shared.nextToken = d.before.shared.nextToken) : d.Lawful c m := by
  have hh := handed_of_returned hr
  refine ⟨hg, ?_, ?_, ?_, ?_⟩
  · rw [hn, hh, List.length_nil, Nat.add_zero]
  · rw [hh]
    rfl
  · rw [hr, hh]
    rfl
  · rw [hh, hm]
    rfl

private theorem Lawful.of_read {c : Connection σ η} {m : Mapping M} {d : Deed σ M} {g : Gateway M}
    (models : List M) (hg : d.before.gateway? = some g) (hf : d.forgotten? = none)
    (hr : d.returned = (Gateway.track models d.before.shared.nextToken).map Gateway.attached)
    (hm : d.hydrated c m = models)
    (ha : d.after.gateways = d.before.gateways.set d.before.current
      { g with snapshots := g.snapshots ++ Gateway.track models d.before.shared.nextToken })
    (hn : d.after.shared.nextToken = d.before.shared.nextToken + models.length) :
    d.Lawful c m := by
  have hh : d.handed = Gateway.track models d.before.shared.nextToken := by
    rw [handed, hr, Gateway.filterMap_attached]
  refine ⟨?_, ?_, ?_, ?_, ?_⟩
  · rw [ha, ← hh, ← change_of_not_forget hf]
    exact set_eq_modify d.change hg
  · rw [hn, hh, Gateway.track_length]
  · rw [hh, Gateway.track_tokens, Gateway.track_length]
  · rw [hr, hh]
  · rw [hh, Gateway.track_models, hm]

end Deed

namespace Session

variable {σ η M : Type} (c : Connection σ η) (m : Nat → Mapping M)

def deed (s : Session σ M) (command : Command M) : Deed σ M :=
  ⟨s, command, (s.step c m command).2, (s.step c m command).1⟩

private theorem deed_with (s : Session σ M) (g : Gateway M) (h : s.gateway? = some g)
    (command : Command M) : s.deed c m command =
      ⟨s, command, (s.stepWith c (m s.current) g command).2,
        (s.stepWith c (m s.current) g command).1⟩ := by
  simp only [deed, step, h]

private theorem answer_gateways {α : Type} (s : Session σ M) (reply : α → Reply M)
    (result : Except Failure α × σ) : (s.answer reply result).1.gateways = s.gateways := by
  obtain ⟨_ | _, _⟩ := result <;> rfl

private theorem answer_nextToken {α : Type} (s : Session σ M) (reply : α → Reply M)
    (result : Except Failure α × σ) :
    (s.answer reply result).1.shared.nextToken = s.shared.nextToken := by
  obtain ⟨_ | _, _⟩ := result <;> rfl

private theorem findAll_lawful (s : Session σ M) (g : Gateway M) (h : s.gateway? = some g)
    (filters : List Filter) (order : List Ordered) :
    (s.deed c m (.findAll filters order)).Lawful c (m s.current) := by
  rw [deed_with c m s g h]
  cases hy : g.hydration c (m s.current) id filters order s.shared.connection with
  | error e =>
    refine .of_read [] h rfl ?_ ?_ ?_ ?_
    · simp [Deed.returned, stepWith, Gateway.findAll_eq, hy, Gateway.track]
    · simp [Deed.hydrated, h, hy, Except.toOption]
    · simp only [stepWith, Gateway.findAll_eq, hy, withGateway, Gateway.kept]
    · simp only [stepWith, Gateway.findAll_eq, hy, withGateway, Gateway.kept]
  | ok models =>
    refine .of_read models h rfl ?_ ?_ ?_ ?_
    · simp only [Deed.returned, stepWith, Gateway.findAll_eq, hy]
    · simp [Deed.hydrated, h, hy, Except.toOption]
    · simp only [stepWith, Gateway.findAll_eq, hy, withGateway, keep, Gateway.kept]
    · simp only [stepWith, Gateway.findAll_eq, hy, withGateway, keep, Gateway.kept]

private theorem findOne_lawful (s : Session σ M) (g : Gateway M) (h : s.gateway? = some g)
    (filters : List Filter) (order : List Ordered) :
    (s.deed c m (.findOne filters order)).Lawful c (m s.current) := by
  rw [deed_with c m s g h]
  cases hy : g.hydration c (m s.current) (List.take 1) filters order s.shared.connection with
  | error e =>
    refine .of_read [] h rfl ?_ ?_ ?_ ?_
    · simp [Deed.returned, stepWith, Gateway.findOne_eq, hy, Gateway.track]
    · simp [Deed.hydrated, h, hy, Except.toOption]
    · simp only [stepWith, Gateway.findOne_eq, hy, withGateway, Gateway.kept]
    · simp only [stepWith, Gateway.findOne_eq, hy, withGateway, Gateway.kept]
  | ok models =>
    have hhydrated (reply : Reply M) (after : Session σ M) :
        Deed.hydrated c (m s.current) ⟨s, .findOne filters order, reply, after⟩ = models := by
      simp [Deed.hydrated, h, hy, Except.toOption]
    obtain rfl | ⟨model, rfl⟩ := Gateway.hydration_take_one c _ hy
    · refine .of_read [] h rfl ?_ (hhydrated _ _) ?_ ?_
      · simp [Deed.returned, stepWith, Gateway.findOne_eq, hy, Gateway.track]
      · simp [stepWith, Gateway.findOne_eq, hy, withGateway, Gateway.kept, Gateway.track]
      · simp [stepWith, Gateway.findOne_eq, hy, withGateway, Gateway.kept, Gateway.track]
    · refine .of_read [model] h rfl ?_ (hhydrated _ _) ?_ ?_
      · simp [Deed.returned, stepWith, Gateway.findOne_eq, hy, Gateway.track]
      · simp [stepWith, Gateway.findOne_eq, hy, withGateway, keep, Gateway.kept, Gateway.track]
      · simp [stepWith, Gateway.findOne_eq, hy, withGateway, keep, Gateway.kept, Gateway.track]

private theorem forget_lawful (s : Session σ M) (g : Gateway M) (h : s.gateway? = some g)
    (n : Nat) :
    (s.deed c m (.forget n)).Lawful c (m s.current) := by
  rw [deed_with c m s g h]
  refine .of_silent rfl (by simp [Deed.hydrated, h]) ?_ ?_
  · -- The gateway is written back in every case, so what was to be forgotten decides.
    rw [← set_eq_modify _ h]
    have hhanded (reply : Reply M) (after : Session σ M) :
        Deed.handed ⟨s, .forget n, reply, after⟩ = [] := rfl
    cases ho : s.objects[n]? with
    | none =>
      rw [Deed.change_quiet (hhanded _ _) (by simp [Deed.forgotten?, ho]), set_eq_modify id h,
        List.modify_id]
      simp [stepWith, ho]
    | some object =>
      cases ht : object.token with
      | none =>
        rw [Deed.change_quiet (hhanded _ _) (by simp [Deed.forgotten?, ho, ht])]
        simp [stepWith, ho, ht, Gateway.forget, withGateway]
      | some token =>
        have hother (entry : Token × M) : (some token != some entry.1) = (entry.1 != token) := by
          rw [bne_comm]
          rfl
        simp [stepWith, ho, ht, Gateway.forget, withGateway, Deed.change, Deed.forgotten?, hhanded,
          hother]
  · simp only [stepWith]
    split <;> rfl

private theorem stepWith_quiet (mapping : Mapping M) (s : Session σ M) (g : Gateway M)
    (command : Command M)
    (h : command.tracks = false) :
    (s.stepWith c mapping g command).1.gateways = s.gateways ∧
      (s.stepWith c mapping g command).1.shared.nextToken = s.shared.nextToken := by
  cases command with
  | findAll filters order => cases h
  | findOne filters order => cases h
  | forget n => cases h
  | choose n =>
    simp only [stepWith]
    split <;> exact ⟨rfl, rfl⟩
  | create subject | delete subject =>
    simp only [stepWith]
    split
    · exact ⟨answer_gateways s _ _, answer_nextToken s _ _⟩
    · exact ⟨rfl, rfl⟩
  | update n =>
    simp only [stepWith]
    split
    · exact ⟨answer_gateways s _ _, answer_nextToken s _ _⟩
    · exact ⟨rfl, rfl⟩
  | revise n change | clone n | detach n =>
    simp only [stepWith]
    split <;> exact ⟨rfl, rfl⟩
  | findCustom statement | query statement | execute statement binds =>
    exact ⟨answer_gateways s _ _, answer_nextToken s _ _⟩

private theorem quiet_lawful (s : Session σ M) (g : Gateway M) (h : s.gateway? = some g)
    (command : Command M) (hq : command.tracks = false) :
    (s.deed c m command).Lawful c (m s.current) := by
  obtain ⟨hgateways, hcounter⟩ := s.stepWith_quiet c (m s.current) g command hq
  obtain ⟨hreturned, hforgotten, hhydrated⟩ := Deed.quiet_of_not_tracks c (m s.current)
    (show (s.deed c m command).command.tracks = false from hq)
  refine .of_silent hreturned hhydrated ?_ ?_
  · rw [Deed.change_quiet (Deed.handed_of_returned hreturned) hforgotten, List.modify_id,
      deed_with c m s g h]
    exact hgateways
  · rw [deed_with c m s g h]
    exact hcounter

private theorem absent_lawful (s : Session σ M) (h : s.gateway? = none) (command : Command M) :
    (s.deed c m command).Lawful c (m s.current) := by
  have hdeed : s.deed c m command = ⟨s, command, .absent, s⟩ := by simp only [deed, step, h]
  rw [hdeed]
  refine .of_silent ?_ (by simp [Deed.hydrated, h]) ?_ rfl
  · cases command <;> rfl
  · exact (List.modify_eq_self (List.getElem?_eq_none_iff.mp h)).symm

/-- Every command carried out in a session keeps to the law of its deed. -/
theorem deed_lawful (s : Session σ M) (command : Command M) :
    (s.deed c m command).Lawful c (m s.current) := by
  cases h : s.gateway? with
  | none => exact s.absent_lawful c m h command
  | some g =>
    cases command with
    | findAll filters order => exact s.findAll_lawful c m g h filters order
    | findOne filters order => exact s.findOne_lawful c m g h filters order
    | forget n => exact s.forget_lawful c m g h n
    | _ => exact s.quiet_lawful c m g h _ rfl

private theorem forget_not_failed (s : Session σ M) (n : Nat) (e : Failure) :
    (s.deed c m (.forget n)).reply ≠ .failed e := by
  simp only [deed, step, stepWith]
  cases s.gateway? with
  | none => simp
  | some g =>
    cases s.objects[n]? with
    | none => simp
    | some object => simp

/-- A command that fails, or that is neither a read of objects nor a forget, leaves all
before-images and the counter as they were. -/
theorem deed_unchanged (s : Session σ M) (command : Command M)
    (h : (∃ e, (s.deed c m command).reply = .failed e) ∨ command.tracks = false) :
    (s.deed c m command).after.gateways = s.gateways ∧
      (s.deed c m command).after.shared.nextToken = s.shared.nextToken := by
  obtain ⟨hgateways, hcounter, -, -, -⟩ := s.deed_lawful c m command
  have hquiet : (s.deed c m command).returned = [] ∧ (s.deed c m command).forgotten? = none := by
    rcases h with ⟨e, he⟩ | hq
    · refine ⟨Deed.returned_of_failed he, ?_⟩
      cases command with
      | forget n => exact absurd he (s.forget_not_failed c m n e)
      | _ => rfl
    · obtain ⟨hreturned, hforgotten, -⟩ := Deed.quiet_of_not_tracks c (m s.current)
        (show (s.deed c m command).command.tracks = false from hq)
      exact ⟨hreturned, hforgotten⟩
  have hhanded := Deed.handed_of_returned hquiet.1
  rw [Deed.change_quiet hhanded hquiet.2, List.modify_id] at hgateways
  rw [hhanded] at hcounter
  exact ⟨hgateways, hcounter⟩

end Session
end RecordGateway
