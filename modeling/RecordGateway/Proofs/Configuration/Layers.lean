import RecordGateway.Proofs.Configuration.Rules
/-!
# Variables laid over a configuration

What stands under a name after variables were laid over a configuration at their paths is what
stood there before, with the variables laid over it whose paths lead through the name.
-/
namespace RecordGateway.Configuration

/-- Texts of variables in order, each with the path at which it is laid. -/
abbrev Placed := List (List Step × String)

def placed (environment : List (String × String)) : Placed :=
  environment.filterMap fun (name, s) => (variableKey? name).map fun key => (path key, s)

/-- The variables laid one after the other over what is there. -/
def lay (old : Option Configuration) (vs : Placed) : Option Configuration :=
  vs.foldl (fun c v => some (put (.value (variableValue v.2)) v.1 (c.getD empty))) old

/-- The variables whose paths lead through a name, with what is left of their paths. -/
def under (name : String) (vs : Placed) : Placed :=
  vs.filterMap fun v =>
    match v.1 with
    | .key known :: rest => if Text.lower known = name then some (rest, v.2) else none
    | _ => none

def ByName (vs : Placed) : Prop := ∀ v ∈ vs, ∃ name rest, v.1 = .key name :: rest

def IsTable (c : Configuration) : Prop := ∃ entries, c = .table entries

def IsText (c : Configuration) : Prop := ∃ s, c = .value (.text s)

instance : DecidablePred IsTable
  | .table entries => isTrue ⟨entries, rfl⟩
  | .list _ => isFalse fun ⟨_, h⟩ => by cases h
  | .value _ => isFalse fun ⟨_, h⟩ => by cases h

instance : DecidablePred IsText
  | .value (.text s) => isTrue ⟨s, rfl⟩
  | .value .null => isFalse fun ⟨_, h⟩ => by cases h
  | .value (.integer _) => isFalse fun ⟨_, h⟩ => by cases h
  | .value (.real _) => isFalse fun ⟨_, h⟩ => by cases h
  | .value (.boolean _) => isFalse fun ⟨_, h⟩ => by cases h
  | .value (.blob _) => isFalse fun ⟨_, h⟩ => by cases h
  | .list _ => isFalse fun ⟨_, h⟩ => by cases h
  | .table _ => isFalse fun ⟨_, h⟩ => by cases h

/-! ## Paths -/

private theorem readSteps_name {cs : List Char} {steps : List Step}
    (h : readSteps cs = some steps) :
    ∃ name rest, steps = .key name :: rest := by
  rw [readSteps] at h
  split at h
  · obtain ⟨places, -, hsteps⟩ := Option.bind_eq_some_iff.mp h
    exact ⟨_, places, (Option.some.inj hsteps).symm⟩
  · cases h

private theorem partsAt_ne_nil (separator : Char) (cs : List Char) :
    Text.partsAt separator cs ≠ [] := by
  cases cs with
  | nil => exact List.cons_ne_nil _ _
  | cons c rest =>
    rw [Text.partsAt]
    split
    · exact List.cons_ne_nil _ _
    · split <;> exact List.cons_ne_nil _ _

theorem path_name (key : String) : ∃ name rest, path key = .key name :: rest := by
  unfold path
  split
  · next steps hsteps =>
    obtain ⟨part, parts, hparts⟩ := List.exists_cons_of_ne_nil (partsAt_ne_nil '.' key.toList)
    rw [hparts] at hsteps
    obtain ⟨first, others, hfirst, -, rfl⟩ := List.forall₂_cons_left_iff.mp (mapM_eq_some hsteps)
    obtain ⟨name, rest, rfl⟩ := readSteps_name hfirst
    exact ⟨name, rest ++ others.flatten, rfl⟩
  · exact ⟨key, [], rfl⟩

theorem placed_byName (environment : List (String × String)) : ByName (placed environment) := by
  intro v hv
  obtain ⟨⟨name, s⟩, -, hkey⟩ := List.mem_filterMap.mp hv
  obtain ⟨key, -, rfl⟩ := Option.map_eq_some_iff.mp hkey
  exact path_name key

/-! ## What is laid -/

theorem lay_snoc (old : Option Configuration) (vs : Placed) (v : List Step × String) :
    lay old (vs ++ [v]) =
      some (put (.value (variableValue v.2)) v.1 ((lay old vs).getD empty)) := by
  rw [lay, List.foldl_append]
  rfl

theorem lay_merge (c : Configuration) (environment : List (String × String)) :
    lay (some c) (placed environment) = some (c.merge (ofEnvironment environment)) := by
  induction environment generalizing c with
  | nil => rfl
  | cons v environment ih =>
    cases hkey : variableKey? v.1 with
    | none =>
      simp only [placed, ofEnvironment, List.filterMap_cons, hkey, Option.map_none]
      exact ih c
    | some key =>
      simp only [placed, ofEnvironment, List.filterMap_cons, hkey, Option.map_some]
      exact ih (put (.value (variableValue v.2)) (path key) c)

private theorem getD_get? (old : Option Configuration) (name : String) :
    (old.getD empty).get? name = old.bind (·.get? name) := by
  cases old <;> rfl

/-- Under a name stands what was there, with the variables laid over it that lead there. -/
theorem get?_lay {vs : Placed} (h : ByName vs) (name : String) (old : Option Configuration) :
    (lay old vs).bind (·.get? name) = lay (old.bind (·.get? name)) (under name vs) := by
  induction vs generalizing old with
  | nil => rfl
  | cons v vs ih =>
    obtain ⟨⟨known, rest, hpath⟩, hvs⟩ := List.forall_mem_cons.mp h
    have hput := layerRules.under (.value (variableValue v.2)) known name rest (old.getD empty)
    rw [getD_get?] at hput
    rw [under, List.filterMap_cons, hpath]
    show (lay (some (put _ v.1 (old.getD empty))) vs).bind (·.get? name) = _
    rw [ih hvs, Option.bind_some, hpath, hput]
    by_cases hname : Text.lower known = name
    · simp only [if_pos hname]
      rfl
    · simp only [if_neg hname]
      rfl

/-- A table stays a table if every variable is laid at a path that begins with a name. -/
theorem lay_isTable {vs : Placed} (h : ByName vs) {old : Option Configuration}
    (hold : ∀ c ∈ old, c.IsTable) : ∀ c ∈ lay old vs, c.IsTable := by
  rcases List.eq_nil_or_concat vs with rfl | ⟨before, last, rfl⟩
  · exact hold
  · rw [List.concat_eq_append] at h ⊢
    obtain ⟨known, rest, hpath⟩ := h last (List.mem_append_right _ (List.mem_singleton_self _))
    rw [lay_snoc, hpath]
    intro c hc
    obtain rfl := Option.some.inj hc
    exact layerRules.table _ _ _ _

end RecordGateway.Configuration
