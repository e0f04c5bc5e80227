import RecordGateway.Proofs.Collecting
import RecordGateway.Proofs.Statement.Lacking
import RecordGateway.Record
/-!
# The maps that are filled

Records, bind lists, the assignments and the select list of a statement are filled alike: they
list their keys in the order in which they first came, each with its last value.
-/
namespace RecordGateway

namespace Call

def assignment? : Call → Option (String × Operand)
  | set field operand => some (field, operand)
  | _ => none

/-- The expression that a call selects, under its alias. -/
def selection? : Call → Option (String × String)
  | select expression => some (expression, expression)
  | selectAs expression label => some (label, expression)
  | _ => none

section

variable {α : Type} (item? : Call → Option (String × α))

/-- The entry of a call on a statement that accepts it. -/
def accepted (s : Statement) (call : Call) : List (String × α) :=
  match outcome s call with
  | .ok _ => (item? call).toList
  | .error _ => []

/-- The entries of the calls that were accepted, in the order of the calls. -/
def taken (s : Statement) : List Call → List (String × α)
  | [] => []
  | call :: calls => accepted item? s call ++ taken (after s call) calls

/-- A map of the statement that every call either leaves alone or enters its entry in. -/
def FilledBy (slot : Statement → Keyed α) : Prop :=
  ∀ s call, slot (after s call) = (slot s).insertAll (accepted item? s call)

variable {item?}

private theorem FilledBy.foldl {slot : Statement → Keyed α} (h : FilledBy item? slot)
    (s : Statement)
    (calls : List Call) :
    slot (calls.foldl after s) = (slot s).insertAll (taken item? s calls) := by
  induction calls generalizing s with
  | nil => rfl
  | cons call calls ih =>
    rw [List.foldl_cons, ih, h, taken, Keyed.insertAll, Keyed.insertAll, Keyed.insertAll,
      List.foldl_append]

theorem taken_map {holds : Statement → Prop} {call : String × α → Call}
    (hentry : ∀ entry, item? (call entry) = some entry)
    (hok : ∀ s entry, holds s → outcome s (call entry) = .ok () ∧ holds (after s (call entry)))
    {s : Statement} (hs : holds s) (entries : List (String × α)) :
    taken item? s (entries.map call) = entries := by
  induction entries generalizing s with
  | nil => rfl
  | cons entry entries ih =>
    obtain ⟨hout, hafter⟩ := hok s entry hs
    rw [List.map_cons, taken, ih hafter, accepted, hout, hentry]
    rfl

theorem FilledBy.rebuilt {slot : Statement → Keyed α} (h : FilledBy item? slot)
    (hempty : slot .empty = .empty) (holds : Statement → Prop) {call : String × α → Call}
    (hentry : ∀ entry, item? (call entry) = some entry)
    (hok : ∀ s entry, holds s → outcome s (call entry) = .ok () ∧ holds (after s (call entry)))
    (hs : holds .empty) (m : Keyed α) : slot (run (m.entries.map call)) = m := by
  rw [run, h.foldl, taken_map hentry hok hs, hempty]
  exact m.ofList_entries

private theorem FilledBy.collects {slot : Statement → Keyed α} (h : FilledBy item? slot)
    (hempty : slot .empty = .empty) (calls : List Call) :
    (slot (run calls)).Collects (taken item? .empty calls) := by
  rw [run, h.foldl, hempty]
  exact Keyed.ofList_collects _

end

private theorem sets_filled : FilledBy assignment? Statement.sets := by
  intro s call
  by_cases hset : IsSet call
  · obtain ⟨field, operand, rfl⟩ := hset
    rfl
  · have hnone : assignment? call = none := by
      cases call with
      | set field operand => exact absurd ⟨field, operand, rfl⟩ hset
      | _ => rfl
    rw [(slots_after s call).2 hset, accepted, hnone]
    split <;> rfl

theorem selection_verb {call : Call} {entry : String × String} (h : selection? call = some entry) :
    call.verb? = some (.select, none) := by
  cases call <;> first | rfl | cases h

private theorem selection_of_verb {call : Call} {table : Option String}
    (h : call.verb? = some (.select, table)) : selection? call ≠ none := by
  cases call <;> cases h <;> exact Option.some_ne_none _

theorem selection_apply {call : Call} {label expression : String}
    (h : selection? call = some (label, expression)) :
    call.apply = Statement.selectAs expression label := by
  cases call <;> cases h <;> rfl

private theorem fields_kept {s : Statement} {call : Call} (h : selection? call = none) :
    (after s call).fields = s.fields := by
  have hmakes := apply_makes s call
  unfold after
  generalize call.apply.on s = result at hmakes
  cases hmakes with
  | otherKind => rfl
  | secondTable => rfl
  | outside => rfl
  | filled _ _ _ _ fields => exact fields
  | started calls _ _ _ _ fields =>
    rcases fields with rfl | fields
    · exact absurd h (selection_of_verb calls)
    · exact fields

private theorem fields_filled : FilledBy selection? Statement.fields := by
  intro s call
  cases hentry : selection? call with
  | none =>
    rw [fields_kept hentry, accepted, hentry]
    split <;> rfl
  | some entry =>
    have hstarts := Statement.startAs_starts .select none s
    rw [accepted, hentry, after, outcome, selection_apply hentry, Statement.selectAs,
      Statement.Change.on_bind]
    generalize (Statement.startAs .select none).on s = result at hstarts
    cases hstarts <;> rfl

theorem selection_accepted (s : Statement) {call : Call} {entry : String × String}
    (h : selection? call = some entry) : outcome s call = .ok () ↔ s.Admits .select :=
  (verb_law s (selection_verb h)).succeeds.trans (and_iff_left (.inl rfl))

/-- The assignments and the select list that calls leave, whichever of them the statement
accepted. -/
structure Fills (calls : List Call) : Prop where
  sets : (run calls).sets.Collects (taken assignment? .empty calls)
  fields : (run calls).fields.Collects (taken selection? .empty calls)
  accepts_set : ∀ field operand, outcome (run calls) (.set field operand) = .ok ()
  accepts_selection : ∀ call entry, selection? call = some entry →
    (outcome (run calls) call = .ok () ↔ (run calls).Admits .select)
  sets_rebuilt : (run ((run calls).sets.entries.map fun e => .set e.1 e.2)).sets = (run calls).sets
  fields_rebuilt :
    (run ((run calls).fields.entries.map fun e => .selectAs e.2 e.1)).fields = (run calls).fields

theorem run_fills (calls : List Call) : Fills calls where
  sets := sets_filled.collects rfl calls
  fields := fields_filled.collects rfl calls
  accepts_set _ _ := rfl
  accepts_selection _ _ h := selection_accepted _ h
  sets_rebuilt := sets_filled.rebuilt rfl (fun _ => True) (fun _ => rfl)
    (fun _ _ _ => ⟨rfl, trivial⟩) trivial _
  fields_rebuilt := by
    refine fields_filled.rebuilt rfl (·.Admits .select) (fun _ => rfl) (fun s entry hs => ?_)
      (.inl rfl) _
    have hok : outcome s (.selectAs entry.2 entry.1) = .ok () := (selection_accepted s rfl).mpr hs
    exact ⟨hok, .inr ((verb_law s rfl).starts hok).1⟩

end Call

/-- Records, bind lists, assignments and select lists are the same insertion-ordered map, a bind
list under names with their colon. Each is told by the entries that were put in, and is made
again by putting in its own. -/
theorem insertions_collected :
    (∀ first more : List (String × Value),
      ((Keyed.ofList first : Record).insertAll more).Collects (first ++ more)) ∧
    (∀ (first : List (String × Value)) (batches : List (List (String × Value))),
      (batches.foldl Binds.extend (.ofList first)).Collects (first ++ batches.flatten)) ∧
    (∀ (binds : Binds) (name : String) (value : Value),
      binds.bind name value = binds.extend [(name, value)]) ∧
    ∀ calls : List Call, Call.Fills calls :=
  ⟨fun first more => (Keyed.ofList_collects first).insertAll more,
    fun first batches => Binds.foldl_extend first batches ▸ Binds.ofList_collects _,
    fun _ _ _ => rfl, Call.run_fills⟩

end RecordGateway
