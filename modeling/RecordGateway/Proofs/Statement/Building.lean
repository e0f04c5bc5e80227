import RecordGateway.Statement.Call
/-!
# Building statements

What a sequence of builder calls makes of a statement, failing calls included.
-/
namespace RecordGateway

namespace Statement

namespace Change

theorem on_bind (first second : Change) (s : Statement) :
    on (do first; second) s =
      match first.on s with
      | (.ok _, between) => second.on between
      | (.error e, left) => (.error e, left) := by
  unfold on ExceptT.run StateT.run Id.run
  simp only [bind, ExceptT.bind, ExceptT.mk, StateT.bind, ExceptT.bindCont]
  cases first s with
  | mk result left => cases result <;> rfl

end Change

private theorem requireKind_on (kind : Kind) (s : Statement) :
    (requireKind kind).on s =
      match s.kind with
      | some current =>
        if current = kind then (.ok (), s) else (.error (.kindConflict current kind), s)
      | none => (.ok (), s) := by
  change Change.on (match s.kind with
    | some current => if current = kind then pure () else throw (.kindConflict current kind)
    | none => pure ()) s = _
  cases s.kind with
  | none => rfl
  | some current =>
    dsimp only
    split <;> rfl

private theorem takeTable_free (verb : Verb) (name : String) {s : Statement} (h : s.table = none) :
    (takeTable verb (some name)).on s = (.ok (), { s with table := some name }) := by
  cases s
  dsimp only at h
  subst h
  rfl

private theorem takeTable_taken (verb : Verb) (name : String) {s : Statement} {existing : String}
    (h : s.table = some existing) :
    (takeTable verb (some name)).on s = (.error (.tableAlreadySet verb existing), s) := by
  cases s
  dsimp only at h
  subst h
  rfl

/-- A kind admits a verb when it is not set or the verb's own. -/
def Admits (s : Statement) (verb : Verb) : Prop := s.kind = none ∨ s.kind = some verb.kind

/-- What a verb that may bring a table makes of a statement, and how it answers. -/
inductive Starts (s : Statement) (verb : Verb) (table : Option String) :
    Except Failure Unit × Statement → Prop where
  | otherKind {current : Kind} (set : s.kind = some current) (other : current ≠ verb.kind) :
      Starts s verb table (.error (.kindConflict current verb.kind), s)
  | secondTable {existing : String} (own : s.Admits verb) (brought : table ≠ none)
      (set : s.table = some existing) :
      Starts s verb table (.error (.tableAlreadySet verb existing), s)
  | started (own : s.Admits verb) (free : table = none ∨ s.table = none) :
      Starts s verb table (.ok (), { s with kind := some verb.kind, table := table.or s.table })

theorem startAs_starts (verb : Verb) (table : Option String) (s : Statement) :
    Starts s verb table ((startAs verb table).on s) := by
  rw [startAs, Change.on_bind, requireKind_on]
  have hstart (own : s.Admits verb) : Starts s verb table
      (Change.on (do takeTable verb table; modify fun s =>
      { s with kind := some verb.kind }) s) := by
    rw [Change.on_bind]
    cases table with
    | none => exact .started own (.inl rfl)
    | some name =>
      cases ht : s.table with
      | some existing =>
        rw [takeTable_taken verb name ht]
        exact .secondTable own (by simp) ht
      | none =>
        rw [takeTable_free verb name ht]
        exact .started own (.inr ht)
  cases hk : s.kind with
  | none => exact hstart (.inl hk)
  | some current =>
    by_cases hc : current = verb.kind
    · simp only [if_pos hc]
      exact hstart (.inr (by rw [hk, hc]))
    · simp only [if_neg hc]
      exact .otherKind hk hc

end Statement

namespace Call

/-- The verb that a call calls, and the table that it brings. -/
def verb? : Call → Option (Verb × Option String)
  | select _ => some (.select, none)
  | selectAs _ _ => some (.select, none)
  | source t => some (.source, some t)
  | insertInto t => some (.insertInto, some t)
  | update t => some (.update, some t)
  | deleteFrom t => some (.deleteFrom, some t)
  | showTables p => some (.showTables, p)
  | showColumns t => some (.showColumns, some t)
  | showIndexes t => some (.showIndexes, some t)
  | _ => none

/-- Both bounds of a limit fit 64 unsigned bits. -/
def limitRange (offset length : Int) : Prop :=
  (0 ≤ offset ∧ offset ≤ 18446744073709551615) ∧ 0 ≤ length ∧ length ≤ 18446744073709551615

/-- What a call makes of a statement, and how it answers. -/
inductive Makes (s : Statement) (call : Call) : Except Failure Unit × Statement → Prop where
  | otherKind {verb : Verb} {table : Option String} {current : Kind}
      (calls : call.verb? = some (verb, table)) (set : s.kind = some current)
      (other : current ≠ verb.kind) : Makes s call (.error (.kindConflict current verb.kind), s)
  | secondTable {verb : Verb} {table : Option String} {existing : String}
      (calls : call.verb? = some (verb, table)) (own : s.Admits verb) (brought : table ≠ none)
      (set : s.table = some existing) : Makes s call (.error (.tableAlreadySet verb existing), s)
  | started {verb : Verb} {table : Option String} {t : Statement}
      (calls : call.verb? = some (verb, table)) (own : s.Admits verb)
      (free : table = none ∨ s.table = none) (kind : t.kind = some verb.kind)
      (tables : t.table = table.or s.table) (fields : verb = .select ∨ t.fields = s.fields) :
      Makes s call (.ok (), t)
  | outside {offset length : Int} (calls : call = .limitTo offset length)
      (range : ¬limitRange offset length) : Makes s call (.error (.invalidLimit offset length), s)
  | filled {t : Statement} (calls : call.verb? = none)
      (range : ∀ offset length, call = .limitTo offset length → limitRange offset length)
      (kind : t.kind = s.kind) (tables : t.table = s.table) (fields : t.fields = s.fields) :
      Makes s call (.ok (), t)

private theorem Makes.of_starts {s : Statement} {call : Call} {verb : Verb} {table : Option String}
    (calls : call.verb? = some (verb, table)) {result : Except Failure Unit × Statement}
    (h : s.Starts verb table result) : Makes s call result := by
  cases h with
  | otherKind set other => exact .otherKind calls set other
  | secondTable own brought set => exact .secondTable calls own brought set
  | started own free => exact .started calls own free rfl rfl (.inr rfl)

private theorem selectAs_makes (s : Statement) {call : Call}
    (calls : call.verb? = some (.select, none))
    (expression label : String) : Makes s call ((Statement.selectAs expression label).on s) := by
  have hstarts := Statement.startAs_starts .select none s
  rw [Statement.selectAs, Statement.Change.on_bind]
  generalize (Statement.startAs .select none).on s = result at hstarts
  cases hstarts with
  | otherKind set other => exact .otherKind calls set other
  | secondTable own brought set => exact absurd rfl brought
  | started own free => exact .started calls own free rfl rfl (.inl rfl)

private theorem limitTo_makes (s : Statement) (offset length : Int) :
    Makes s (.limitTo offset length) ((Statement.limitTo offset length).on s) := by
  unfold Statement.limitTo
  split
  · next h =>
    refine .filled rfl (fun o l hc => ?_) rfl rfl rfl
    cases hc
    exact h
  · next h => exact .outside rfl h

/-- Every call either fails and leaves the statement as it was, or keeps to the slots that are
its own. -/
theorem apply_makes (s : Statement) (call : Call) : Makes s call (call.apply.on s) := by
  have hfilled {f : Statement → Statement} (calls : call.verb? = none)
      (hlimit : ∀ offset length, call ≠ .limitTo offset length) (kind : (f s).kind = s.kind)
      (tables : (f s).table = s.table) (fields : (f s).fields = s.fields) :
      Makes s call (Statement.Change.on (modify f) s) :=
    .filled calls (fun o l h => absurd h (hlimit o l)) kind tables fields
  cases call with
  | select e => exact selectAs_makes s rfl e e
  | selectAs e a => exact selectAs_makes s rfl e a
  | source t => exact .of_starts rfl (Statement.startAs_starts _ _ s)
  | insertInto t => exact .of_starts rfl (Statement.startAs_starts _ _ s)
  | update t => exact .of_starts rfl (Statement.startAs_starts _ _ s)
  | deleteFrom t => exact .of_starts rfl (Statement.startAs_starts _ _ s)
  | showTables p => exact .of_starts rfl (Statement.startAs_starts _ _ s)
  | showColumns t => exact .of_starts rfl (Statement.startAs_starts _ _ s)
  | showIndexes t => exact .of_starts rfl (Statement.startAs_starts _ _ s)
  | limitTo o l => exact limitTo_makes s o l
  | column n o => exact hfilled rfl (by simp) rfl rfl rfl
  | set f o => exact hfilled rfl (by simp) rfl rfl rfl
  | restrict p => exact hfilled rfl (by simp) rfl rfl rfl
  | restrictGroups p => exact hfilled rfl (by simp) rfl rfl rfl
  | join t k c => exact hfilled rfl (by simp) rfl rfl rfl
  | orderBy f d => exact hfilled rfl (by simp) rfl rfl rfl
  | groupOn f => exact hfilled rfl (by simp) rfl rfl rfl
  | markDistinct => exact hfilled rfl (by simp) rfl rfl rfl
  | markTooComplicated => exact hfilled rfl (by simp) rfl rfl rfl

private theorem failed_unchanged {s : Statement} {call : Call} {e : Failure}
    (h : outcome s call = .error e) : after s call = s := by
  have hmakes := apply_makes s call
  unfold outcome at h
  unfold after
  generalize call.apply.on s = result at hmakes h
  cases hmakes with
  | otherKind => rfl
  | secondTable => rfl
  | outside => rfl
  | started => cases h
  | filled => cases h

private theorem kind_after {s : Statement} {kind : Kind} (h : s.kind = some kind) (call : Call) :
    (after s call).kind = some kind := by
  have hmakes := apply_makes s call
  unfold after
  generalize call.apply.on s = result at hmakes
  cases hmakes with
  | otherKind => exact h
  | secondTable => exact h
  | outside => exact h
  | filled _ _ hkind => exact hkind.trans h
  | @started verb _ _ _ own _ hkind =>
    rcases own with hnone | hown
    · rw [h] at hnone; cases hnone
    · exact hkind.trans (hown.symm.trans h)

private theorem table_after {s : Statement} {table : String} (h : s.table = some table)
    (call : Call) :
    (after s call).table = some table := by
  have hmakes := apply_makes s call
  unfold after
  generalize call.apply.on s = result at hmakes
  cases hmakes with
  | otherKind => exact h
  | secondTable => exact h
  | outside => exact h
  | filled _ _ _ htable => exact htable.trans h
  | started _ _ free _ htable =>
    rcases free with rfl | hnone
    · exact htable.trans h
    · rw [h] at hnone; cases hnone

/-- What holds of kind, table and select list whatever calls were made. -/
structure Sound (s : Statement) : Prop where
  kind_of_table : s.table ≠ none → s.kind ≠ none
  table_of_kind : ∀ kind, s.kind = some kind → kind ≠ .select → kind ≠ .showTables →
    s.table ≠ none
  select_of_fields : s.fields.entries ≠ [] → s.kind = some .select

private theorem empty_sound : Sound .empty where
  kind_of_table h := absurd rfl h
  table_of_kind _ h := by cases h
  select_of_fields h := absurd rfl h

theorem verb?_table {call : Call} {verb : Verb} {table : Option String}
    (h : call.verb? = some (verb, table)) (hselect : verb.kind ≠ .select)
    (htables : verb.kind ≠ .showTables) : table ≠ none := by
  cases call <;> cases h <;> simp [Verb.kind] at hselect htables ⊢

private theorem after_sound {s : Statement} (h : Sound s) (call : Call) : Sound (after s call) := by
  have hmakes := apply_makes s call
  unfold after
  generalize call.apply.on s = result at hmakes
  cases hmakes with
  | otherKind => exact h
  | secondTable => exact h
  | outside => exact h
  | filled _ _ hkind htable hfields =>
    refine ⟨?_, ?_, ?_⟩
    · rw [htable, hkind]; exact h.kind_of_table
    · rw [htable, hkind]; exact h.table_of_kind
    · rw [hfields, hkind]; exact h.select_of_fields
  | @started verb table t calls own free hkind htable hfields =>
    refine ⟨fun _ => by simp [hkind], fun kind hk hselect htables => ?_, fun hne => ?_⟩
    · have hverb : verb.kind = kind := Option.some.inj (hkind.symm.trans hk)
      have hbrought := verb?_table calls (hverb ▸ hselect) (hverb ▸ htables)
      obtain ⟨name, rfl⟩ := Option.ne_none_iff_exists'.mp hbrought
      simp [htable]
    · rcases hfields with rfl | hsame
      · exact hkind
      · -- the kind was SELECT before, so the verb is one of SELECT as well
        have hbefore := h.select_of_fields (hsame ▸ hne)
        rcases own with hnone | hown
        · rw [hbefore] at hnone; cases hnone
        · rw [hkind, ← hown, hbefore]

theorem verb_cases (s : Statement) {call : Call} {verb : Verb} {table : Option String}
    (h : call.verb? = some (verb, table)) :
    (∃ current, s.kind = some current ∧ current ≠ verb.kind ∧
        outcome s call = .error (.kindConflict current verb.kind)) ∨
      (s.Admits verb ∧ table ≠ none ∧ ∃ existing, s.table = some existing ∧
        outcome s call = .error (.tableAlreadySet verb existing)) ∨
      (s.Admits verb ∧ (table = none ∨ s.table = none) ∧ outcome s call = .ok () ∧
        (after s call).kind = some verb.kind ∧ (after s call).table = table.or s.table) := by
  have hmakes := apply_makes s call
  unfold outcome after
  generalize call.apply.on s = result at hmakes
  cases hmakes with
  | otherKind calls set other =>
    cases h.symm.trans calls
    exact .inl ⟨_, set, other, rfl⟩
  | secondTable calls own brought set =>
    cases h.symm.trans calls
    exact .inr (.inl ⟨own, brought, _, set, rfl⟩)
  | started calls own free kind tables =>
    cases h.symm.trans calls
    exact .inr (.inr ⟨own, free, rfl, kind, tables⟩)
  | outside calls => subst calls; cases h
  | filled calls => cases h.symm.trans calls

/-- A verb succeeds exactly when the kind admits it and no table is set that it would set; it
objects to the kind first. -/
structure VerbLaw (s : Statement) (call : Call) (verb : Verb) (table : Option String) : Prop where
  succeeds : outcome s call = .ok () ↔ s.Admits verb ∧ (table = none ∨ s.table = none)
  starts : outcome s call = .ok () →
    (after s call).kind = some verb.kind ∧ (after s call).table = table.or s.table
  otherKind : ∀ current, s.kind = some current → current ≠ verb.kind →
    outcome s call = .error (.kindConflict current verb.kind)
  secondTable : ∀ existing, s.Admits verb → table ≠ none → s.table = some existing →
    outcome s call = .error (.tableAlreadySet verb existing)

private theorem not_admits {s : Statement} {verb : Verb} {current : Kind}
    (h : s.kind = some current)
    (other : current ≠ verb.kind) : ¬s.Admits verb := by
  rintro (hnone | hown)
  · rw [h] at hnone; cases hnone
  · exact other (Option.some.inj (h.symm.trans hown))

theorem verb_law (s : Statement) {call : Call} {verb : Verb} {table : Option String}
    (h : call.verb? = some (verb, table)) : VerbLaw s call verb table := by
  rcases verb_cases s h with ⟨current, hk, hother, hout⟩ | ⟨hown, hbrought, existing, ht, hout⟩ |
    ⟨hown, hfree, hout, hkind, htable⟩
  · refine ⟨?_, ?_, ?_, ?_⟩
    · simp [hout, not_admits hk hother]
    · simp [hout]
    · rintro c hc -
      rwa [Option.some.inj (hc.symm.trans hk)]
    · exact fun _ hown => absurd hown (not_admits hk hother)
  · refine ⟨?_, ?_, ?_, ?_⟩
    · simp [hout, hbrought, ht]
    · simp [hout]
    · exact fun _ hc hother => absurd hown (not_admits hc hother)
    · rintro e - - he
      rwa [Option.some.inj (he.symm.trans ht)]
  · refine ⟨?_, ?_, ?_, ?_⟩
    · simp [hout, hown, hfree]
    · exact fun _ => ⟨hkind, htable⟩
    · exact fun _ hc hother => absurd hown (not_admits hc hother)
    · rintro e - hbrought he
      rcases hfree with hnone | hnone
      · exact absurd hnone hbrought
      · rw [he] at hnone; cases hnone

/-- A limit is taken exactly when both bounds fit 64 unsigned bits, and then read back as they
were given. -/
structure LimitLaw (s : Statement) (offset length : Int) : Prop where
  succeeds : outcome s (.limitTo offset length) = .ok () ↔ limitRange offset length
  objects : ¬limitRange offset length →
    outcome s (.limitTo offset length) = .error (.invalidLimit offset length)
  kept : limitRange offset length → ∃ limit, (after s (.limitTo offset length)).limit = some limit ∧
    (limit.offset.toNat : Int) = offset ∧ (limit.length.toNat : Int) = length

private theorem limit_law (s : Statement) (offset length : Int) : LimitLaw s offset length := by
  by_cases h : limitRange offset length
  · have hon : (Call.limitTo offset length).apply.on s = (.ok (), { s with
        limit := some ⟨UInt64.ofNat offset.toNat, UInt64.ofNat length.toNat⟩ }) :=
      congrArg (Statement.Change.on · s) (if_pos h)
    refine ⟨by simp [outcome, hon, h], fun hn => absurd h hn, fun _ => ?_⟩
    obtain ⟨⟨ho, hoTop⟩, hl, hlTop⟩ := h
    have hback {n : Int} (hn : 0 ≤ n) (hTop : n ≤ 18446744073709551615) :
        ((UInt64.ofNat n.toNat).toNat : Int) = n := by
      rw [UInt64.toNat_ofNat_of_lt' (by simp only [UInt64.size]; omega)]
      omega
    exact ⟨_, by rw [after, hon], hback ho hoTop, hback hl hlTop⟩
  · have hon : (Call.limitTo offset length).apply.on s =
      (.error (.invalidLimit offset length), s) :=
      congrArg (Statement.Change.on · s) (if_neg h)
    exact ⟨by simp [outcome, hon, h], fun _ => by rw [outcome, hon], fun hr => absurd hr h⟩

theorem filling_succeeds (s : Statement) {call : Call} (h : call.verb? = none)
    (hlimit : ∀ offset length, call ≠ .limitTo offset length) : outcome s call = .ok () := by
  have hmakes := apply_makes s call
  unfold outcome
  generalize call.apply.on s = result at hmakes
  cases hmakes with
  | otherKind calls => cases h.symm.trans calls
  | secondTable calls => cases h.symm.trans calls
  | outside calls => exact absurd calls (hlimit _ _)
  | started => rfl
  | filled => rfl

/-! ## Whole sequences of calls -/

theorem run_append (calls later : List Call) :
    run (calls ++ later) = later.foldl after (run calls) :=
  List.foldl_append

theorem foldl_preserves (holds : Statement → Prop)
    (step : ∀ s, holds s → ∀ call, holds (after s call)) {s : Statement} (h : holds s)
    (calls : List Call) : holds (calls.foldl after s) := by
  induction calls generalizing s with
  | nil => exact h
  | cons call calls ih => exact ih (step s h call)

theorem run_sound (calls : List Call) : Sound (run calls) :=
  foldl_preserves Sound (fun _ h => after_sound h) empty_sound calls

/-- What is so of the statement that a sequence of calls has made, whichever of them failed, and
of every call that follows. -/
structure Builds (calls : List Call) : Prop extends Sound (run calls) where
  failed : ∀ call e, outcome (run calls) call = .error e → run (calls ++ [call]) = run calls
  kind_kept : ∀ kind, (run calls).kind = some kind →
    ∀ later, (run (calls ++ later)).kind = some kind
  table_kept : ∀ table, (run calls).table = some table →
    ∀ later, (run (calls ++ later)).table = some table
  verbs : ∀ call verb table, call.verb? = some (verb, table) →
    VerbLaw (run calls) call verb table
  limits : ∀ offset length, LimitLaw (run calls) offset length
  fillings : ∀ call, call.verb? = none → (∀ offset length, call ≠ .limitTo offset length) →
    outcome (run calls) call = .ok ()

/-- Any sequence of builder calls, in any order and with failures in between, leaves a statement
whose kind and table are settled once and together, and which a failing call does not touch. -/
theorem run_builds (calls : List Call) : Builds calls where
  toSound := run_sound calls
  failed call e h := by
    rw [run_append]
    exact failed_unchanged h
  kind_kept kind h later := by
    rw [run_append]
    exact foldl_preserves (·.kind = some kind) (fun _ hs => kind_after hs) h later
  table_kept table h later := by
    rw [run_append]
    exact foldl_preserves (·.table = some table) (fun _ hs => table_after hs) h later
  verbs _ _ _ h := verb_law _ h
  limits := limit_law _
  fillings _ h hlimit := filling_succeeds _ h hlimit

theorem run_builds_select : ∃ calls : List Call,
    (run calls).kind = some .select ∧ (run calls).table = some "user" ∧
      outcome (run calls) (.insertInto "log") = .error (.kindConflict .select .insert) ∧
      run (calls ++ [.insertInto "log"]) = run calls ∧
      outcome (run calls) (.source "log") = .error (.tableAlreadySet .source "user") ∧
      outcome (run calls) (.limitTo 0 18446744073709551615) = .ok () ∧
      outcome (run calls) (.limitTo (-1) 5) = .error (.invalidLimit (-1) 5) := by
  let calls : List Call := [.source "user", .deleteFrom "log", .select "name"]
  have h := run_builds calls
  have hconflict := (h.verbs (.insertInto "log") .insertInto (some "log") rfl).otherKind .select rfl
    (by decide)
  exact ⟨calls, rfl, rfl, hconflict, h.failed _ _ hconflict,
    (h.verbs (.source "log") .source (some "log") rfl).secondTable "user" (.inr rfl) (by simp) rfl,
    (h.limits 0 18446744073709551615).succeeds.mpr (by simp [limitRange]),
    (h.limits (-1) 5).objects (by simp [limitRange])⟩

end Call
end RecordGateway
