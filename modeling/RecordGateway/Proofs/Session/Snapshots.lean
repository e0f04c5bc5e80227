import RecordGateway.Proofs.Connection.Calls
import RecordGateway.Proofs.Session.Deeds
/-!
# Before-images over a run

After any run of commands a gateway holds a before-image exactly for the objects that its own
reads have handed out and that it was not told to forget since, with the model as it was hydrated.
-/
namespace RecordGateway

def Session.deeds {σ η M : Type} (c : Connection σ η) (m : Nat → Mapping M) :
    Session σ M → List (Command M) → List (Deed σ M)
  | _, [] => []
  | s, command :: rest =>
    s.deed c m command :: deeds c m (s.deed c m command).after rest

namespace Deed

variable {σ M : Type}

/-- A deed at one gateway that leaves one of its tokens alone. -/
def Spares (i : Nat) (token : Token) (d : Deed σ M) : Prop :=
  d.before.current = i → d.forgotten? ≠ some token

/-- In a run the gateway with the given number has handed out a token with a model, and has not
forgotten the token since. -/
def Holds (run : List (Deed σ M)) (i : Nat) (entry : Token × M) : Prop :=
  ∃ earlier d later, run = earlier ++ d :: later ∧ d.before.current = i ∧ entry ∈ d.handed ∧
    ∀ e ∈ later, e.Spares i entry.1

private theorem holds_nil (i : Nat) (entry : Token × M) :
    ¬Holds ([] : List (Deed σ M)) i entry := by
  rintro ⟨earlier, d, later, h, -⟩
  simp at h

private theorem holds_cons (d : Deed σ M) (run : List (Deed σ M)) (i : Nat) (entry : Token × M) :
    Holds (d :: run) i entry ↔
      (d.before.current = i ∧ entry ∈ d.handed ∧ ∀ e ∈ run, e.Spares i entry.1) ∨
        Holds run i entry := by
  constructor
  · rintro ⟨earlier, d', later, h, hrest⟩
    cases earlier with
    | nil =>
      obtain ⟨rfl, rfl⟩ := List.cons.inj h
      exact .inl hrest
    | cons e earlier =>
      obtain ⟨-, rfl⟩ := List.cons.inj h
      exact .inr ⟨earlier, d', later, rfl, hrest⟩
  · rintro (hhead | ⟨earlier, d', later, rfl, hrest⟩)
    · exact ⟨[], d, run, rfl, hhead⟩
    · exact ⟨d :: earlier, d', later, rfl, hrest⟩

end Deed

namespace Session

open Deed

variable {σ η M : Type} (c : Connection σ η) (m : Nat → Mapping M)

private theorem mem_deeds {s : Session σ M} {commands : List (Command M)} {d : Deed σ M}
    (h : d ∈ s.deeds c m commands) : ∃ s' : Session σ M, ∃ command, d = s'.deed c m command := by
  induction commands generalizing s with
  | nil => simp [deeds] at h
  | cons command rest ih =>
    rcases List.mem_cons.mp h with rfl | h
    · exact ⟨s, command, rfl⟩
    · exact ih h

private theorem runAll_cons (s : Session σ M) (command : Command M) (rest : List (Command M)) :
    s.runAll c m (command :: rest) = (s.deed c m command).after.runAll c m rest := rfl

/-- The tokens of a run are the numbers from the counter on, and the counter ends behind them. -/
theorem deeds_tokens (s : Session σ M) (commands : List (Command M)) :
    ((s.deeds c m commands).flatMap handed).map Prod.fst =
        List.range' s.shared.nextToken ((s.deeds c m commands).flatMap handed).length ∧
      (s.runAll c m commands).shared.nextToken =
        s.shared.nextToken + ((s.deeds c m commands).flatMap handed).length := by
  induction commands generalizing s with
  | nil => exact ⟨rfl, rfl⟩
  | cons command rest ih =>
    obtain ⟨htokens, hcounter⟩ := ih (s.deed c m command).after
    have hlaw := s.deed_lawful c m command
    have hstart : (s.deed c m command).after.shared.nextToken =
      s.shared.nextToken + (s.deed c m command).handed.length := hlaw.counter
    have hhead : (s.deed c m command).handed.map Prod.fst =
      List.range' s.shared.nextToken (s.deed c m command).handed.length := hlaw.tokens
    rw [hstart] at htokens hcounter
    rw [runAll_cons, hcounter]
    simp only [deeds, List.flatMap_cons, List.map_append, List.length_append, htokens, hhead]
    refine ⟨?_, Nat.add_assoc _ _ _⟩
    rw [← List.range'_append, Nat.one_mul]

theorem deed_gateway (s : Session σ M) (command : Command M) (i : Nat) :
    (s.deed c m command).after.gateways[i]? =
      s.gateways[i]?.map fun g => if s.current = i then (s.deed c m command).change g else g := by
  have hlaw : (s.deed c m command).after.gateways =
    s.gateways.modify s.current (s.deed c m command).change := (s.deed_lawful c m command).gateways
  rw [hlaw, List.getElem?_modify]
  rfl

private theorem runAll_tables (s : Session σ M) (commands : List (Command M)) :
    (s.runAll c m commands).gateways.map Gateway.table = s.gateways.map Gateway.table := by
  induction commands generalizing s with
  | nil => rfl
  | cons command rest ih =>
    rw [runAll_cons, ih]
    apply List.ext_getElem?
    intro i
    rw [List.getElem?_map, List.getElem?_map, deed_gateway, Option.map_map]
    congr 1
    funext g
    by_cases hi : s.current = i
    · simp [hi, change]
    · simp [hi]

/-- The tokens of every gateway are distinct and have been handed out. -/
structure WellTracked (s : Session σ M) : Prop where
  distinct : ∀ g ∈ s.gateways, (g.snapshots.map Prod.fst).Nodup
  drawn : ∀ g ∈ s.gateways, ∀ token ∈ g.snapshots.map Prod.fst, token < s.shared.nextToken

theorem start_wellTracked (connection : σ) (tables : List String) :
    (start connection tables : Session σ M).WellTracked where
  distinct g hg := by
    obtain ⟨table, -, rfl⟩ := List.mem_map.mp hg
    exact List.nodup_nil
  drawn g hg token htoken := by
    obtain ⟨table, -, rfl⟩ := List.mem_map.mp hg
    simp [Gateway.overTable] at htoken

private theorem deed_wellTracked {s : Session σ M} (h : s.WellTracked) (command : Command M) :
    (s.deed c m command).after.WellTracked := by
  have hlaw := s.deed_lawful c m command
  have hcounter : (s.deed c m command).after.shared.nextToken =
    s.shared.nextToken + (s.deed c m command).handed.length := hlaw.counter
  have htokens : (s.deed c m command).handed.map Prod.fst =
    List.range' s.shared.nextToken (s.deed c m command).handed.length := hlaw.tokens
  -- A gateway is as before, or a part of its before-images is left and fresh tokens follow.
  have hcases {g' : Gateway M} (hg' : g' ∈ (s.deed c m command).after.gateways) :
      ∃ g ∈ s.gateways, g' = g ∨ g' = (s.deed c m command).change g := by
    obtain ⟨i, hi⟩ := List.mem_iff_getElem?.mp hg'
    rw [deed_gateway] at hi
    obtain ⟨g, hg, rfl⟩ := Option.map_eq_some_iff.mp hi
    refine ⟨g, List.mem_of_getElem? hg, ?_⟩
    by_cases hc : s.current = i
    · exact .inr (if_pos hc)
    · exact .inl (if_neg hc)
  have hleft (g : Gateway M) : ((g.snapshots.filter fun entry =>
      (s.deed c m command).forgotten? != some entry.1).map Prod.fst).Sublist
        (g.snapshots.map Prod.fst) := List.filter_sublist.map _
  constructor
  · intro g' hg'
    obtain ⟨g, hg, rfl | rfl⟩ := hcases hg'
    · exact h.distinct g' hg
    · rw [change, List.map_append, htokens]
      refine List.nodup_append.mpr ⟨(hleft g).nodup (h.distinct g hg), List.nodup_range', ?_⟩
      intro a ha b hb hab
      have hlt := h.drawn g hg a ((hleft g).subset ha)
      have hge := (List.mem_range'_1.mp hb).1
      exact Nat.not_lt.mpr hge (hab ▸ hlt)
  · intro g' hg' token htoken
    rw [hcounter]
    obtain ⟨g, hg, rfl | rfl⟩ := hcases hg'
    · exact Nat.lt_add_right _ (h.drawn g' hg token htoken)
    · rw [change, List.map_append, htokens, List.mem_append, List.mem_range'_1] at htoken
      rcases htoken with hold | hnew
      · exact Nat.lt_add_right _ (h.drawn g hg token ((hleft g).subset hold))
      · exact hnew.2

theorem runAll_wellTracked {s : Session σ M} (h : s.WellTracked) (commands : List (Command M)) :
    (s.runAll c m commands).WellTracked := by
  induction commands generalizing s with
  | nil => exact h
  | cons command rest ih => exact ih (deed_wellTracked c m h command)

private theorem lookup_eq_some {α : Type} {entries : List (Token × α)}
    (h : (entries.map Prod.fst).Nodup) (token : Token) (x : α) :
    entries.lookup token = some x ↔ (token, x) ∈ entries := by
  induction entries with
  | nil => simp
  | cons entry rest ih =>
    obtain ⟨first, y⟩ := entry
    obtain ⟨hfirst, hrest⟩ := List.nodup_cons.mp h
    rw [List.lookup_cons, List.mem_cons, Prod.mk.injEq]
    by_cases ht : token = first
    · subst ht
      have hnot : (token, x) ∉ rest := fun hm => hfirst (List.mem_map.mpr ⟨_, hm, rfl⟩)
      simp [hnot, eq_comm]
    · have hne : (token == first) = false := beq_eq_false_iff_ne.mpr ht
      simp only [hne, ht, false_and, false_or, ih hrest]

theorem before?_eq_some {g : Gateway M} (h : (g.snapshots.map Prod.fst).Nodup)
    (object : Tracked M) (x : M) :
    g.before? object = some x ↔ ∃ token, object.token = some token ∧ (token, x) ∈ g.snapshots := by
  simp only [Gateway.before?, Option.bind_eq_some_iff, lookup_eq_some h]

private theorem mem_change (d : Deed σ M) (g : Gateway M) (entry : Token × M) :
    entry ∈ (d.change g).snapshots ↔
      entry ∈ g.snapshots ∧ d.forgotten? ≠ some entry.1 ∨ entry ∈ d.handed := by
  simp [change]

/-- What a gateway holds after a run it held before and was not told to forget, or it was handed
out in the run and not forgotten since. -/
theorem runAll_holds (s : Session σ M) (commands : List (Command M)) (i : Nat) (entry : Token × M)
    {g g' : Gateway M} (hg : s.gateways[i]? = some g)
    (hg' : (s.runAll c m commands).gateways[i]? = some g') :
    entry ∈ g'.snapshots ↔
      (entry ∈ g.snapshots ∧ ∀ e ∈ s.deeds c m commands, e.Spares i entry.1) ∨
        Holds (s.deeds c m commands) i entry := by
  induction commands generalizing s g with
  | nil =>
    obtain rfl : g = g' := Option.some.inj (hg.symm.trans hg')
    simp [deeds, holds_nil]
  | cons command rest ih =>
    have hnext := s.deed_gateway c m command i
    rw [hg, Option.map_some] at hnext
    rw [ih (s.deed c m command).after hnext hg', deeds, holds_cons, List.forall_mem_cons]
    by_cases hc : s.current = i
    · have hspares : (s.deed c m command).Spares i entry.1 ↔
          (s.deed c m command).forgotten? ≠ some entry.1 :=
        ⟨fun h => h hc, fun h _ => h⟩
      have hhere : (s.deed c m command).before.current = i := hc
      rw [if_pos hc, mem_change, hspares]
      simp only [hhere, true_and]
      rw [or_and_right, and_assoc, or_assoc]
    · have hspares : (s.deed c m command).Spares i entry.1 := fun h => absurd h hc
      have hhere : (s.deed c m command).before.current ≠ i := hc
      rw [if_neg hc]
      simp only [hhere, hspares, true_and, false_and, false_or]

/-- The account of a run that led from the start to a final session. -/
structure Account (tables : List String) (run : List (Deed σ M)) (final : Session σ M) : Prop where
  /-- No token is handed out twice, at whatever gateway. -/
  tokens : ((run.flatMap handed).map Prod.fst).Nodup
  counter : final.shared.nextToken = 1 + (run.flatMap handed).length
  /-- A counter of 64 bits draws the same tokens, as long as they last. -/
  bounded : (run.flatMap handed).length < UInt64.size →
    ∀ entry ∈ run.flatMap handed, (UInt64.ofNat entry.1).toNat = entry.1
  tables : final.gateways.map Gateway.table = tables
  /-- Every object that a read gives back has a token, and its model as it was hydrated. -/
  objects : ∀ d ∈ run, d.returned = d.handed.map Gateway.attached ∧
    d.handed.map Prod.snd = d.hydrated c (m d.before.current)
  /-- A failure of any kind, and a success of any other command, changes no before-image. -/
  unchanged : ∀ d ∈ run, (∃ e, d.reply = .failed e) ∨ d.command.tracks = false →
    d.after.gateways = d.before.gateways ∧ d.after.shared.nextToken = d.before.shared.nextToken
  distinct : ∀ (i : Nat) (g : Gateway M), final.gateways[i]? = some g →
    (g.snapshots.map Prod.fst).Nodup
  snapshots : ∀ (i : Nat) (g : Gateway M), final.gateways[i]? = some g →
    ∀ entry, entry ∈ g.snapshots ↔ Holds run i entry
  /-- An object that the gateway does not hold is not written, and nothing is asked of the
  connection. -/
  unknown : ∀ (i : Nat) (g : Gateway M), final.gateways[i]? = some g → ∀ object : Tracked M,
    (∀ token x, object.token = some token → ¬Holds run i (token, x)) → ∀ state log,
      g.update c (m i) object state = (.ok false, state) ∧
      g.update c.watched (m i) object (state, log) = (.ok false, state, log)
  /-- An object that it holds is written by one update from the model that was read to the model
  that the object has now. -/
  known : ∀ (i : Nat) (g : Gateway M), final.gateways[i]? = some g → ∀ (object : Tracked M) token x,
    object.token = some token → Holds run i (token, x) → ∀ state log,
      ∃ r acts result after, r = replacement g.table ((m i).write x) ((m i).write object.model) ∧
        r.statement.kind = some .update ∧
        Gateway.Delivers c r state acts result after ∧
        g.update c (m i) object state = (Gateway.updateAnswer result, after) ∧
        g.update c.watched (m i) object (state, log) =
          (Gateway.updateAnswer result, after, log ++ acts)

variable (connection : σ) (tables : List String) (commands : List (Command M))

private theorem run_tables :
    ((start connection tables : Session σ M).runAll c m commands).gateways.map Gateway.table =
      tables := by
  rw [runAll_tables, start, List.map_map]
  exact List.map_id' _

private theorem run_distinct (i : Nat) (g : Gateway M)
    (hg : ((start connection tables).runAll c m commands).gateways[i]? = some g) :
    (g.snapshots.map Prod.fst).Nodup :=
  (runAll_wellTracked c m (start_wellTracked connection tables) commands).distinct g
    (List.mem_of_getElem? hg)

private theorem run_snapshots (i : Nat) (g : Gateway M)
    (hg : ((start connection tables).runAll c m commands).gateways[i]? = some g)
    (entry : Token × M) :
    entry ∈ g.snapshots ↔ Holds ((start connection tables).deeds c m commands) i entry := by
  have htable : tables[i]? = some g.table := by
    rw [← run_tables c m connection tables commands, List.getElem?_map, hg, Option.map_some]
  have hfirst : (start connection tables : Session σ M).gateways[i]? =
      some (Gateway.overTable g.table) := by
    rw [start, List.getElem?_map, htable, Option.map_some]
  rw [runAll_holds c m _ commands i entry hfirst hg]
  simp [Gateway.overTable]

private theorem run_before (i : Nat) (g : Gateway M)
    (hg : ((start connection tables).runAll c m commands).gateways[i]? = some g)
    (object : Tracked M) (x : M) :
    g.before? object = some x ↔ ∃ token, object.token = some token ∧
      Holds ((start connection tables).deeds c m commands) i (token, x) := by
  simp only [before?_eq_some (run_distinct c m connection tables commands i g hg),
    run_snapshots c m connection tables commands i g hg]

/-- Every run of commands over any gateways of one connection keeps its account. -/
theorem run_account :
    Account c m tables ((start connection tables).deeds c m commands)
      ((start connection tables).runAll c m commands) := by
  obtain ⟨htokens, hcounter⟩ := (start connection tables : Session σ M).deeds_tokens c m commands
  refine ⟨?_, hcounter, ?_, run_tables c m connection tables commands, ?_, ?_,
    run_distinct c m connection tables commands, run_snapshots c m connection tables commands,
    ?_, ?_⟩
  · rw [htokens]
    exact List.nodup_range'
  · intro hfew entry hentry
    have htoken := List.mem_map_of_mem (f := Prod.fst) hentry
    rw [htokens, List.mem_range'_1] at htoken
    exact UInt64.toNat_ofNat_of_lt' (Nat.lt_of_le_of_lt (Nat.lt_one_add_iff.mp htoken.2) hfew)
  · intro d hd
    obtain ⟨s, command, rfl⟩ := mem_deeds c m hd
    exact ⟨(s.deed_lawful c m command).objects, (s.deed_lawful c m command).models⟩
  · intro d hd hquiet
    obtain ⟨s, command, rfl⟩ := mem_deeds c m hd
    exact s.deed_unchanged c m command hquiet
  · intro i g hg object hno state log
    have hnone : g.before? object = none := by
      rw [Option.eq_none_iff_forall_ne_some]
      intro x hx
      obtain ⟨token, htoken, hholds⟩ :=
        (run_before c m connection tables commands i g hg object x).mp hx
      exact hno token x htoken hholds
    exact ⟨Gateway.update_unknown c (m i) g object state hnone,
      Gateway.update_unknown c.watched (m i) g object (state, log) hnone⟩
  · intro i g hg object token x htoken hholds state log
    have hsome := (run_before c m connection tables commands i g hg object x).mpr
      ⟨token, htoken, hholds⟩
    obtain ⟨acts, result, after, hd, hplain, hwatched⟩ :=
      Gateway.update_delivers c (m i) g object state log hsome
    exact ⟨_, acts, result, after, rfl, rfl, hd, hplain, hwatched⟩

end Session
end RecordGateway
