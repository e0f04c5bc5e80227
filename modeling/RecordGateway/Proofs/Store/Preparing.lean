import RecordGateway.Proofs.Store.Filters
/-! # Queries that the store prepares -/
namespace RecordGateway

/-! ## The depth of a filter -/

theorem IsBindName.read_depth {name : String} (h : IsBindName name) :
    ∃ term, Term.read name = some term ∧ term.depth = 1 := ⟨_, h.read, rfl⟩

theorem depth_verbatim {field name word text : String} {relation : Relation}
    (hfield : Term.Names field name) (hrelation : Relation.read word = some relation)
    (hpattern : relation.isPattern = false)
    (htext : ∃ term, Term.read text = some term ∧ term.depth = 1) :
    (Condition.verbatim field word text).depth = 2 := by
  have hlike : relation ≠ .notLike := by
    rintro rfl
    cases hpattern
  have hleft : ((Term.read field).map Term.depth).getD 1 = 1 := by
    rcases hfield with hfield | ⟨cell, hfield⟩ <;> rw [hfield] <;> rfl
  have hright : ((Term.read text).map Term.depth).getD 1 = 1 := by
    obtain ⟨term, hread, hterm⟩ := htext
    rw [hread]
    exact hterm
  simp [Condition.depth, Condition.verbatim, Value.display, hleft, hright, hrelation, hlike]

theorem Predicate.depth_all {parts : List Predicate} (hparts : ∀ p ∈ parts, p.depth = 2)
    (hne : parts ≠ []) : (all parts).depth = parts.length + 1 := by
  have hfurther (before : Nat) (hbefore : 2 ≤ before) : ∀ rest : List Predicate,
      (∀ p ∈ rest, p.depth = 2) → partsDepth before rest = before + rest.length := by
    intro rest
    induction rest generalizing before with
    | nil => exact fun _ => rfl
    | cons p rest ih =>
      intro hrest
      obtain ⟨hp, hrest⟩ := List.forall_mem_cons.mp hrest
      have hzero : before ≠ 0 := by omega
      have hmax : max before 2 = before := by omega
      have htwo : ¬(2 = 0) := by omega
      simp only [partsDepth, hp, hzero, htwo, if_false, hmax, List.length_cons]
      rw [ih (1 + before) (by omega) hrest]
      omega
  obtain ⟨p, rest, rfl⟩ := List.exists_cons_of_ne_nil hne
  obtain ⟨hp, hrest⟩ := List.forall_mem_cons.mp hparts
  simp only [all, depth, partsDepth, hp, if_true, List.length_cons]
  rw [hfurther 2 (Nat.le_refl 2) rest hrest]
  omega

theorem Refusal.tooDeep_parts {q : Query} {parts : List Predicate}
    (hparts : ∀ p ∈ parts, p.depth = 2) (hfilter : q.filter = Reader.whereFilter parts) :
    tooDeep q = none ↔ parts.length < maxDepth := by
  cases parts with
  | nil =>
    have hnone : q.filter = none := hfilter
    have hzero : ([] : List Predicate).length < maxDepth := by decide
    rw [tooDeep, hnone]
    exact iff_of_true rfl hzero
  | cons part parts =>
    have hall : q.filter = some (.all (part :: parts)) := hfilter
    rw [tooDeep, hall, Option.any_some, Predicate.depth_all hparts (by simp)]
    simp only [decide_eq_true_eq, ite_eq_right_iff, reduceCtorEq, imp_false, Nat.not_lt]
    exact Nat.succ_le_iff

/-! ## Columns that are known -/

theorem Table.columns_subset_names (t : Table) : t.columns.map Column.name ⊆ t.names := by
  intro c hc
  exact List.mem_append_left _ (List.mem_append_left _ hc)

/-- The columns of a table are known by their names in any letter case. -/
theorem Term.Names.known {t : Table} {text name : String} (h : Names text name)
    (hcolumn : t.HasColumn name) {names : List String}
    (hnames : t.columns.map Column.name ⊆ names) :
    Reader.Known (Refusal.known names).known text := by
  have hknown : (Refusal.known names).known name = true := by
    obtain ⟨c, hc, hsame⟩ := hcolumn
    refine List.any_eq_true.mpr ⟨c.name, hnames (List.mem_map_of_mem hc), ?_⟩
    rw [Text.sameName_iff] at hsame ⊢
    exact hsame.symm
  rcases h with hread | ⟨cell, hread⟩
  · exact ⟨_, hread, hknown⟩
  · exact ⟨_, hread, rfl⟩

theorem Term.Names.readable {text name : String} (h : Names text name) :
    Reader.Known Scope.all.known text := by
  rcases h with hread | ⟨cell, hread⟩
  · exact ⟨_, hread, rfl⟩
  · exact ⟨_, hread, rfl⟩

@[simp] theorem Table.called_none (t : Table) : t.called none = t := rfl

end RecordGateway
