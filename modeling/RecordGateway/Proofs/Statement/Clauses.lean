import RecordGateway.Proofs.Lists
import RecordGateway.Proofs.Reading.Predicate
import RecordGateway.Proofs.Statement.Rendering
/-!
# Keywords and their clauses

The text of a statement as a function of its trees. A tree without any condition leaves out WHERE
and HAVING together with their keyword.
-/
namespace RecordGateway

namespace Template

private theorem inline_ne_empty {t : Template} {s : String} (h : Piece.text s ∈ t) (hs : s ≠ "") :
    t.inline ≠ "" := by
  obtain ⟨before, after, rfl⟩ := List.append_of_mem h
  rw [inline_append, inline_text]
  intro hempty
  have hparts := String.append_eq_empty_iff.mp hempty
  exact hs (String.append_eq_empty_iff.mp hparts.2).1

end Template

namespace Predicate

private theorem condition_text (c : Condition) : ∃ s, s ≠ "" ∧ Piece.text s ∈ c.template := by
  refine ⟨" " ++ c.relation ++ " ", ?_, by simp [Condition.template]⟩
  intro hempty
  exact absurd (String.append_eq_empty_iff.mp hempty).2 (by decide)

private theorem partTemplates_text (parts : List Predicate) :
    ∀ t ∈ partTemplates parts, ∃ s, s ≠ "" ∧ Piece.text s ∈ t := by
  induction parts with
  | nil => simp [partTemplates]
  | cons part rest ih =>
    intro t ht
    rw [partTemplates] at ht
    rcases List.mem_append.mp ht with ht | ht
    · cases part with
      | condition c =>
        rw [List.mem_singleton.mp ht]
        exact condition_text c
      | group operator parts =>
        simp only [asPart] at ht
        split at ht
        · cases ht
        · rw [List.mem_singleton.mp ht]
          exact ⟨"(", by decide, List.mem_cons_self ..⟩
    · exact ih t ht

theorem text_eq_empty (p : Predicate) : p.text = "" ↔ p.conditions = [] := by
  rw [← template_eq_nil]
  constructor
  · intro hempty
    by_contra hne
    have hpiece : ∃ s, s ≠ "" ∧ Piece.text s ∈ p.template := by
      cases p with
      | condition c => exact condition_text c
      | group operator parts =>
        rw [template, intercalate_eq_nil (partTemplates_ne_nil parts)] at hne
        obtain ⟨t, ht⟩ := List.exists_mem_of_ne_nil _ hne
        obtain ⟨s, hs, hmem⟩ := partTemplates_text parts t ht
        exact ⟨s, hs, subset_intercalate _ ht hmem⟩
    obtain ⟨s, hs, hmem⟩ := hpiece
    exact Template.inline_ne_empty hmem hs hempty
  · intro hnil
    rw [text, hnil]
    rfl

end Predicate

/-- What a statement writes behind a keyword: a tree, or the columns that two tables share. -/
inductive Clause where
  | predicate (keyword : String) (p : Predicate)
  | columns (names : List String)

namespace Clause

def text : Clause → String
  | predicate keyword p => " " ++ keyword ++ " " ++ p.text
  | columns names => " USING (" ++ String.intercalate ", " names ++ ")"

def HasBody : Clause → Prop
  | predicate _ p => p.text ≠ ""
  | columns names => names ≠ []

def written (clause : Option Clause) : String := clause.elim "" text

/-- The clause of a root; a tree without conditions has none. -/
def ofRoot (keyword : String) : Option Predicate → Option Clause
  | none => none
  | some p => if p.conditions = [] then none else some (predicate keyword p)

/-- The clause of a join, whatever its constraint holds. -/
def ofConstraint : JoinConstraint → Option Clause
  | .onPredicate p => some (predicate "ON" p)
  | .usingColumns names => some (columns names)
  | .unconstrained => none

private theorem ofRoot_hasBody {keyword : String} {root : Option Predicate} :
    ∀ clause ∈ ofRoot keyword root, clause.HasBody := by
  intro clause hclause
  cases root with
  | none => cases hclause
  | some p =>
    rw [ofRoot] at hclause
    split at hclause
    · cases hclause
    · next hne =>
      obtain rfl := Option.some.inj hclause
      exact fun hempty => hne (p.text_eq_empty.mp hempty)

end Clause

namespace JoinConstraint

/-- The keyword of the constraint would stand alone. -/
def IsBare : JoinConstraint → Prop
  | onPredicate p => p.conditions = []
  | usingColumns names => names = []
  | unconstrained => False

private theorem hasBody_iff (constraint : JoinConstraint) :
    (∀ clause ∈ Clause.ofConstraint constraint, clause.HasBody) ↔ ¬constraint.IsBare := by
  cases constraint with
  | onPredicate p => simp [Clause.ofConstraint, Clause.HasBody, IsBare, p.text_eq_empty]
  | usingColumns names => simp [Clause.ofConstraint, Clause.HasBody, IsBare]
  | unconstrained => simp [Clause.ofConstraint, IsBare]

end JoinConstraint

def Join.written (j : Join) : String :=
  " " ++ j.kind.text ++ " JOIN " ++ j.table ++ Clause.written (Clause.ofConstraint j.constraint)

def Kind.hasCondition : Kind → Bool
  | select | update | delete | showColumns | showIndexes => true
  | insert | showTables => false

namespace Statement

def joinsWritten (s : Statement) : List Join := if s.kind = some .select then s.joins else []

def whereClause (s : Statement) : Option Clause :=
  if s.kind.any Kind.hasCondition then Clause.ofRoot "WHERE" s.filter else none

def havingClause (s : Statement) : Option Clause :=
  if s.kind = some .select then Clause.ofRoot "HAVING" s.having else none

/-- The clauses of a statement from left to right. -/
def clauses (s : Statement) : List Clause :=
  (s.joinsWritten.filterMap fun j => Clause.ofConstraint j.constraint) ++ s.whereClause.toList ++
    s.havingClause.toList

private theorem clause_inline (keyword : String) (root : Option Predicate) :
    (clause keyword root).inline = Clause.written (Clause.ofRoot keyword root) := by
  cases root with
  | none => rfl
  | some p =>
    have hnil := p.template_eq_nil
    by_cases hp : p.conditions = []
    · have hroot : Clause.ofRoot keyword (some p) = none := if_pos hp
      rw [clause, hroot, if_pos (by simpa using hnil.mpr hp)]
      rfl
    · have hroot : Clause.ofRoot keyword (some p) = some (.predicate keyword p) := if_neg hp
      rw [clause, hroot, if_neg (by simpa [hnil] using hp)]
      rfl

private theorem constraint_inline (constraint : JoinConstraint) :
    (constraintTemplate constraint).inline = Clause.written (Clause.ofConstraint constraint) := by
  cases constraint with
  | onPredicate p => rfl
  | usingColumns names => exact String.append_empty
  | unconstrained => rfl

private theorem joins_inline (s : Statement) :
    s.joinTemplate.inline = String.join (s.joins.map Join.written) := by
  rw [joinTemplate]
  induction s.joins with
  | nil => rfl
  | cons j joins ih =>
    rw [List.flatMap_cons, Template.inline_append, ih, Template.inline_text, constraint_inline,
      List.map_cons, String.join_cons]
    rfl

/-- The statement with other joins and other trees in their places. -/
def withTrees (s : Statement) (joins : List Join) (filter having : Option Predicate) : Statement :=
  { s with joins := joins, filter := filter, having := having }

/-- Around its joins and trees, whichever they are, a statement has these texts. -/
def Fills (d : Dialect) (s : Statement) (opening middle closing : String) : Prop :=
  ∀ joins filter having,
    (s.withTrees joins filter having).evaluate d =
      .ok (opening ++
      String.join ((s.withTrees joins filter having).joinsWritten.map Join.written) ++
        Clause.written (s.withTrees joins filter having).whereClause ++ middle ++
        Clause.written (s.withTrees joins filter having).havingClause ++ closing)

section
variable {d : Dialect} {s : Statement} {kind : Kind} {table : String}

theorem select_fills (hkind : s.kind = some .select) (htable : s.requireTable = .ok table) :
    s.Fills d ("SELECT " ++ s.fieldTemplate.inline ++ " FROM " ++ table) s.groupTemplate.inline
      (s.orderTemplate.inline ++ s.limitTemplate.inline) := by
  intro joins filter having
  have hfilled : (s.withTrees joins filter having).requireTable = .ok table := htable
  have hselect : (s.withTrees joins filter having).kind = some .select := hkind
  have htemplate : (s.withTrees joins filter having).template d =
      (s.withTrees joins filter having).selectTemplate := by simp [template, hselect]
  have hwhere : (s.withTrees joins filter having).whereClause = Clause.ofRoot "WHERE" filter := by
    rw [whereClause, hselect]
    rfl
  rw [evaluate, htemplate, selectTemplate, hfilled, joinsWritten, if_pos hselect, ← joins_inline,
    havingClause, if_pos hselect, hwhere, ← clause_inline, ← clause_inline]
  simp only [bind, Except.bind, pure, Except.pure, Except.map, Template.inline_append,
    Template.inline_text, List.cons_append, String.append_assoc]
  rfl

theorem condition_fills (hkind : s.kind = some kind) (hselect : kind ≠ .select)
    (hcondition : kind.hasCondition)
    (h : ∃ opening closing : Template, ∀ joins filter having,
      (s.withTrees joins filter having).template d =
        .ok (opening ++ clause "WHERE" filter ++ closing)) :
    ∃ opening middle closing, s.Fills d opening middle closing := by
  obtain ⟨opening, closing, h⟩ := h
  refine ⟨opening.inline, closing.inline, "", fun joins filter having => ?_⟩
  have hfilled : (s.withTrees joins filter having).kind = some kind := hkind
  have hother : some kind ≠ some Kind.select := fun he => hselect (Option.some.inj he)
  have hfilter : (s.withTrees joins filter having).filter = filter := rfl
  rw [evaluate, h, joinsWritten, havingClause, whereClause, hfilled, if_neg hother, if_neg hother,
    Option.any_some, if_pos hcondition, ← clause_inline, hfilter]
  simp [Except.map, Template.inline_append, Clause.written, String.append_assoc]

theorem plain_fills (hkind : s.kind = some kind) (hselect : kind ≠ .select)
    (hplain : ¬kind.hasCondition) {t : Template}
    (h : ∀ joins filter having, (s.withTrees joins filter having).template d = .ok t) :
    ∃ opening middle closing, s.Fills d opening middle closing := by
  refine ⟨t.inline, "", "", fun joins filter having => ?_⟩
  have hfilled : (s.withTrees joins filter having).kind = some kind := hkind
  have hother : some kind ≠ some Kind.select := fun he => hselect (Option.some.inj he)
  rw [evaluate, h, joinsWritten, havingClause, whereClause, hfilled, if_neg hother, if_neg hother,
    Option.any_some, if_neg hplain]
  simp [Except.map, Clause.written]

private theorem requireTable_withTrees (htable : s.table = some table) (joins : List Join)
    (filter having : Option Predicate) :
    (s.withTrees joins filter having).requireTable = .ok table := by
  simp [requireTable, withTrees, htable]

private theorem updateTemplate_parts {t : Template} (h : s.updateTemplate = .ok t) :
    ∃ opening closing : Template, ∀ joins filter having,
      (s.withTrees joins filter having).updateTemplate =
        .ok (opening ++ clause "WHERE" filter ++ closing) := by
  obtain ⟨table, htable, hrest⟩ := withTable h
  split at hrest
  · cases hrest
  · next hsets =>
    let assignments : List Template := s.sets.entries.map fun e =>
      .text (quoteIdentifier e.1 ++ " = ") :: e.2.template
    refine ⟨.text ("UPDATE " ++ table ++ " SET ") :: List.intercalate [.text ", "] assignments, [],
      fun joins filter having => ?_⟩
    have hassigned : (s.withTrees joins filter having).sets.isEmpty = false := by
      rw [Bool.eq_false_iff]
      exact hsets
    rw [updateTemplate, requireTable_withTrees htable, hassigned, List.append_nil]
    rfl

private theorem deleteTemplate_parts {t : Template} (h : s.deleteTemplate = .ok t) :
    ∃ opening closing : Template, ∀ joins filter having,
      (s.withTrees joins filter having).deleteTemplate =
        .ok (opening ++ clause "WHERE" filter ++ closing) := by
  obtain ⟨table, htable, -⟩ := withTable h
  refine ⟨[.text ("DELETE FROM " ++ table)], [], fun joins filter having => ?_⟩
  rw [deleteTemplate, requireTable_withTrees htable, List.append_nil]
  rfl

private theorem columnsTemplate_parts {t : Template} (h : s.columnsTemplate d = .ok t) :
    ∃ opening closing : Template, ∀ joins filter having,
      (s.withTrees joins filter having).columnsTemplate d =
        .ok (opening ++ clause "WHERE" filter ++ closing) := by
  obtain ⟨table, htable, -⟩ := withTable h
  cases d with
  | mysql =>
    refine ⟨[.text ("SHOW FULL COLUMNS FROM " ++ table)], [], fun joins filter having => ?_⟩
    rw [columnsTemplate, requireTable_withTrees htable, List.append_nil]
    rfl
  | sqlite =>
    refine ⟨[.text ?head, .literal (.text table), .text "))"], [], ?parts⟩
    case parts =>
      intro joins filter having
      rw [columnsTemplate, requireTable_withTrees htable, List.append_nil]
      rfl

private theorem indexesTemplate_parts {t : Template} (h : s.indexesTemplate d = .ok t) :
    ∃ opening closing : Template, ∀ joins filter having,
      (s.withTrees joins filter having).indexesTemplate d =
        .ok (opening ++ clause "WHERE" filter ++ closing) := by
  obtain ⟨table, htable, -⟩ := withTable h
  cases d with
  | mysql =>
    refine ⟨[.text ("SHOW INDEX FROM " ++ table)], [], fun joins filter having => ?_⟩
    rw [indexesTemplate, requireTable_withTrees htable, List.append_nil]
    rfl
  | sqlite =>
    refine ⟨[.text ?head, .literal (.text table), .text ?tail], [.text ?order], ?parts⟩
    case parts =>
      intro joins filter having
      rw [indexesTemplate, requireTable_withTrees htable]
      rfl

theorem evaluate_fills {sql : String} (h : s.evaluate d = .ok sql) :
    ∃ opening middle closing, s.Fills d opening middle closing := by
  obtain ⟨t, ht⟩ : ∃ t, s.template d = .ok t := by
    cases ht : s.template d with
    | error e => simp [evaluate, ht, Except.map] at h
    | ok t => exact ⟨t, rfl⟩
  cases hkind : s.kind with
  | none => simp [template, hkind] at ht
  | some kind =>
    have hfilled (joins filter having) : (s.withTrees joins filter having).kind = some kind := hkind
    simp only [template, hkind] at ht
    cases kind with
    | select =>
      obtain ⟨table, htable, -⟩ := withTable ht
      exact ⟨_, _, _, select_fills hkind (by rw [requireTable, htable])⟩
    | insert =>
      refine plain_fills hkind (by decide) (by decide) (t := t) fun joins filter having => ?_
      rw [template, hfilled]
      exact ht
    | update =>
      apply condition_fills hkind (by decide) rfl
      simpa only [template, hfilled] using updateTemplate_parts ht
    | delete =>
      apply condition_fills hkind (by decide) rfl
      simpa only [template, hfilled] using deleteTemplate_parts ht
    | showTables =>
      refine plain_fills hkind (by decide) (by decide) (t := t) fun joins filter having => ?_
      rw [template, hfilled]
      exact ht
    | showColumns =>
      apply condition_fills hkind (by decide) rfl
      simpa only [template, hfilled] using columnsTemplate_parts ht
    | showIndexes =>
      apply condition_fills hkind (by decide) rfl
      simpa only [template, hfilled] using indexesTemplate_parts ht

end

theorem clauses_hasBody (s : Statement) :
    (∀ clause ∈ s.clauses, clause.HasBody) ↔ ∀ j ∈ s.joinsWritten, ¬j.constraint.IsBare := by
  simp only [← JoinConstraint.hasBody_iff]
  constructor
  · intro h j hj clause hclause
    refine h clause (List.mem_append_left _ (List.mem_append_left _ ?_))
    exact List.mem_filterMap.mpr ⟨j, hj, hclause⟩
  · intro h clause hclause
    rcases List.mem_append.mp hclause with hclause | hclause
    · rcases List.mem_append.mp hclause with hclause | hclause
      · obtain ⟨j, hj, hjoin⟩ := List.mem_filterMap.mp hclause
        exact h j hj clause hjoin
      · rw [Option.mem_toList, whereClause] at hclause
        split at hclause
        · exact Clause.ofRoot_hasBody clause hclause
        · cases hclause
    · rw [Option.mem_toList, havingClause] at hclause
      split at hclause
      · exact Clause.ofRoot_hasBody clause hclause
      · cases hclause

/-- A rendered statement is its clauses in their places. WHERE and HAVING are written with a tree
that has a condition or not at all; a keyword stands alone exactly when a join has a tree without
conditions for its ON, or no columns for its USING. -/
theorem evaluate_clauses {d : Dialect} {s : Statement} {sql : String} (h : s.evaluate d = .ok sql) :
    (∃ opening middle closing, s.Fills d opening middle closing ∧
      sql = opening ++ String.join (s.joinsWritten.map Join.written) ++
        Clause.written s.whereClause ++ middle ++ Clause.written s.havingClause ++ closing) ∧
    ((∀ clause ∈ s.clauses, clause.HasBody) ↔ ∀ j ∈ s.joinsWritten, ¬j.constraint.IsBare) := by
  refine ⟨?_, s.clauses_hasBody⟩
  obtain ⟨opening, middle, closing, hfills⟩ := evaluate_fills h
  have hown : s.evaluate d = _ := hfills s.joins s.filter s.having
  exact ⟨opening, middle, closing, hfills, Except.ok.inj (h.symm.trans hown)⟩

/-- A select from two tables with the given constraint, and with trees that hold no condition. -/
def joined (constraint : JoinConstraint) : Statement :=
  { Statement.empty with
    kind := some .select
    table := some "a"
    joins := [⟨"b", .left, constraint⟩]
    filter := some (.group .and [.group .or [], .group .and [.group .or []]])
    having := some (.group .or []) }

/-- The join of two tables by a condition; the trees of WHERE and HAVING leave nothing behind. -/
theorem evaluate_clauses_join :
    (∃ opening middle closing,
      "SELECT * FROM a LEFT JOIN b ON a.k = b.k" =
        opening ++ " LEFT JOIN b ON a.k = b.k" ++ "" ++ middle ++ "" ++ closing) ∧
    ∀ clause ∈ (joined (.onPredicate (.condition (.verbatim "a.k" "=" "b.k")))).clauses,
      clause.HasBody := by
  have h : (joined (.onPredicate (.condition (.verbatim "a.k" "=" "b.k")))).evaluate .mysql =
      .ok "SELECT * FROM a LEFT JOIN b ON a.k = b.k" := by rfl
  obtain ⟨⟨opening, middle, closing, -, htext⟩, hbody⟩ := evaluate_clauses h
  refine ⟨⟨opening, middle, closing, htext⟩, hbody.mpr fun j hj => ?_⟩
  obtain rfl := List.mem_singleton.mp hj
  exact List.cons_ne_nil _ _

/-- Joins over a tree without conditions and over no columns. -/
theorem join_keywords_bare :
    (joined (.onPredicate (.group .and []))).evaluate .sqlite =
      .ok "SELECT * FROM a LEFT JOIN b ON " ∧
    (joined (.usingColumns [])).evaluate .sqlite = .ok "SELECT * FROM a LEFT JOIN b USING ()" ∧
    (∃ clause ∈ (joined (.onPredicate (.group .and []))).clauses, ¬clause.HasBody) ∧
    ∃ clause ∈ (joined (.usingColumns [])).clauses, ¬clause.HasBody :=
  ⟨rfl, rfl, ⟨_, List.mem_cons_self .., fun h => h rfl⟩,
    ⟨_, List.mem_cons_self .., fun h => h rfl⟩⟩

end Statement
end RecordGateway
