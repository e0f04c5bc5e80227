import RecordGateway.Proofs.Reading.Formula
import RecordGateway.Proofs.Reading.Unstructured
import RecordGateway.Proofs.Statement.Operands
/-!
# Written predicates

The text of a predicate is read as one formula, with the conditions of the tree from left to right
and with the truth of the tree, whatever the literals are and whether they are written into the
text or stand there as placeholders.
-/
namespace RecordGateway

/-- A condition that is named and in which nothing is raw that would count as structure. -/
structure Condition.Plain (c : Condition) : Prop where
  named : ∃ letter ∈ c.field.toList, Text.isAsciiBlank letter = false
  field : Unstructured c.field
  relation : Unstructured c.relation
  operand : c.operand.quoted = false → Unstructured c.operand.value.display

instance (c : Condition) : Decidable c.Plain :=
  decidable_of_iff ((c.field.toList.any fun letter => !Text.isAsciiBlank letter) = true ∧
      Unstructured c.field ∧ Unstructured c.relation ∧
        (c.operand.quoted = false → Unstructured c.operand.value.display)) <| by
    simp only [List.any_eq_true, Bool.not_eq_true']
    exact ⟨fun h => ⟨h.1, h.2.1, h.2.2.1, h.2.2.2⟩,
      fun h => ⟨h.named, h.field, h.relation, h.operand⟩⟩

/-- The two ways in which the literals of a statement are written. -/
inductive Sink where
  | inline
  | numbered
deriving DecidableEq

def Sink.mark : Sink → Nat → Value → String
  | inline, _, v => v.quotedLiteral
  | numbered, n, _ => placeholder n

private theorem Sink.mark_flat (sink : Sink) (n : Nat) (v : Value) :
    ∃ ls, Flat (sink.mark n v).toList ls := by
  cases sink with
  | inline => exact quotedLiteral_flat v
  | numbered => exact (placeholder_unstructured n).flat

/-- The texts of conditions whose literals are numbered through. -/
def Condition.texts (mark : Nat → Value → String) : Nat → List Condition → List String
  | _, [] => []
  | n, c :: cs => c.template.write mark n :: texts mark (n + c.template.literals.length) cs

namespace Predicate

mutual
/-- The tree without its groups that hold no condition; nothing is left of such a group itself. -/
def pruned : Predicate → Option Predicate
  | condition c => some (condition c)
  | group operator parts =>
    match prunedParts parts with
    | [] => none
    | kept => some (group operator kept)

def prunedParts : List Predicate → List Predicate
  | [] => []
  | part :: rest => part.pruned.toList ++ prunedParts rest
end

mutual
/-- The truth of a tree, given that of its conditions by their numbers from the given one on. -/
def truthAt (holds : Nat → Truth) : Nat → Predicate → Truth
  | n, condition _ => holds n
  | n, group operator parts => Truth.combine operator (partTruthsAt holds n parts)

def partTruthsAt (holds : Nat → Truth) : Nat → List Predicate → List Truth
  | _, [] => []
  | n, part :: rest =>
    part.truthAt holds n :: partTruthsAt holds (n + part.conditions.length) rest
end

/-! ## The formula of a tree -/

mutual
/-- The formula that the written tree is to be read as. -/
def formula (mark : Nat → Value → String) : Nat → Predicate → Option Formula
  | n, condition c => some (.condition ((lexemes (c.template.write mark n).toList).getD []))
  | n, group operator parts => Formula.chain operator (partFormulas mark n parts)

def partFormulas (mark : Nat → Value → String) : Nat → List Predicate → List Formula
  | _, [] => []
  | n, part :: rest =>
    (part.formula mark n).toList ++ partFormulas mark (n + part.template.literals.length) rest
end

private theorem partConditions_append (ps qs : List Predicate) :
    partConditions (ps ++ qs) = partConditions ps ++ partConditions qs := by
  induction ps with
  | nil => rfl
  | cons p ps ih => simp [partConditions, ih]

mutual
private theorem pruned_conditions : (p : Predicate) → partConditions p.pruned.toList = p.conditions
  | condition c => by simp [pruned, partConditions, conditions]
  | group operator parts => by
    have hparts := prunedParts_conditions parts
    simp only [pruned, conditions]
    cases hk : prunedParts parts with
    | nil => simpa [hk] using hparts
    | cons kept others => simpa [hk, partConditions, conditions] using hparts

theorem prunedParts_conditions : (parts : List Predicate) →
    partConditions (prunedParts parts) = partConditions parts
  | [] => rfl
  | part :: rest => by
    rw [prunedParts, partConditions_append, pruned_conditions part, prunedParts_conditions rest]
    rfl
end

mutual
private theorem pruned_eq_none : (p : Predicate) → (p.pruned = none ↔ p.conditions = [])
  | condition c => by simp [pruned, conditions]
  | group operator parts => by
    rw [conditions, ← prunedParts_eq_nil parts, pruned]
    cases prunedParts parts <;> simp

private theorem prunedParts_eq_nil : (parts : List Predicate) →
    (prunedParts parts = [] ↔ partConditions parts = [])
  | [] => by simp [prunedParts, partConditions]
  | part :: rest => by
    simp [prunedParts, partConditions, pruned_eq_none part, prunedParts_eq_nil rest]
end

mutual
private theorem formula_eq_none (mark : Nat → Value → String) : (p : Predicate) → (n : Nat) →
    (p.formula mark n = none ↔ p.conditions = [])
  | condition c, n => by simp [formula, conditions]
  | group operator parts, n => by
    rw [conditions, ← partFormulas_eq_nil mark parts n, formula, Formula.chain_eq_none]

private theorem partFormulas_eq_nil (mark : Nat → Value → String) : (parts : List Predicate) →
    (n : Nat) → (partFormulas mark n parts = [] ↔ partConditions parts = [])
  | [], n => by simp [partFormulas, partConditions]
  | part :: rest, n => by
    simp [partFormulas, partConditions, formula_eq_none mark part, partFormulas_eq_nil mark rest]
end

/-! ## Conditions and truth -/

private theorem literals_template (p : Predicate) :
    p.template.literals = p.conditions.flatMap fun c => c.template.literals := by
  have hcondition (c : Condition) : c.template.literals = c.operand.literal?.toList :=
    c.operand.literals_template
  rw [(template_spells p).literals, operands, List.filterMap_map]
  simp only [hcondition]
  induction p.conditions with
  | nil => rfl
  | cons c cs ih =>
    rw [List.filterMap_cons, List.flatMap_cons, ← ih]
    simp only [Function.comp_apply]
    cases c.operand.literal? <;> rfl

private theorem texts_append (mark : Nat → Value → String) (n : Nat) (cs ds : List Condition) :
    Condition.texts mark n (cs ++ ds) = Condition.texts mark n cs ++
      Condition.texts mark (n + (cs.flatMap fun c => c.template.literals).length) ds := by
  induction cs generalizing n with
  | nil => rfl
  | cons c cs ih =>
    simp only [List.cons_append, Condition.texts, ih, List.flatMap_cons, List.length_append,
      Nat.add_assoc]

private theorem texts_length (mark : Nat → Value → String) (n : Nat) (cs : List Condition) :
    (Condition.texts mark n cs).length = cs.length := by
  induction cs generalizing n with
  | nil => rfl
  | cons c cs ih => simp [Condition.texts, ih]

end Predicate

theorem Condition.Plain.flat {c : Condition} (h : c.Plain) (sink : Sink) (n : Nat) :
    ∃ ls, Flat (c.template.write sink.mark n).toList ls ∧ ls ≠ [] := by
  obtain ⟨fs, hfield⟩ := h.field.flat
  obtain ⟨rs, hrelation⟩ := h.relation.flat
  have hoperand : ∃ os, Flat (c.operand.template.write sink.mark n).toList os := by
    cases hq : c.operand.quoted with
    | true => simpa [Operand.template, hq, Template.write] using sink.mark_flat n c.operand.value
    | false => simpa [Operand.template, hq, Template.write] using (h.operand hq).flat
  obtain ⟨os, hoperand⟩ := hoperand
  have htext : (c.template.write sink.mark n).toList = c.field.toList ++ ' ' ::
      (c.relation.toList ++ ' ' :: (c.operand.template.write sink.mark n).toList) := by
    simp [Condition.template, Template.write, String.toList_append]
  refine ⟨fs ++ (rs ++ os), ?_, ?_⟩
  · rw [htext]
    exact hfield.blank (hrelation.blank hoperand)
  · obtain ⟨letter, hletter, hblank⟩ := h.named
    have hne := h.field.lexemes_ne_nil hletter hblank
    intro hnil
    rw [(List.append_eq_nil_iff.mp hnil).1] at hfield
    exact hne hfield.read

namespace Predicate

variable (sink : Sink)

mutual
theorem formula_conditions : (p : Predicate) → (∀ c ∈ p.conditions, c.Plain) → (n : Nat) →
    ((p.formula sink.mark n).toList.flatMap Formula.conditions).map some =
      (Condition.texts sink.mark n p.conditions).map fun text => lexemes text.toList
  | condition c, h, n => by
    obtain ⟨ls, hflat, -⟩ := (h c (by simp [conditions])).flat sink n
    simp [formula, conditions, Condition.texts, Formula.conditions, hflat.read]
  | group operator parts, h, n => by
    rw [formula, conditions, Formula.chain_conditions]
    exact partFormulas_conditions parts h n

theorem partFormulas_conditions : (parts : List Predicate) →
    (∀ c ∈ partConditions parts, c.Plain) → (n : Nat) →
    ((partFormulas sink.mark n parts).flatMap Formula.conditions).map some =
      (Condition.texts sink.mark n (partConditions parts)).map fun text => lexemes text.toList
  | [], _, n => rfl
  | part :: rest, h, n => by
    obtain ⟨hpart, hrest⟩ := List.forall_mem_append.mp h
    rw [partFormulas, partConditions, texts_append, ← literals_template, List.flatMap_append,
      List.map_append, List.map_append, formula_conditions part hpart n,
      partFormulas_conditions rest hrest]
end

private theorem formula_length (p : Predicate) (h : ∀ c ∈ p.conditions, c.Plain) (n : Nat) :
    ((p.formula sink.mark n).toList.flatMap Formula.conditions).length = p.conditions.length := by
  have hlength := congrArg List.length (formula_conditions sink p h n)
  rwa [List.length_map, List.length_map, texts_length] at hlength

private theorem partTruthsAt_append (holds : Nat → Truth) (n : Nat) (ps qs : List Predicate) :
    partTruthsAt holds n (ps ++ qs) =
      partTruthsAt holds n ps ++ partTruthsAt holds (n + (partConditions ps).length) qs := by
  induction ps generalizing n with
  | nil => rfl
  | cons p ps ih => simp [partTruthsAt, partConditions, ih, Nat.add_assoc]

mutual
theorem formula_truth (holds : Nat → Truth) : (p : Predicate) →
    (∀ c ∈ p.conditions, c.Plain) → (n k : Nat) →
    (p.formula sink.mark n).map (Formula.truth holds k) = p.pruned.map (truthAt holds k)
  | condition c, _, n, k => rfl
  | group operator parts, h, n, k => by
    have hparts := partFormulas_truths holds parts h n k
    have hempty : partFormulas sink.mark n parts = [] ↔ prunedParts parts = [] :=
      (partFormulas_eq_nil sink.mark parts n).trans (prunedParts_eq_nil parts).symm
    rw [formula, Formula.chain_truth, hparts, pruned]
    cases hk : prunedParts parts with
    | nil => simp [hempty.mpr hk]
    | cons kept others =>
      have hne : partFormulas sink.mark n parts ≠ [] := by simp [hempty, hk]
      simp [hne, truthAt]

theorem partFormulas_truths (holds : Nat → Truth) : (parts : List Predicate) →
    (∀ c ∈ partConditions parts, c.Plain) → (n k : Nat) →
    Formula.truths holds k (partFormulas sink.mark n parts) =
      partTruthsAt holds k (prunedParts parts)
  | [], _, n, k => rfl
  | part :: rest, h, n, k => by
    obtain ⟨hpart, hrest⟩ := List.forall_mem_append.mp h
    have hfirst : Formula.truths holds k (part.formula sink.mark n).toList =
        partTruthsAt holds k part.pruned.toList := by
      have htruth := formula_truth holds part hpart n k
      cases hf : part.formula sink.mark n <;> cases hq : part.pruned <;>
        simp_all [Formula.truths, partTruthsAt]
    rw [partFormulas, prunedParts, Formula.truths_append, partTruthsAt_append, hfirst,
      formula_length sink part hpart, pruned_conditions, partFormulas_truths holds rest hrest]
end

/-! ## The text of a tree -/

theorem partTemplates_ne_nil (parts : List Predicate) : ∀ t ∈ partTemplates parts, t ≠ [] := by
  induction parts with
  | nil => simp [partTemplates]
  | cons part rest ih =>
    intro t ht
    rw [partTemplates] at ht
    rcases List.mem_append.mp ht with ht | ht
    · cases part with
      | condition c =>
        rw [List.mem_singleton.mp ht]
        simp [template, Condition.template]
      | group operator parts =>
        simp only [asPart] at ht
        split at ht
        · simp at ht
        · rw [List.mem_singleton.mp ht]
          simp
    · exact ih t ht

theorem intercalate_eq_nil {separator : Piece} {ts : List Template} (h : ∀ t ∈ ts, t ≠ []) :
    List.intercalate [separator] ts = [] ↔ ts = [] := by
  cases ts with
  | nil => simp
  | cons t ts =>
    have ht := h t List.mem_cons_self
    cases ts <;> simp [List.intercalate, ht]

mutual
theorem template_eq_nil : (p : Predicate) → (p.template = [] ↔ p.conditions = [])
  | condition c => by simp [template, Condition.template, conditions]
  | group operator parts => by
    rw [template, intercalate_eq_nil (partTemplates_ne_nil parts), partTemplates_eq_nil parts,
      conditions]

theorem partTemplates_eq_nil : (parts : List Predicate) →
    (partTemplates parts = [] ↔ partConditions parts = [])
  | [] => by simp [partTemplates, partConditions]
  | part :: rest => by
    have hpart := template_eq_nil part
    rw [partTemplates, partConditions, List.append_eq_nil_iff, List.append_eq_nil_iff,
      partTemplates_eq_nil rest, ← hpart]
    cases part <;> simp [asPart, template, Condition.template]
end

end Predicate

def Connective.word (operator : Connective) : Lexeme := ⟨.name, operator.text.toList⟩

private theorem Connective.word_role (operator : Connective) :
    operator.word.role = .connective operator := by
  cases operator <;> decide

private theorem Connective.lexemes_text (operator : Connective) :
    lexemes operator.text.toList = some [operator.word] := by
  cases operator <;> decide

def Template.writes (mark : Nat → Value → String) : Nat → List Template → List String
  | _, [] => []
  | n, t :: ts => t.write mark n :: writes mark (n + t.literals.length) ts

theorem Template.lexemes_intercalate (operator : Connective) (mark : Nat → Value → String)
    {t : Template} {ts : List Template} {n : Nat} {ls : List Lexeme} {lss : List (List Lexeme)}
    (ht : lexemes (t.write mark n).toList = some ls)
    (hts : List.Forall₂ (fun text ls => lexemes text.toList = some ls)
      (writes mark (n + t.literals.length) ts) lss) :
    lexemes (write mark n
      (List.intercalate [.text (" " ++ operator.text ++ " ")] (t :: ts))).toList =
        some (ls ++ lss.flatMap (operator.word :: ·)) := by
  induction ts generalizing t n ls lss with
  | nil =>
    cases hts
    simpa [List.intercalate] using ht
  | cons u us ih =>
    cases hts with
    | @cons _ ms _ mss hu hus =>
      have hrest := ih hu hus
      have hsplit : List.intercalate [Piece.text (" " ++ operator.text ++ " ")] (t :: u :: us) =
          t ++ .text (" " ++ operator.text ++ " ") ::
            List.intercalate [Piece.text (" " ++ operator.text ++ " ")] (u :: us) := by
        simp [List.intercalate]
      have hword := lexemes_blank operator.lexemes_text hrest
      have hall := lexemes_blank ht hword
      rw [hsplit, write_append, write]
      simpa [String.toList_append] using hall

private theorem Reads.ne_nil {level : Level} {ls : List Lexeme} {f : Formula}
    (h : Reads level ls f) :
    ls ≠ [] := by
  induction h with
  | condition filled _ => exact filled
  | parentheses _ _ _ _ => simp
  | factor _ ih => exact ih
  | and _ _ _ _ _ => simp
  | conjunction _ ih => exact ih
  | or _ _ _ _ _ => simp

namespace Predicate

variable (sink : Sink)

mutual
/-- The text of a tree is read as its formula. -/
theorem formula_reads : (p : Predicate) → (∀ c ∈ p.conditions, c.Plain) → (n : Nat) →
    (f : Formula) → p.formula sink.mark n = some f →
    ∃ ls, lexemes (p.template.write sink.mark n).toList = some ls ∧ Reads .disjunction ls f
  | condition c, h, n, f, hf => by
    obtain ⟨ls, hflat, hfilled⟩ := (h c (by simp [conditions])).flat sink n
    simp only [formula, hflat.read, Option.getD_some, Option.some.injEq] at hf
    rw [← hf]
    exact ⟨ls, hflat.read, .conjunction (.factor (.condition hfilled hflat.plain))⟩
  | group operator parts, h, n, f, hf => by
    obtain ⟨lss, hread, hfactors⟩ := partFormulas_read parts h n
    rw [formula] at hf
    cases hfs : partFormulas sink.mark n parts with
    | nil => simp [hfs, Formula.chain] at hf
    | cons g gs =>
      rw [hfs] at hf hfactors
      cases hf
      cases hfactors with
      | @cons ls _ lss _ hg hgs =>
        cases hts : partTemplates parts with
        | nil => simp [hts, Template.writes] at hread
        | cons t ts =>
          rw [hts] at hread
          cases hread with
          | cons ht hts' =>
            refine ⟨_, ?_, Reads.foldl operator.word_role hgs hg⟩
            rw [template, hts]
            exact Template.lexemes_intercalate operator sink.mark ht hts'

/-- The text of every part that is written is read as a factor. -/
theorem partFormulas_read : (parts : List Predicate) → (∀ c ∈ partConditions parts, c.Plain) →
    (n : Nat) → ∃ lss,
      List.Forall₂ (fun text ls => lexemes text.toList = some ls)
        (Template.writes sink.mark n (partTemplates parts)) lss ∧
      List.Forall₂ (Reads .factor) lss (partFormulas sink.mark n parts)
  | [], _, n => ⟨[], .nil, .nil⟩
  | condition c :: rest, h, n => by
    obtain ⟨hpart, hrest⟩ := List.forall_mem_append.mp h
    obtain ⟨ls, hflat, hfilled⟩ := (hpart c (by simp [conditions])).flat sink n
    obtain ⟨lss, hread, hfactors⟩ := partFormulas_read rest hrest
      (n + c.template.literals.length)
    refine ⟨ls :: lss, .cons hflat.read hread, ?_⟩
    simp only [partFormulas, formula, hflat.read, Option.getD_some, Option.toList_some]
    exact .cons (.condition hfilled hflat.plain) hfactors
  | group operator parts :: rest, h, n => by
    obtain ⟨hpart, hrest⟩ := List.forall_mem_append.mp h
    obtain ⟨lss, hread, hfactors⟩ := partFormulas_read rest hrest
      (n + (group operator parts).template.literals.length)
    simp only [partTemplates, asPart, partFormulas]
    cases hf : (group operator parts).formula sink.mark n with
    | none =>
      have hnil : (group operator parts).template = [] :=
        (template_eq_nil _).mpr ((formula_eq_none sink.mark _ n).mp hf)
      rw [hnil] at hread hfactors ⊢
      exact ⟨lss, hread, hfactors⟩
    | some f =>
      obtain ⟨ls, hls, hreads⟩ := formula_reads (group operator parts) hpart n f hf
      have hfilled : (group operator parts).template.isEmpty = false := by
        rw [List.isEmpty_eq_false_iff]
        intro hnil
        have hnone := (formula_eq_none sink.mark _ n).mpr ((template_eq_nil _).mp hnil)
        rw [hf] at hnone
        cases hnone
      refine ⟨(⟨.opening, ['(']⟩ :: (ls ++ [⟨.closing, [')']⟩])) :: lss, ?_, ?_⟩
      · have hliterals : Template.literals
            (.text "(" :: (group operator parts).template ++ [.text ")"]) =
              (group operator parts).template.literals := by
          simp [Template.literals, Template.literals_append]
        have htext : (Template.write sink.mark n
            (.text "(" :: (group operator parts).template ++ [.text ")"])).toList =
              '(' :: ((group operator parts).template.write sink.mark n).toList ++ [')'] := by
          simp [Template.write, Template.write_append, String.toList_append]
        rw [if_neg (by simp [hfilled]), List.singleton_append, Template.writes, hliterals]
        refine .cons ?_ hread
        rw [htext]
        exact lexemes_parentheses hls
      · exact .cons (.parentheses rfl hreads rfl) hfactors
end

/-- The text of a tree of plain conditions is empty exactly if the tree has no condition. If it
has one, the text is read as one formula and no other: its conditions are those of the tree from
left to right, and it has the truth of the tree without the groups that hold no condition. -/
theorem write_reads (n : Nat) (p : Predicate) (h : ∀ c ∈ p.conditions, c.Plain) :
    (p.template.write sink.mark n = "" ↔ p.conditions = []) ∧
      (p.conditions ≠ [] → ∃ ls q f,
        lexemes (p.template.write sink.mark n).toList = some ls ∧
        p.pruned = some q ∧ q.conditions = p.conditions ∧
        (∀ g, Reads .disjunction ls g ↔ g = f) ∧
        f.conditions.map some =
          (Condition.texts sink.mark n p.conditions).map (fun text => lexemes text.toList) ∧
        ∀ holds, f.truth holds 0 = q.truthAt holds 0) := by
  cases hf : p.formula sink.mark n with
  | none =>
    have hnil := (formula_eq_none sink.mark p n).mp hf
    refine ⟨⟨fun _ => hnil, fun _ => ?_⟩, fun hne => absurd hnil hne⟩
    rw [(template_eq_nil p).mpr hnil]
    rfl
  | some f =>
    obtain ⟨ls, hls, hreads⟩ := formula_reads sink p h n f hf
    have hne : p.conditions ≠ [] := by
      intro hnil
      rw [(formula_eq_none sink.mark p n).mpr hnil] at hf
      cases hf
    refine ⟨⟨fun htext => ?_, fun hnil => absurd hnil hne⟩, fun _ => ?_⟩
    · rw [htext] at hls
      have hnil : ls = [] := Option.some.inj (hls.symm.trans lexemes_nil)
      exact absurd hnil hreads.ne_nil
    · cases hq : p.pruned with
      | none => exact absurd ((pruned_eq_none p).mp hq) hne
      | some q =>
        have hkept := pruned_conditions p
        have hconditions := formula_conditions sink p h n
        rw [hq] at hkept
        rw [hf] at hconditions
        refine ⟨ls, q, f, hls, rfl, by simpa [partConditions] using hkept, fun g => ?_, ?_,
          fun holds => ?_⟩
        · refine ⟨fun hg => hreads.unique hg, ?_⟩
          rintro rfl
          exact hreads
        · simpa using hconditions
        · have htruth := formula_truth sink holds p h n 0
          rw [hf, hq] at htruth
          exact Option.some.inj htruth

theorem write_reads_nested : ∃ p : Predicate,
    p.text = "a = 'it''s AND (' AND (b > 3 OR c IS NULL)" ∧ (∀ c ∈ p.conditions, c.Plain) ∧
      ∃ ls q f, lexemes p.text.toList = some ls ∧ p.pruned = some q ∧
        (∀ g, Reads .disjunction ls g ↔ g = f) ∧
        ∀ holds, f.truth holds 0 = q.truthAt holds 0 := by
  let p : Predicate := .group .and [.condition (.quoted "a" "=" (.text "it's AND (")),
    .group .or [], .group .or [.condition (.verbatim "b" ">" "3"),
      .condition (.verbatim "c" "IS" "NULL")]]
  have hplain : ∀ c ∈ p.conditions, c.Plain := by decide
  obtain ⟨ls, q, f, hls, hq, -, hreads, -, htruth⟩ :=
    (write_reads .inline 1 p hplain).2 (by decide)
  exact ⟨p, by decide, hplain, ls, q, f, hls, hq, hreads, htruth⟩

end Predicate
end RecordGateway
