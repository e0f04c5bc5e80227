import Mathlib.Data.List.Forall2
import RecordGateway.Dialect
import RecordGateway.Proofs.Lists
import RecordGateway.Proofs.Template
/-!
# Operands of a statement

The operands that a kind of statement writes, in the order of the text, and the relation between a
template and the operands that it spells out.
-/
namespace RecordGateway

namespace Operand

def literal? (o : Operand) : Option Value := if o.quoted then some o.value else none

private theorem template_ne_nil (o : Operand) : o.template ≠ [] := by
  cases h : o.quoted <;> simp [template, h]

theorem literals_template (o : Operand) : o.template.literals = o.literal?.toList := by
  cases h : o.quoted <;> simp [template, literal?, h, Template.literals]

end Operand

namespace Predicate

def operands (p : Predicate) : List Operand := p.conditions.map Condition.operand

end Predicate

namespace Statement

def rootOperands : Option Predicate → List Operand
  | none => []
  | some p => p.operands

def constraintOperands : JoinConstraint → List Operand
  | .onPredicate p => p.operands
  | .usingColumns _ => []
  | .unconstrained => []

/-- The table slot where it is written as a literal. -/
def tableOperand (s : Statement) : List Operand := s.table.toList.map fun name => ⟨.text name, true⟩

/-- A catalog query writes the table as a literal, a SHOW statement writes it as it stands. -/
def catalogOperands (d : Dialect) (s : Statement) : List Operand :=
  match d with
  | .mysql => rootOperands s.filter
  | .sqlite => s.tableOperand ++ rootOperands s.filter

/-- The operands that the statement writes in a dialect, in the order of the text. -/
def operands (d : Dialect) (s : Statement) : List Operand :=
  match s.kind with
  | some .select =>
    (s.joins.flatMap fun j => constraintOperands j.constraint) ++ rootOperands s.filter ++
      rootOperands s.having
  | some .insert => s.columns.map Prod.snd
  | some .update => s.sets.entries.map Prod.snd ++ rootOperands s.filter
  | some .delete => rootOperands s.filter
  | some .showTables => s.tableOperand
  | some .showColumns => s.catalogOperands d
  | some .showIndexes => s.catalogOperands d
  | none => []

end Statement

/-- A template writes operands in turn, with texts and terms between them. -/
inductive Spells : Template → List Operand → Prop where
  | done : Spells [] []
  | text {t : Template} {os : List Operand} (s : String) : Spells t os → Spells (.text s :: t) os
  | term {t : Template} {os : List Operand} (s : String) : Spells t os → Spells (.term s :: t) os
  | operand {t : Template} {os : List Operand} (o : Operand) :
      Spells t os → Spells (o.template ++ t) (o :: os)

namespace Spells

private theorem append {t u : Template} {os ps : List Operand} (h : Spells t os)
    (h' : Spells u ps) :
    Spells (t ++ u) (os ++ ps) := by
  induction h with
  | done => exact h'
  | text s _ ih => exact .text s ih
  | term s _ ih => exact .term s ih
  | operand o _ ih =>
    rw [List.append_assoc, List.cons_append]
    exact .operand o ih

private theorem single (o : Operand) : Spells o.template [o] := by
  simpa using Spells.operand o .done

private theorem nil_operands {os : List Operand} (h : Spells [] os) : os = [] := by
  generalize ht : ([] : Template) = t at h
  cases h with
  | done => rfl
  | text s h => simp at ht
  | term s h => simp at ht
  | operand o h => exact absurd (List.append_eq_nil_iff.mp ht.symm).1 o.template_ne_nil

theorem intercalate (separator : String) {ts : List Template} {oss : List (List Operand)}
    (h : List.Forall₂ Spells ts oss) :
    Spells (List.intercalate [.text separator] ts) oss.flatten := by
  induction h with
  | nil => exact .done
  | @cons t os ts oss ht hts ih =>
    cases hts with
    | nil => simpa [List.intercalate] using ht
    | @cons u ps us pss hu hus =>
      have hrest := Spells.text separator ih
      simpa [List.intercalate] using ht.append hrest

private theorem intercalate_map {α : Type} (separator : String) (items : List α)
    {f : α → Template} {g : α → List Operand} (h : ∀ x, Spells (f x) (g x)) :
    Spells (List.intercalate [.text separator] (items.map f)) (items.flatMap g) := by
  rw [List.flatMap_def]
  apply intercalate
  rw [List.forall₂_map_left_iff, List.forall₂_map_right_iff]
  exact List.forall₂_same.mpr fun x _ => h x

private theorem intercalate_single {α : Type} (separator : String) (items : List α)
    {f : α → Template}
    {g : α → Operand} (h : ∀ x, Spells (f x) [g x]) :
    Spells (List.intercalate [.text separator] (items.map f)) (items.map g) := by
  rw [List.map_eq_flatMap (f := g)]
  exact intercalate_map separator items h

private theorem intercalate_plain {α : Type} (separator : String) (items : List α)
    {f : α → Template}
    (h : ∀ x, Spells (f x) []) : Spells (List.intercalate [.text separator] (items.map f)) [] := by
  have hall := intercalate_map separator items (g := fun _ => []) h
  rwa [List.flatMap_eq_nil_iff.mpr fun _ _ => rfl] at hall

private theorem flatMap {α : Type} (items : List α) {f : α → Template} {g : α → List Operand}
    (h : ∀ x, Spells (f x) (g x)) : Spells (items.flatMap f) (items.flatMap g) := by
  induction items with
  | nil => exact .done
  | cons x items ih => exact (h x).append ih

theorem literals {t : Template} {os : List Operand} (h : Spells t os) :
    t.literals = os.filterMap Operand.literal? := by
  induction h with
  | done => rfl
  | text s _ ih => exact ih
  | term s _ ih => exact ih
  | operand o _ ih =>
    rw [Template.literals_append, ih, Operand.literals_template, List.filterMap_cons]
    cases o.literal? <;> rfl

theorem inline_eq_weave {t : Template} {os : List Operand} (h : Spells t os) :
    ∃ texts : List String, texts.length = os.length + 1 ∧
      ∀ n, t.write (fun _ v => v.quotedLiteral) n = weave texts (os.map Operand.text) := by
  induction h with
  | done => exact ⟨[""], rfl, fun _ => rfl⟩
  | text s _ ih =>
    obtain ⟨texts, hlen, hw⟩ := ih
    have hne : texts ≠ [] := by rintro rfl; simp at hlen
    refine ⟨texts.modifyHead (s ++ ·), by simpa using hlen, fun n => ?_⟩
    rw [Template.weave_modifyHead _ _ _ hne, ← hw n]
    rfl
  | term s _ ih =>
    obtain ⟨texts, hlen, hw⟩ := ih
    have hne : texts ≠ [] := by rintro rfl; simp at hlen
    refine ⟨texts.modifyHead (s ++ ·), by simpa using hlen, fun n => ?_⟩
    rw [Template.weave_modifyHead _ _ _ hne, ← hw n]
    rfl
  | operand o _ ih =>
    obtain ⟨texts, hlen, hw⟩ := ih
    refine ⟨"" :: texts, by simpa using hlen, fun n => ?_⟩
    have ho : o.template.write (fun _ v => v.quotedLiteral) n = o.text := by
      cases hq : o.quoted <;>
        simp [Operand.text, Template.inline, Operand.template, hq, Template.write]
    rw [Template.write_append, hw, ho]
    simp [weave]

end Spells

namespace Predicate

mutual
theorem template_spells : (p : Predicate) → Spells p.template p.operands
  | condition c => by
    simp only [template, Condition.template, operands, conditions, List.map_cons, List.map_nil]
    exact .term _ (.text _ (.single c.operand))
  | group operator parts => by
    obtain ⟨oss, hs, ho⟩ := partTemplates_spell parts
    simp only [template, operands, conditions]
    rw [← ho]
    exact .intercalate _ hs

theorem partTemplates_spell : (parts : List Predicate) → ∃ oss : List (List Operand),
    List.Forall₂ Spells (partTemplates parts) oss ∧
      oss.flatten = (partConditions parts).map Condition.operand
  | [] => ⟨[], .nil, rfl⟩
  | part :: rest => by
    obtain ⟨oss, hs, ho⟩ := partTemplates_spell rest
    have hp := template_spells part
    simp only [partTemplates, partConditions, List.map_append, ← ho]
    cases part with
    | condition c => exact ⟨_ :: oss, .cons hp hs, rfl⟩
    | group operator parts =>
      simp only [asPart]
      split
      · next he =>
        rw [List.isEmpty_iff.mp he] at hp
        have hn : (group operator parts).conditions.map Condition.operand = [] := hp.nil_operands
        exact ⟨oss, hs, by rw [hn, List.nil_append]⟩
      · have hb : Spells (.text "(" :: (group operator parts).template ++ [.text ")"])
            (group operator parts).operands := by
          simpa using Spells.text "(" (hp.append (.text ")" .done))
        exact ⟨_ :: oss, .cons hb hs, rfl⟩
end

end Predicate

namespace Statement

private theorem fieldTemplate_spells (s : Statement) : Spells s.fieldTemplate [] := by
  unfold fieldTemplate
  split
  · exact .text _ .done
  · apply Spells.intercalate_plain
    intro (label, expression)
    dsimp only
    split
    · exact .term _ .done
    · exact .term _ (.text _ .done)

private theorem constraintTemplate_spells (c : JoinConstraint) :
    Spells (constraintTemplate c) (constraintOperands c) := by
  cases c with
  | onPredicate p => exact .text _ p.template_spells
  | usingColumns columns => exact .text _ .done
  | unconstrained => exact .done

private theorem joinTemplate_spells (s : Statement) :
    Spells s.joinTemplate (s.joins.flatMap fun j => constraintOperands j.constraint) :=
  .flatMap _ fun j => .text _ (constraintTemplate_spells j.constraint)

private theorem clause_spells (keyword : String) (root : Option Predicate) :
    Spells (clause keyword root) (rootOperands root) := by
  cases root with
  | none => exact .done
  | some p =>
    have hp := p.template_spells
    simp only [clause, rootOperands]
    split
    · next he =>
      rw [List.isEmpty_iff.mp he] at hp
      rw [hp.nil_operands]
      exact .done
    · exact .text _ hp

private theorem filterTemplate_spells (s : Statement) :
    Spells s.filterTemplate (rootOperands s.filter) := clause_spells "WHERE" s.filter

private theorem groupTemplate_spells (s : Statement) : Spells s.groupTemplate [] := by
  unfold groupTemplate
  split
  · exact .done
  · exact .text _ .done

private theorem orderTemplate_spells (s : Statement) : Spells s.orderTemplate [] := by
  unfold orderTemplate
  split
  · exact .done
  · exact .text _ (.intercalate_plain _ _ fun o => .term _ (.text _ .done))

private theorem limitTemplate_spells (s : Statement) : Spells s.limitTemplate [] := by
  unfold limitTemplate
  split
  · exact .done
  · exact .text _ .done

private theorem requireTable_eq_ok {s : Statement} {table : String}
    (h : s.requireTable = .ok table) :
    s.table = some table := by
  unfold requireTable at h
  cases ht : s.table with
  | none => simp [ht] at h
  | some name => simpa [ht] using h

theorem withTable {α : Type} {s : Statement} {rest : String → Except Failure α} {x : α}
    (h : s.requireTable >>= rest = .ok x) : ∃ table, s.table = some table ∧ rest table = .ok x := by
  obtain ⟨table, ht, h⟩ := except_bind_eq_ok.mp h
  exact ⟨table, requireTable_eq_ok ht, h⟩

private theorem selectTemplate_spells {s : Statement} {t : Template}
    (h : s.selectTemplate = .ok t) :
    Spells t ((s.joins.flatMap fun j => constraintOperands j.constraint) ++
      rootOperands s.filter ++ rootOperands s.having) := by
  obtain ⟨table, -, h⟩ := withTable h
  cases h
  have hjoins := Spells.text (" FROM " ++ table) s.joinTemplate_spells
  have hhead := (Spells.text "SELECT " s.fieldTemplate_spells).append hjoins
  have htail := s.orderTemplate_spells.append s.limitTemplate_spells
  have hwhere := s.filterTemplate_spells.append s.groupTemplate_spells
  have hhaving := (clause_spells "HAVING" s.having).append htail
  simpa using hhead.append (hwhere.append hhaving)

private theorem insertTemplate_spells {s : Statement} {t : Template}
    (h : s.insertTemplate = .ok t) :
    Spells t (s.columns.map Prod.snd) := by
  obtain ⟨table, -, h⟩ := withTable h
  split at h
  · cases h
  · cases h
    have hvalues := Spells.intercalate_single "," s.columns fun c => .single c.2
    simpa using Spells.text _ (hvalues.append (.text ")" .done))

private theorem updateTemplate_spells {s : Statement} {t : Template}
    (h : s.updateTemplate = .ok t) :
    Spells t (s.sets.entries.map Prod.snd ++ rootOperands s.filter) := by
  obtain ⟨table, -, h⟩ := withTable h
  split at h
  · cases h
  · cases h
    have hsets := Spells.intercalate_single ", " s.sets.entries fun e =>
      .text (quoteIdentifier e.1 ++ " = ") (.single e.2)
    exact Spells.text _ (hsets.append s.filterTemplate_spells)

private theorem deleteTemplate_spells {s : Statement} {t : Template}
    (h : s.deleteTemplate = .ok t) :
    Spells t (rootOperands s.filter) := by
  obtain ⟨table, -, h⟩ := withTable h
  cases h
  exact .text _ s.filterTemplate_spells

private theorem literal_spells (name : String) {t : Template} {os : List Operand}
    (h : Spells t os) : Spells (.literal (.text name) :: t) (⟨.text name, true⟩ :: os) :=
  .operand ⟨.text name, true⟩ h

private theorem tablesTemplate_spells (d : Dialect) (s : Statement) :
    Spells (s.tablesTemplate d) s.tableOperand := by
  unfold tablesTemplate tableOperand
  cases d <;> cases s.table
  · exact .text _ .done
  · exact .text _ (literal_spells _ .done)
  · exact .text _ (.text _ .done)
  · exact .text _ (.text _ (literal_spells _ (.text _ .done)))

private theorem columnsTemplate_spells {d : Dialect} {s : Statement} {t : Template}
    (h : s.columnsTemplate d = .ok t) : Spells t (s.catalogOperands d) := by
  obtain ⟨table, ht, h⟩ := withTable h
  have hfilter := s.filterTemplate_spells
  cases d with
  | mysql =>
    cases h
    exact .text _ hfilter
  | sqlite =>
    cases h
    simp only [catalogOperands, tableOperand, ht]
    exact .text _ (literal_spells _ (.text _ hfilter))

private theorem indexesTemplate_spells {d : Dialect} {s : Statement} {t : Template}
    (h : s.indexesTemplate d = .ok t) : Spells t (s.catalogOperands d) := by
  obtain ⟨table, ht, h⟩ := withTable h
  have hfilter := s.filterTemplate_spells
  cases d with
  | mysql =>
    cases h
    exact .text _ hfilter
  | sqlite =>
    cases h
    have horder := hfilter.append (.text " ORDER BY Key_name, Seq_in_index" .done)
    simp only [catalogOperands, tableOperand, ht]
    simpa using Spells.text _ (literal_spells table (.text _ horder))

/-- The template of a statement spells the operands of the statement. -/
theorem template_spells {d : Dialect} {s : Statement} {t : Template} (h : s.template d = .ok t) :
    Spells t (s.operands d) := by
  unfold template at h
  unfold operands
  cases hk : s.kind with
  | none => simp [hk] at h
  | some kind =>
    simp only [hk] at h
    cases kind with
    | select => exact selectTemplate_spells h
    | insert => exact insertTemplate_spells h
    | update => exact updateTemplate_spells h
    | delete => exact deleteTemplate_spells h
    | showTables =>
      cases h
      exact s.tablesTemplate_spells d
    | showColumns => exact columnsTemplate_spells h
    | showIndexes => exact indexesTemplate_spells h

theorem compile_eq_ok {d : Dialect} {s : Statement} {compiled : Compiled}
    (h : s.compile d = .ok compiled) :
    ∃ t, s.template d = .ok t ∧ compiled = ⟨t.numbered, t.parameters⟩ := by
  unfold compile at h
  cases ht : s.template d with
  | error e => simp [ht, Except.map] at h
  | ok t => exact ⟨t, rfl, by simpa [ht, Except.map, eq_comm] using h⟩

theorem compile_unquoted {d : Dialect} {s : Statement} {compiled : Compiled}
    (h : s.compile d = .ok compiled) (hq : ∀ o ∈ s.operands d, o.quoted = false) :
    compiled.parameters = [] ∧ ∃ texts : List String,
      texts.length = (s.operands d).length + 1 ∧
        compiled.sql = weave texts ((s.operands d).map Operand.text) := by
  obtain ⟨t, ht, rfl⟩ := compile_eq_ok h
  have hs := template_spells ht
  have hnone : t.literals = [] := by
    rw [hs.literals, List.filterMap_eq_nil_iff]
    intro o ho
    simp [Operand.literal?, hq o ho]
  obtain ⟨texts, hlen, hw⟩ := hs.inline_eq_weave
  refine ⟨by simp [Template.parameters, hnone], texts, hlen, ?_⟩
  rw [← hw 1]
  exact t.write_plain _ _ 1 1 hnone

end Statement
end RecordGateway
