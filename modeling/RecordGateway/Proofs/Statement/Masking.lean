import RecordGateway.Proofs.Statement.Rendering
/-!
# Statements with their values masked

Statements that differ in their values only are one statement when every quoted value is masked.
-/
namespace RecordGateway

def Piece.masked : Piece → Piece
  | .text s => .text s
  | .term s => .term s
  | .literal _ => .literal .null

namespace Template

def masked (t : Template) : Template := t.map Piece.masked

@[simp] theorem masked_nil : masked [] = [] := rfl

@[simp] theorem masked_cons (p : Piece) (t : Template) :
    masked (p :: t) = p.masked :: masked t := rfl

@[simp] theorem masked_append (t u : Template) : masked (t ++ u) = t.masked ++ u.masked :=
  List.map_append

@[simp] theorem masked_isEmpty (t : Template) : t.masked.isEmpty = t.isEmpty := List.isEmpty_map

private theorem masked_intercalate (separator : String) (ts : List Template) :
    masked (List.intercalate [.text separator] ts) =
      List.intercalate [.text separator] (ts.map masked) := by
  induction ts with
  | nil => rfl
  | cons t ts ih =>
    cases ts with
    | nil => simp [List.intercalate]
    | cons u ts => simpa [List.intercalate, Piece.masked] using ih

theorem write_masked (mark : Nat → String) (n : Nat) (t : Template) :
    t.masked.write (fun k _ => mark k) n = t.write (fun k _ => mark k) n := by
  induction t generalizing n with
  | nil => rfl
  | cons piece t ih => cases piece <;> simp [Piece.masked, write, ih]

private theorem literals_masked (t : Template) :
    t.masked.literals = t.literals.map fun _ => .null := by
  induction t with
  | nil => rfl
  | cons piece t ih => cases piece <;> simp [Piece.masked, literals, ih]

end Template

/-- A compiled statement without the values of its parameters. -/
def Compiled.masked (compiled : Compiled) : Compiled :=
  ⟨compiled.sql, compiled.parameters.map fun p => (p.1, .null)⟩

private theorem Template.compiled_masked (t : Template) :
    Compiled.masked ⟨t.numbered, t.parameters⟩ = ⟨t.masked.numbered, t.masked.parameters⟩ := by
  have hsql : t.masked.numbered = t.numbered := write_masked placeholder 1 t
  have hparameters : t.masked.parameters = t.parameters.map fun p => (p.1, .null) := by
    rw [parameters, parameters, literals_masked, List.zipIdx_map, List.map_map, List.map_map]
    rfl
  rw [Compiled.masked, hsql, hparameters]

namespace Operand

def masked (o : Operand) : Operand := if o.quoted then ⟨.null, true⟩ else o

private theorem template_masked (o : Operand) : o.masked.template.masked = o.template.masked := by
  cases h : o.quoted <;> simp [masked, h, template, Piece.masked]

end Operand

def Condition.masked (c : Condition) : Condition := { c with operand := c.operand.masked }

private theorem Condition.template_masked (c : Condition) :
    c.masked.template.masked = c.template.masked := by
  simp [masked, template, Operand.template_masked]

namespace Predicate

mutual
def masked : Predicate → Predicate
  | condition c => condition c.masked
  | group operator parts => group operator (partsMasked parts)

def partsMasked : List Predicate → List Predicate
  | [] => []
  | part :: rest => part.masked :: partsMasked rest
end

private theorem asPart_masked (part : Predicate) {body body' : Template}
    (h : body.masked = body'.masked) :
    (part.masked.asPart body).map Template.masked = (part.asPart body').map Template.masked := by
  have hempty : body.isEmpty = body'.isEmpty := by
    rw [← body.masked_isEmpty, h, body'.masked_isEmpty]
  cases part with
  | condition c => simp [masked, asPart, h]
  | group operator parts =>
    simp only [masked, asPart, hempty]
    split
    · rfl
    · simp [h]

mutual
private theorem template_masked : ∀ p : Predicate, p.masked.template.masked = p.template.masked
  | condition c => by simp only [masked, template, c.template_masked]
  | group operator parts => by
    simp only [masked, template, Template.masked_intercalate, partTemplates_masked parts]

theorem partTemplates_masked : ∀ parts : List Predicate,
    (partTemplates (partsMasked parts)).map Template.masked =
      (partTemplates parts).map Template.masked
  | [] => rfl
  | part :: rest => by
    simp only [partsMasked, partTemplates, List.map_append, partTemplates_masked rest,
      asPart_masked part part.template_masked]
end

end Predicate

namespace Statement

def maskedConstraint : JoinConstraint → JoinConstraint
  | .onPredicate p => .onPredicate p.masked
  | .usingColumns columns => .usingColumns columns
  | .unconstrained => .unconstrained

def maskedJoin (j : Join) : Join := { j with constraint := maskedConstraint j.constraint }

/-- The table slot holds a value: the pattern of a table listing, and the table that a catalog
query asks about. -/
def tableIsValue (d : Dialect) : Option Kind → Bool
  | some .showTables => true
  | some .showColumns => d = .sqlite
  | some .showIndexes => d = .sqlite
  | _ => false

/-- The statement with every value masked that a dialect writes as a literal. -/
def masked (d : Dialect) (s : Statement) : Statement :=
  { s with
    columns := s.columns.map fun c => (c.1, c.2.masked)
    sets := s.sets.mapValues Operand.masked
    joins := s.joins.map maskedJoin
    filter := s.filter.map Predicate.masked
    having := s.having.map Predicate.masked
    table := if tableIsValue d s.kind then s.table.map fun _ => "" else s.table }

@[simp] theorem fieldTemplate_masked (d : Dialect) (s : Statement) :
    (s.masked d).fieldTemplate = s.fieldTemplate := rfl

@[simp] theorem groupTemplate_masked (d : Dialect) (s : Statement) :
    (s.masked d).groupTemplate = s.groupTemplate := rfl

@[simp] theorem orderTemplate_masked (d : Dialect) (s : Statement) :
    (s.masked d).orderTemplate = s.orderTemplate := rfl

@[simp] theorem limitTemplate_masked (d : Dialect) (s : Statement) :
    (s.masked d).limitTemplate = s.limitTemplate := rfl

private theorem constraintTemplate_masked (c : JoinConstraint) :
    (constraintTemplate (maskedConstraint c)).masked = (constraintTemplate c).masked := by
  cases c with
  | onPredicate p => simp [constraintTemplate, maskedConstraint, p.template_masked]
  | usingColumns columns => rfl
  | unconstrained => rfl

private theorem joinTemplate_masked (d : Dialect) (s : Statement) :
    (s.masked d).joinTemplate.masked = s.joinTemplate.masked := by
  simp only [joinTemplate, masked]
  induction s.joins with
  | nil => rfl
  | cons j js ih =>
    simp [List.flatMap_cons, ih, Piece.masked, maskedJoin, constraintTemplate_masked]

private theorem clause_masked (keyword : String) (root : Option Predicate) :
    (clause keyword (root.map Predicate.masked)).masked = (clause keyword root).masked := by
  cases root with
  | none => rfl
  | some p =>
    have hempty : p.masked.template.isEmpty = p.template.isEmpty := by
      rw [← Template.masked_isEmpty, p.template_masked, Template.masked_isEmpty]
    simp only [Option.map_some, clause, hempty]
    split
    · rfl
    · simp [p.template_masked]

private theorem filterTemplate_masked (d : Dialect) (s : Statement) :
    (s.masked d).filterTemplate.masked = s.filterTemplate.masked := clause_masked "WHERE" s.filter

theorem withTable_masked {d : Dialect} {s : Statement} {f g : String → Except Failure Template}
    (h : ∀ table, (f (if tableIsValue d s.kind then "" else table)).map Template.masked =
      (g table).map Template.masked) :
    ((s.masked d).requireTable >>= f).map Template.masked =
      (s.requireTable >>= g).map Template.masked := by
  have htable : (s.masked d).table =
      if tableIsValue d s.kind then s.table.map fun _ => "" else s.table := rfl
  unfold requireTable
  rw [htable]
  cases s.table with
  | none => simp only [Option.map_none, ite_self]; rfl
  | some name =>
    revert h
    cases tableIsValue d s.kind <;> exact fun h => h name

private theorem selectTemplate_masked {d : Dialect} {s : Statement}
    (h : tableIsValue d s.kind = false) :
    (s.masked d).selectTemplate.map Template.masked = s.selectTemplate.map Template.masked := by
  have hhaving : (clause "HAVING" (s.masked d).having).masked = (clause "HAVING" s.having).masked :=
    clause_masked "HAVING" s.having
  refine withTable_masked fun table => ?_
  simp [h, pure, Except.pure, Except.map, joinTemplate_masked, filterTemplate_masked, hhaving]

private theorem insertTemplate_masked {d : Dialect} {s : Statement}
    (h : tableIsValue d s.kind = false) :
    (s.masked d).insertTemplate.map Template.masked = s.insertTemplate.map Template.masked := by
  refine withTable_masked fun table => ?_
  have hcolumns : (s.masked d).columns = s.columns.map fun c => (c.1, c.2.masked) := rfl
  simp only [h, hcolumns, List.isEmpty_map, Bool.false_eq_true, if_false]
  split
  · rfl
  · simp [pure, Except.pure, Except.map, Template.masked_intercalate, Function.comp_def,
      Operand.template_masked]

private theorem updateTemplate_masked {d : Dialect} {s : Statement}
    (h : tableIsValue d s.kind = false) :
    (s.masked d).updateTemplate.map Template.masked = s.updateTemplate.map Template.masked := by
  refine withTable_masked fun table => ?_
  have hsets : (s.masked d).sets.entries = s.sets.entries.map fun e => (e.1, e.2.masked) := rfl
  have hempty : (s.masked d).sets.isEmpty = s.sets.isEmpty := by
    rw [Keyed.isEmpty, hsets, List.isEmpty_map, Keyed.isEmpty]
  simp only [h, hempty, hsets, Bool.false_eq_true, if_false]
  split
  · rfl
  · simp [pure, Except.pure, Except.map, Template.masked_intercalate, Function.comp_def,
      Operand.template_masked, filterTemplate_masked]

private theorem deleteTemplate_masked {d : Dialect} {s : Statement}
    (h : tableIsValue d s.kind = false) :
    (s.masked d).deleteTemplate.map Template.masked = s.deleteTemplate.map Template.masked := by
  refine withTable_masked fun table => ?_
  simp [h, pure, Except.pure, Except.map, filterTemplate_masked]

private theorem tablesTemplate_masked {d : Dialect} {s : Statement}
    (h : s.kind = some .showTables) :
    ((s.masked d).tablesTemplate d).masked = (s.tablesTemplate d).masked := by
  cases d <;> cases ht : s.table <;> simp [tablesTemplate, masked, tableIsValue, h, ht,
    Piece.masked]

private theorem columnsTemplate_masked {d : Dialect} {s : Statement}
    (h : s.kind = some .showColumns) :
    ((s.masked d).columnsTemplate d).map Template.masked =
      (s.columnsTemplate d).map Template.masked := by
  refine withTable_masked fun table => ?_
  cases d <;>
    simp [h, tableIsValue, pure, Except.pure, Except.map, filterTemplate_masked, Piece.masked]

private theorem indexesTemplate_masked {d : Dialect} {s : Statement}
    (h : s.kind = some .showIndexes) :
    ((s.masked d).indexesTemplate d).map Template.masked =
      (s.indexesTemplate d).map Template.masked := by
  refine withTable_masked fun table => ?_
  cases d <;>
    simp [h, tableIsValue, pure, Except.pure, Except.map, filterTemplate_masked, Piece.masked]

private theorem template_masked (d : Dialect) (s : Statement) :
    ((s.masked d).template d).map Template.masked = (s.template d).map Template.masked := by
  have hkind : (s.masked d).kind = s.kind := rfl
  unfold template
  rw [hkind]
  cases hk : s.kind with
  | none => rfl
  | some kind =>
    cases kind with
    | select => exact selectTemplate_masked (by rw [hk]; rfl)
    | insert => exact insertTemplate_masked (by rw [hk]; rfl)
    | update => exact updateTemplate_masked (by rw [hk]; rfl)
    | delete => exact deleteTemplate_masked (by rw [hk]; rfl)
    | showTables => exact congrArg Except.ok (tablesTemplate_masked hk)
    | showColumns => exact columnsTemplate_masked hk
    | showIndexes => exact indexesTemplate_masked hk

private theorem compile_masked (d : Dialect) (s : Statement) :
    (s.compile d).map Compiled.masked =
      ((s.template d).map Template.masked).map fun t => ⟨t.numbered, t.parameters⟩ := by
  unfold compile
  cases s.template d with
  | error e => rfl
  | ok t => exact congrArg Except.ok t.compiled_masked

/-- Statements that differ in values only compile to one text with the same parameter names, or
fail alike. -/
theorem compile_of_masked_eq {d : Dialect} {s s' : Statement} (h : s.masked d = s'.masked d) :
    (s.compile d).map Compiled.masked = (s'.compile d).map Compiled.masked := by
  rw [compile_masked, compile_masked, ← template_masked d s, h, template_masked d s']

end Statement
end RecordGateway
