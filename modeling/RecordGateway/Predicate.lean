import RecordGateway.Template
/-!
# Predicates

Trees of conditions joined by AND and OR. A group writes its parts in order and
puts a nested group into parentheses; a group without any condition in it
writes nothing, at any depth.
-/
namespace RecordGateway

/-- A value beside a relation or in an assignment: user data, or SQL text to be taken as it
stands. -/
structure Operand where
  value : Value
  quoted : Bool
deriving DecidableEq

namespace Operand

def template (operand : Operand) : Template :=
  if operand.quoted then [.literal operand.value] else [.term operand.value.display]

def text (operand : Operand) : String := operand.template.inline

def agrees (a b : Operand) : Bool := a.quoted == b.quoted && a.value.agrees b.value

end Operand

structure Condition where
  field : String
  relation : String
  operand : Operand
deriving DecidableEq

namespace Condition

def template (c : Condition) : Template :=
  .term c.field :: .text (" " ++ c.relation ++ " ") :: c.operand.template

def agrees (a b : Condition) : Bool :=
  a.field == b.field && a.relation == b.relation && a.operand.agrees b.operand

def quoted (field relation : String) (value : Value) : Condition := ⟨field, relation, ⟨value, true⟩⟩

def verbatim (field relation text : String) : Condition := ⟨field, relation, ⟨.text text, false⟩⟩

end Condition

inductive Connective where
  | and
  | or
deriving DecidableEq

def Connective.text : Connective → String
  | and => "AND"
  | or => "OR"

inductive Predicate where
  | condition (c : Condition)
  | group (operator : Connective) (parts : List Predicate)

namespace Predicate

/-- A part as its group writes it: conditions as they are, groups in parentheses, and groups
that write nothing left out. -/
def asPart (part : Predicate) (body : Template) : List Template :=
  match part with
  | condition _ => [body]
  | group _ _ => if body.isEmpty then [] else [.text "(" :: body ++ [.text ")"]]

mutual
def template : Predicate → Template
  | condition c => c.template
  | group operator parts =>
    List.intercalate [.text (" " ++ operator.text ++ " ")] (partTemplates parts)

def partTemplates : List Predicate → List Template
  | [] => []
  | part :: rest => part.asPart part.template ++ partTemplates rest
end

def text (p : Predicate) : String := p.template.inline

mutual
def agrees : Predicate → Predicate → Bool
  | condition c, condition d => c.agrees d
  | group o ps, group o' qs => o == o' && partsAgree ps qs
  | _, _ => false

def partsAgree : List Predicate → List Predicate → Bool
  | [], [] => true
  | p :: ps, q :: qs => p.agrees q && partsAgree ps qs
  | _, _ => false
end

mutual
def conditions : Predicate → List Condition
  | condition c => [c]
  | group _ parts => partConditions parts

def partConditions : List Predicate → List Condition
  | [] => []
  | part :: rest => part.conditions ++ partConditions rest
end

def all (parts : List Predicate) : Predicate := group .and parts

/-- One more part at the end of a group; a single condition takes none. -/
def add? : Predicate → Predicate → Option Predicate
  | condition _, _ => none
  | group operator parts, part => some (group operator (parts ++ [part]))

end Predicate
end RecordGateway
