import RecordGateway.Store.Table
/-!
# Parts of a filter

A filter as a search goes about it: a list of parts that all have to hold, each
of which is a condition or a choice between such lists. Of a condition it counts
which columns it mentions and whether it bounds one column by a value.
-/
namespace RecordGateway

inductive Place where
  | id
  | column (position : Nat)
deriving DecidableEq

def Table.place? (t : Table) (name : String) : Option Place :=
  let name := t.ownName name
  if t.namesId name then some .id else (t.position? name).map .column

def Table.mayBeNull (t : Table) : Place → Bool
  | .id => false
  | .column i => !((t.columns[i]?.map Column.notNull).getD true)

inductive Side where
  | column (p : Place)
  | expression (p : Place)
  /-- A value; `small` when it is written as one of the integers from -1 to 1. -/
  | value (small : Bool)
deriving DecidableEq

namespace Side

def ofConstant : Cell → Side
  | .integer i => value (-1 ≤ i.toInt ∧ i.toInt ≤ 1)
  | _ => value false

def ofTerm (place : String → Option Place) : Term → Side
  | .column name => (place name).elim (value false) column
  | .columnOr name otherwise => (place name).elim (ofConstant otherwise) column
  | .parameter _ => value false
  | .constant cell => ofConstant cell
  | .signed _ term =>
    match ofTerm place term with
    | column p => expression p
    | side => side

def ofText (place : String → Option Place) (s : String) : Side :=
  ((Term.read s).map (ofTerm place)).getD (value false)

def column? : Side → Option Place
  | column p => some p
  | _ => none

def place? : Side → Option Place
  | column p => some p
  | expression p => some p
  | value _ => none

end Side

inductive Bound where
  | equal
  | below
  | above
deriving DecidableEq

namespace Bound

def ofRelation : Relation → Option Bound
  | .equal => some equal
  | .is => some equal
  | .less => some below
  | .lessOrEqual => some below
  | .greater => some above
  | .greaterOrEqual => some above
  | _ => none

def flip : Bound → Bound
  | equal => equal
  | below => above
  | above => below

end Bound

structure Restriction where
  condition : Condition
  places : List Place
  /-- The column that it bounds by a value, how, and whether by a small value. -/
  bound? : Option (Place × Bound × Bool)
  isEquation : Bool
  testsNull : Bool

namespace Restriction

/-- Read a condition, given what names stand for. A test for null bounds nothing, and of a
column that is never null it mentions nothing. -/
def ofCondition (t : Table) (place : String → Option Place) (c : Condition) : Restriction :=
  let relation := Relation.read c.relation
  let right := Term.read c.operand.value.display
  let testsNull := (relation == some .is || relation == some .isNot) &&
    right == some (.constant .null)
  let bound := relation.bind Bound.ofRelation
  let sides := (Side.ofText place c.field, Side.ofText place c.operand.value.display)
  let mentioned := sides.1.place?.toList ++ sides.2.place?.toList
  { condition := c
    places := if testsNull then mentioned.filter t.mayBeNull else mentioned
    bound? :=
      match testsNull, sides with
      | false, (.column p, .value small) => bound.map fun b => (p, b, small)
      | false, (.value small, .column p) => bound.map fun b => (p, b.flip, small)
      | _, _ => none
    isEquation := relation == some .equal
    testsNull := testsNull }

end Restriction

inductive Part where
  | condition (r : Restriction)
  | choice (branches : List (List Part))

namespace Predicate

mutual
/-- The parts that all have to hold. A choice with one branch is no choice. -/
def parts (restriction : Condition → Restriction) : Predicate → List Part
  | condition c => [.condition (restriction c)]
  | group .and ps => allParts restriction ps
  | group .or ps =>
    match allBranches restriction ps with
    | [branch] => branch
    | [] => []
    | branches => [.choice branches]

def branches (restriction : Condition → Restriction) : Predicate → List (List Part)
  | condition c => [[.condition (restriction c)]]
  | group .or ps => allBranches restriction ps
  | group .and ps =>
    match allParts restriction ps with
    | [.choice branches] => branches
    | [] => []
    | parts => [parts]

def allParts (restriction : Condition → Restriction) : List Predicate → List Part
  | [] => []
  | p :: ps => p.parts restriction ++ allParts restriction ps

def allBranches (restriction : Condition → Restriction) : List Predicate → List (List Part)
  | [] => []
  | p :: ps => p.branches restriction ++ allBranches restriction ps
end

end Predicate

namespace Part

mutual
def holds (test : Restriction → Bool) : Part → Bool
  | condition r => test r
  | choice branches => anyHold test branches

def allHold (test : Restriction → Bool) : List Part → Bool
  | [] => true
  | part :: rest => part.holds test && allHold test rest

def anyHold (test : Restriction → Bool) : List (List Part) → Bool
  | [] => false
  | branch :: rest => allHold test branch || anyHold test rest
end

mutual
def places : Part → List Place
  | condition r => r.places
  | choice branches => branchPlaces branches

def allPlaces : List Part → List Place
  | [] => []
  | part :: rest => part.places ++ allPlaces rest

def branchPlaces : List (List Part) → List Place
  | [] => []
  | branch :: rest => allPlaces branch ++ branchPlaces rest
end

mutual
def choiceCount : List Part → Nat
  | [] => 0
  | .condition _ :: rest => choiceCount rest
  | .choice branches :: rest => 1 + branchChoiceCount branches + choiceCount rest

def branchChoiceCount : List (List Part) → Nat
  | [] => 0
  | branch :: rest => choiceCount branch + branchChoiceCount rest
end

def bound? : Part → Option (Place × Bound × Bool)
  | condition r => r.bound?
  | choice _ => none

def equation? : List Part → Option Place
  | [condition r] => if r.isEquation then r.bound?.map Prod.fst else none
  | _ => none

inductive Offer where
  | bound (b : Bound)
  | oneOf (count : Nat)
deriving DecidableEq

/-- What the part offers to a search of a column. A choice between equations for the column
offers its values. -/
def offer? (p : Place) : Part → Option Offer
  | condition r => r.bound?.bind fun (q, b, _) => if q = p then some (.bound b) else none
  | choice branches =>
    if branches.all fun branch => equation? branch = some p then some (.oneOf branches.length)
    else none

def isUsable : Part → Bool
  | condition r => r.bound?.isSome || (r.testsNull && !r.places.isEmpty)
  | choice _ => true

end Part
end RecordGateway
