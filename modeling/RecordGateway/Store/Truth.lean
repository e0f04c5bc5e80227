import RecordGateway.Statement
import RecordGateway.Store.Affinity
import RecordGateway.Store.Term
/-!
# Truth of predicates

Conditions on a row are true, false or unknown. A comparison with null is
unknown, except by IS. A predicate combines its conditions by three-valued AND
and OR; groups without conditions do not count.
-/
namespace RecordGateway

inductive Truth where
  | yes
  | no
  | unknown
deriving DecidableEq

namespace Truth

def ofBool : Bool → Truth
  | true => yes
  | false => no

def and : Truth → Truth → Truth
  | no, _ => no
  | _, no => no
  | yes, t => t
  | t, yes => t
  | unknown, unknown => unknown

def or : Truth → Truth → Truth
  | yes, _ => yes
  | _, yes => yes
  | no, t => t
  | t, no => t
  | unknown, unknown => unknown

def not : Truth → Truth
  | yes => no
  | no => yes
  | unknown => unknown

def combine (operator : Connective) (truths : List Truth) : Truth :=
  match operator with
  | .and => truths.foldr and yes
  | .or => truths.foldr or no

end Truth

namespace Predicate

mutual
/-- The truth of a tree, given that of its conditions. A tree without conditions has none. -/
def truth? (holds : Condition → Truth) : Predicate → Option Truth
  | condition c => some (holds c)
  | group operator parts =>
    match partTruths holds parts with
    | [] => none
    | truths => some (Truth.combine operator truths)

def partTruths (holds : Condition → Truth) : List Predicate → List Truth
  | [] => []
  | part :: rest => (part.truth? holds).toList ++ partTruths holds rest
end

end Predicate

inductive Relation where
  | equal
  | different
  | less
  | lessOrEqual
  | greater
  | greaterOrEqual
  | is
  | isNot
  | like
  | notLike
deriving DecidableEq

namespace Relation

/-- Read a relation in any letter case; white space between its words does not count. -/
def read (s : String) : Option Relation :=
  match String.intercalate " " (Text.words (Text.upper s)) with
  | "=" => some equal
  | "==" => some equal
  | "!=" => some different
  | "<>" => some different
  | "<" => some less
  | "<=" => some lessOrEqual
  | ">" => some greater
  | ">=" => some greaterOrEqual
  | "IS" => some is
  | "IS NOT" => some isNot
  | "IS DISTINCT FROM" => some isNot
  | "IS NOT DISTINCT FROM" => some is
  | "LIKE" => some like
  | "NOT LIKE" => some notLike
  | _ => none

/-- For every end of a text, the longest first, whether a pattern that starts with `p` matches
it, given the same for the pattern after `p`: `%` stands for any characters and `_` for one;
ASCII letters match in either case. -/
def fitsAfter (p : Char) : List Char → List Bool → List Bool
  | c :: text, fit :: fits =>
    let shorter := fitsAfter p text fits
    let fit' :=
      if p = '%' then fit || shorter.headD false
      else (p = '_' || p.toLower == c.toLower) && fits.headD false
    fit' :: shorter
  | [], fit :: _ => [p = '%' && fit]
  | _, [] => []

def fits (pattern text : List Char) : Bool :=
  (pattern.foldr (fun p row => fitsAfter p text row)
    (text.map (fun _ => false) ++ [true])).headD false

def cellText (cell : Cell) : List Char :=
  match Affinity.toText cell with
  | .text bytes => Bytes.decode bytes
  | .blob bytes => Bytes.decode bytes
  | _ => []

/-- Match cells as texts, each of which ends before its first null character. -/
def likeTruth (text pattern : Cell) : Truth :=
  let upToNull (cell : Cell) : List Char := (cellText cell).takeWhile (· != '\x00')
  if text.isNull || pattern.isNull then .unknown
  else .ofBool (fits (upToNull pattern) (upToNull text))

def holds (relation : Relation) (a b : Cell) : Truth :=
  let compared (test : Ordering → Bool) : Truth :=
    if a.isNull || b.isNull then .unknown else .ofBool (test (a.compare b))
  match relation with
  | equal => compared (· == .eq)
  | different => compared (· != .eq)
  | less => compared (· == .lt)
  | lessOrEqual => compared (· != .gt)
  | greater => compared (· == .gt)
  | greaterOrEqual => compared (· != .lt)
  | is => .ofBool (a.compare b == .eq)
  | isNot => .ofBool (a.compare b != .eq)
  | like => likeTruth a b
  | notLike => (likeTruth a b).not

end Relation

def Condition.depth (c : Condition) : Nat :=
  let termDepth (s : String) : Nat := ((Term.read s).map Term.depth).getD 1
  let sides := 1 + max (termDepth c.field) (termDepth c.operand.value.display)
  if Relation.read c.relation = some .notLike then sides + 1 else sides

mutual
/-- How deep the expression of a tree is; each further part of a group adds a level to those
before it. -/
def Predicate.depth : Predicate → Nat
  | condition c => c.depth
  | group _ parts => partsDepth 0 parts

def Predicate.partsDepth (before : Nat) : List Predicate → Nat
  | [] => before
  | part :: rest =>
    let own := part.depth
    partsDepth (if before = 0 then own else if own = 0 then before else 1 + max before own) rest
end

abbrev Frame := List (String × Affinity × Cell)

namespace Frame

def find? (frame : Frame) (name : String) : Option (Affinity × Cell) :=
  (List.find? (fun e => Text.sameName e.1 name) frame).map Prod.snd

end Frame

/-- The values of the parameters; of two values for one name the later counts, and a name
without a value is null. -/
abbrev Assignment := List (String × Value)

namespace Assignment

def value (parameters : Assignment) (name : String) : Value :=
  match (List.reverse parameters).find? fun e => e.1 == name with
  | some e => e.2
  | none => .null

/-- The cell that a parameter stands for. A NaN is bound as null. -/
def cell (parameters : Assignment) (name : String) : Cell :=
  (Cell.ofValue (parameters.value name)).settle

end Assignment

/-- A term in a row; a name that the row does not have is null, or the constant that it stands
for. -/
def Term.eval (parameters : Assignment) (frame : Frame) : Term → Affinity × Cell
  | column name => (frame.find? name).getD (.blob, .null)
  | columnOr name otherwise => (frame.find? name).getD (.blob, otherwise)
  | parameter name => (.blob, parameters.cell name)
  | constant cell => (.blob, cell)
  | signed minus term =>
    let cell := (term.eval parameters frame).2
    (.blob, if minus then Affinity.negated cell else cell)

def evalText (parameters : Assignment) (frame : Frame) (s : String) : Affinity × Cell :=
  match Term.read s with
  | some term => term.eval parameters frame
  | none => (.blob, .null)

def Relation.isPattern : Relation → Bool
  | like => true
  | notLike => true
  | _ => false

def Condition.truth (parameters : Assignment) (frame : Frame) (c : Condition) : Truth :=
  let (leftAffinity, left) := evalText parameters frame c.field
  let (rightAffinity, right) := evalText parameters frame c.operand.value.display
  match Relation.read c.relation with
  | some relation =>
    if relation.isPattern then relation.holds left right
    else relation.holds (rightAffinity.meet leftAffinity left)
      (leftAffinity.meet rightAffinity right)
  | none => .unknown

/-- Whether a row passes a filter. No filter, and a filter without conditions, let every row
pass. -/
def passes (parameters : Assignment) (filter : Option Predicate) (frame : Frame) : Bool :=
  (filter.bind (Predicate.truth? (Condition.truth parameters frame))).all (· == .yes)

end RecordGateway
