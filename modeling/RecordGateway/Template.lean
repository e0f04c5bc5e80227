import RecordGateway.Value
/-!
# Rendered statements

A rendered statement is a sequence of pieces: SQL syntax, terms, and the places
of quoted literals. A term is SQL text that stands where an expression is
expected. Only at the end is it decided what is written for the literals: the
literals themselves, numbered placeholders, or any other mark.
-/
namespace RecordGateway

inductive Piece where
  | text (s : String)
  | term (s : String)
  | literal (v : Value)
deriving DecidableEq

abbrev Template := List Piece

def placeholder (number : Nat) : String := ":_" ++ number.repr

namespace Template

/-- Write the pieces; `mark` says what stands for a literal, given its number. -/
def write (mark : Nat → Value → String) : Nat → Template → String
  | _, [] => ""
  | n, .text s :: rest => s ++ write mark n rest
  | n, .term s :: rest => s ++ write mark n rest
  | n, .literal v :: rest => mark n v ++ write mark (n + 1) rest

def literals : Template → List Value
  | [] => []
  | .text _ :: rest => literals rest
  | .term _ :: rest => literals rest
  | .literal v :: rest => v :: literals rest

def inline (t : Template) : String := t.write (fun _ v => v.quotedLiteral) 1

def numbered (t : Template) : String := t.write (fun n _ => placeholder n) 1

def marked (mark : String) (t : Template) : String := t.write (fun _ _ => mark) 1

def parameters (t : Template) : List (String × Value) :=
  (t.literals.zipIdx 1).map fun p => (placeholder p.2, p.1)

end Template
end RecordGateway
