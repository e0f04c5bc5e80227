import RecordGateway.Store.Term
/-!
# Words of SQL

The names, numbers, quoted texts, parameters and marks into which SQL text falls. White space and
comments stand between them. A word that is cut off or that SQL does not know is illegal.
-/
namespace RecordGateway

/-- A word with the text behind it. -/
structure Word where
  text : String
  behind : List Char
deriving DecidableEq

namespace Word

def quotedLength (quote : Char) : List Char → Option Nat
  | [] => none
  | [c] => if c = quote then some 1 else none
  | c :: d :: rest =>
    if c = quote then
      if d = quote then (quotedLength quote rest).map (· + 2) else some 1
    else (quotedLength quote (d :: rest)).map (· + 1)

def digitCount (cs : List Char) : Nat := (cs.takeWhile Char.isDigit).length

def numberLength (cs : List Char) : Nat :=
  let whole := digitCount cs
  let point := match cs.drop whole with
    | '.' :: rest => 1 + digitCount rest
    | _ => 0
  let exponent := match cs.drop (whole + point) with
    | e :: rest =>
      let sign := if rest.head? = some '+' ∨ rest.head? = some '-' then 1 else 0
      let digits := digitCount (rest.drop sign)
      if (e = 'e' ∨ e = 'E') ∧ 0 < digits then 1 + sign + digits else 0
    | [] => 0
  whole + point + exponent

/-- The marks of two characters; a mark of three is cut in two. -/
def doubleMarks : List String := ["==", "<=", "<>", "<<", ">=", ">>", "!=", "||", "->"]

def singleMarks : List Char :=
  [',', ';', '(', ')', '+', '-', '*', '/', '%', '&', '~', '=', '<', '>', '|', '.']

def quoted (quote : Char) (rest : List Char) : Nat × Bool :=
  match quotedLength quote rest with
  | some n => (n + 1, true)
  | none => (rest.length + 1, false)

def bracketed (rest : List Char) : Nat × Bool :=
  match Text.cutAt ']' rest with
  | some (name, _) => (name.length + 2, true)
  | none => (rest.length + 1, false)

def blob (rest : List Char) : Nat × Bool :=
  match Text.cutAt '\'' rest with
  | some (digits, _) => (digits.length + 3, (Term.hexPairs digits).isSome)
  | none => (rest.length + 2, false)

/-- The length of the word at the front of a text that does not start with white space, and
whether it is legal. -/
def first : List Char → Nat × Bool
  | [] => (0, true)
  | '\'' :: rest => quoted '\'' rest
  | '"' :: rest => quoted '"' rest
  | '`' :: rest => quoted '`' rest
  | '[' :: rest => bracketed rest
  | c :: rest =>
    let nameLength := (rest.takeWhile Term.isNameChar).length
    if (c = 'x' ∨ c = 'X') ∧ rest.head? = some '\'' then blob rest.tail
    else if Term.isNameStart c then (nameLength + 1, true)
    else if c.isDigit || (c == '.' && rest.head?.any Char.isDigit) then
      let number := numberLength (c :: rest)
      let stray := ((rest.drop (number - 1)).takeWhile Term.isNameChar).length
      (number + stray, stray == 0)
    else if c == ':' || c == '@' || c == '$' || c == '#' then (nameLength + 1, 0 < nameLength)
    else if c == '?' then (digitCount rest + 1, true)
    else if doubleMarks.contains (String.ofList (c :: rest.take 1)) then (2, true)
    else (1, singleMarks.contains c)

def blockLength : List Char → Nat
  | [] => 0
  | '*' :: '/' :: _ => 2
  | _ :: rest => 1 + blockLength rest

/-- The length of the comment at the front of a text: up to the end of the line, or up to the mark
that closes it. The end of the text closes every comment. -/
def commentLength : List Char → Nat
  | '-' :: '-' :: rest => 2 + (rest.takeWhile (· != '\n')).length
  | '/' :: '*' :: c :: rest => 2 + blockLength (c :: rest)
  | _ => 0

/-- The words of a text after so many of its characters. -/
def scan : Nat → List Char → List Word
  | _, [] => []
  | skip + 1, _ :: rest => scan skip rest
  | 0, c :: rest =>
    if Text.isAsciiBlank c then scan 0 rest
    else match commentLength (c :: rest) with
      | more + 1 => scan more rest
      | 0 =>
        let length := (first (c :: rest)).1
        ⟨String.ofList ((c :: rest).take length), (c :: rest).drop length⟩ ::
          scan (length - 1) rest

def isLegal (word : Word) : Bool := (first (word.text.toList ++ word.behind)).2

/-- The bytes from the word on. -/
def size (word : Word) : Nat := word.text.utf8ByteSize + (String.ofList word.behind).utf8ByteSize

/-- The text from a word up to the end of another one. -/
def upTo (word last : Word) : String :=
  let cs := word.text.toList ++ word.behind
  String.ofList (cs.take (cs.length - last.behind.length))

def isSign (word : Word) : Bool := word.text == "+" || word.text == "-"

end Word
end RecordGateway
