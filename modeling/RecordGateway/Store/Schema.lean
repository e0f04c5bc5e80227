import RecordGateway.Store.Table
/-!
# Schema scripts

The definitions of tables and indexes as SQL text: CREATE TABLE with columns
that may have a declared type, be the integer primary key or exclude null, and
CREATE INDEX. A script is carried out as far as it is understood as a whole.
-/
namespace RecordGateway.Schema

inductive Token where
  | word (s : String)
  | mark (c : Char)
deriving DecidableEq

/-- Take the characters up to a closing quote; a quote written twice stands for one. -/
def quotedEnd (quote : Char) : List Char → Option (List Char × List Char)
  | [] => none
  | [c] => if c = quote then some ([], []) else none
  | c :: d :: rest =>
    if c = quote then
      if d = quote then (quotedEnd quote rest).map fun p => (quote :: p.1, p.2)
      else some ([], d :: rest)
    else (quotedEnd quote (d :: rest)).map fun p => (c :: p.1, p.2)

/-- Cut a script into words and marks; the fuel bounds the number of steps. -/
def scan : Nat → List Char → Option (List Token)
  | _, [] => some []
  | 0, _ => none
  | fuel + 1, c :: rest =>
    if Text.isBlank c then scan fuel rest
    else if c = '`' ∨ c = '"' then
      (quotedEnd c rest).bind fun (name, after) =>
        (scan fuel after).map (Token.word (String.ofList name) :: ·)
    else if Term.isNameStart c then
      let name := c :: rest.takeWhile Term.isNameChar
      (scan fuel (rest.dropWhile Term.isNameChar)).map (Token.word (String.ofList name) :: ·)
    else (scan fuel rest).map (Token.mark c :: ·)

def tokens (script : String) : Option (List Token) := scan (script.length + 1) script.toList

def splitAt (mark : Char) : List Token → List (List Token)
  | [] => [[]]
  | token :: rest =>
    match splitAt mark rest with
    | [] => [[token]]
    | part :: parts =>
      if token = Token.mark mark then [] :: part :: parts else (token :: part) :: parts

def isWord (expected : String) : Token → Bool
  | .word s => Text.sameName s expected
  | .mark _ => false

def expect : List String → List Token → Option (List Token)
  | [], ts => some ts
  | w :: ws, t :: ts => if isWord w t then expect ws ts else none
  | _ :: _, [] => none

structure ColumnLine where
  column : Column
  isKey : Bool

def readConstraints (fuel : Nat) (line : ColumnLine) (ts : List Token) : Option ColumnLine :=
  match fuel, ts with
  | _, [] => some line
  | 0, _ => none
  | fuel + 1, ts =>
    match expect ["PRIMARY", "KEY"] ts with
    | some rest =>
      if Text.sameName line.column.declared "INTEGER" then
        readConstraints fuel { line with isKey := true } rest
      else none
    | none =>
      match expect ["NOT", "NULL"] ts with
      | some rest =>
        readConstraints fuel { line with column := { line.column with notNull := true } } rest
      | none => none

def startsConstraint (t : Token) : Bool := isWord "PRIMARY" t || isWord "NOT" t

def readColumn : List Token → Option ColumnLine
  | .word name :: rest =>
    let typeWords := rest.takeWhile fun t => !startsConstraint t
    let words := typeWords.filterMap fun t => match t with
      | .word s => some s
      | .mark _ => none
    if words.length = typeWords.length then
      readConstraints rest.length ⟨⟨name, String.intercalate " " words, false⟩, false⟩
        (rest.drop typeWords.length)
    else none
  | _ => none

def inParentheses : List Token → Option (List Token)
  | .mark '(' :: rest =>
    match rest.getLast? with
    | some (.mark ')') => some rest.dropLast
    | _ => none
  | _ => none

inductive Definition where
  | table (ifMissing : Bool) (t : Table)
  | index (ifMissing : Bool) (i : Index)

def takeIfMissing (ts : List Token) : Bool × List Token :=
  match expect ["IF", "NOT", "EXISTS"] ts with
  | some rest => (true, rest)
  | none => (false, ts)

def readTable (ts : List Token) : Option Definition :=
  match takeIfMissing ts with
  | (ifMissing, .word name :: body) => do
    let lines ← (splitAt ',' (← inParentheses body)).mapM readColumn
    return .table ifMissing
      ⟨name, lines.map ColumnLine.column, lines.findIdx? ColumnLine.isKey, []⟩
  | _ => none

def readIndex (unique : Bool) (ts : List Token) : Option Definition :=
  match takeIfMissing ts with
  | (ifMissing, .word name :: on :: .word table :: body) =>
    if isWord "ON" on then do
      let columns ← (splitAt ',' (← inParentheses body)).mapM fun part =>
        match part with
        | [.word column] => some column
        | _ => none
      return .index ifMissing ⟨name, table, columns, unique⟩
    else none
  | _ => none

def read (ts : List Token) : Option Definition :=
  match expect ["CREATE", "TABLE"] ts, expect ["CREATE", "INDEX"] ts,
      expect ["CREATE", "UNIQUE", "INDEX"] ts with
  | some rest, _, _ => readTable rest
  | _, some rest, _ => readIndex false rest
  | _, _, some rest => readIndex true rest
  | none, none, none => none

def readScript (script : String) : Option (List Definition) := do
  ((splitAt ';' (← tokens script)).filter fun part => !part.isEmpty).mapM read

end RecordGateway.Schema
