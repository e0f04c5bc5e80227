import RecordGateway.Number.Decimal
import RecordGateway.Toml.Scan
/-!
# Strings

The four kinds of strings: basic strings between double quotes with escapes,
literal strings between single quotes without, and both between threefold
quotes over several lines.
-/
namespace RecordGateway.Toml

def hexValue? (c : Char) : Option Nat :=
  if c.isDigit then some (digitValue c)
  else if 'a' ≤ c ∧ c ≤ 'f' then some (c.toNat - 'a'.toNat + 10)
  else if 'A' ≤ c ∧ c ≤ 'F' then some (c.toNat - 'A'.toNat + 10)
  else none

def codePoint? (digits : List Char) : Option Char := do
  let values ← digits.mapM hexValue?
  let n := values.foldl (fun n d => 16 * n + d) 0
  if n.isValidChar then some (Char.ofNat n) else none

def escaped? : Char → Option Char
  | 'b' => some '\x08'
  | 't' => some '\t'
  | 'n' => some '\n'
  | 'f' => some '\x0c'
  | 'r' => some '\r'
  | '"' => some '"'
  | '\\' => some '\\'
  | _ => none

def before (c : Char) (read : Option (List Char × List Char)) : Option (List Char × List Char) :=
  read.map fun (cs, rest) => (c :: cs, rest)

def readBasic : List Char → Option (List Char × List Char)
  | '"' :: rest => some ([], rest)
  | '\\' :: 'u' :: a :: b :: c :: d :: rest =>
    (codePoint? [a, b, c, d]).bind fun x => before x (readBasic rest)
  | '\\' :: 'U' :: a :: b :: c :: d :: e :: f :: g :: h :: rest =>
    (codePoint? [a, b, c, d, e, f, g, h]).bind fun x => before x (readBasic rest)
  | '\\' :: c :: rest => (escaped? c).bind fun x => before x (readBasic rest)
  | c :: rest => if isPlain c && c != '\\' then before c (readBasic rest) else none
  | [] => none

def readLiteral : List Char → Option (List Char × List Char)
  | '\'' :: rest => some ([], rest)
  | c :: rest => if isPlain c then before c (readLiteral rest) else none
  | [] => none

/-- How far a backslash at the end of a line has been followed: not at all, over the space before
the line end, or over the line end, after which all blank characters are left out. -/
inductive Fold where
  | outside
  | opened
  | joining

/-- The rest of a basic string of several lines. One or two quotes before the closing ones
belong to the string. -/
def readBasicLines : Fold → List Char → Option (List Char × List Char)
  | .opened, '\n' :: rest => readBasicLines .joining rest
  | .opened, c :: rest => if isSpace c then readBasicLines .opened rest else none
  | _, '"' :: '"' :: '"' :: '"' :: '"' :: rest => some (['"', '"'], rest)
  | _, '"' :: '"' :: '"' :: '"' :: rest => some (['"'], rest)
  | _, '"' :: '"' :: '"' :: rest => some ([], rest)
  | _, '\\' :: 'u' :: a :: b :: c :: d :: rest =>
    (codePoint? [a, b, c, d]).bind fun x => before x (readBasicLines .outside rest)
  | _, '\\' :: 'U' :: a :: b :: c :: d :: e :: f :: g :: h :: rest =>
    (codePoint? [a, b, c, d, e, f, g, h]).bind fun x => before x (readBasicLines .outside rest)
  | _, '\\' :: c :: rest =>
    if isSpace c then readBasicLines .opened rest
    else if c = '\n' then readBasicLines .joining rest
    else (escaped? c).bind fun x => before x (readBasicLines .outside rest)
  | .joining, c :: rest =>
    if isSpace c || c == '\n' then readBasicLines .joining rest
    else if isPlain c && c != '\\' then before c (readBasicLines .outside rest)
    else none
  | .outside, c :: rest =>
    if (isPlain c || c == '\n') && c != '\\' then before c (readBasicLines .outside rest)
    else none
  | _, [] => none

def readLiteralLines : List Char → Option (List Char × List Char)
  | '\'' :: '\'' :: '\'' :: '\'' :: '\'' :: rest => some (['\'', '\''], rest)
  | '\'' :: '\'' :: '\'' :: '\'' :: rest => some (['\''], rest)
  | '\'' :: '\'' :: '\'' :: rest => some ([], rest)
  | c :: rest => if isPlain c || c == '\n' then before c (readLiteralLines rest) else none
  | [] => none

def dropLineEnd : List Char → List Char
  | '\n' :: rest => rest
  | cs => cs

def readQuoted : List Char → Option (List Char × List Char)
  | '"' :: rest => readBasic rest
  | '\'' :: rest => readLiteral rest
  | _ => none

def readString : List Char → Option (List Char × List Char)
  | '"' :: '"' :: '"' :: rest => readBasicLines .outside (dropLineEnd rest)
  | '\'' :: '\'' :: '\'' :: rest => readLiteralLines (dropLineEnd rest)
  | cs => readQuoted cs

end RecordGateway.Toml
