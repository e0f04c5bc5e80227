import RecordGateway.Text.Blank
/-!
# Blanks, comments and line ends

The characters between the tokens of a TOML document. Every reader takes a list
of characters and gives what it read with the characters after it. A document
is read with its line ends made uniform, so a carriage return stands nowhere.
-/
namespace RecordGateway.Toml

def uniform : List Char → List Char
  | '\r' :: '\n' :: rest => '\n' :: uniform rest
  | c :: rest => c :: uniform rest
  | [] => []

def isSpace (c : Char) : Bool := c == ' ' || c == '\t'

/-- The characters that may stand in comments and between quotes: no control characters except
the tabulator. -/
def isPlain (c : Char) : Bool := c == '\t' || (0x20 ≤ c.toNat && c.toNat != 0x7F)

def skipSpace (cs : List Char) : List Char := cs.dropWhile isSpace

def skipComment : List Char → List Char
  | '#' :: rest => rest.dropWhile isPlain
  | cs => cs

def endLine (cs : List Char) : Option (List Char) :=
  match skipComment (skipSpace cs) with
  | [] => some []
  | '\n' :: rest => some rest
  | _ => none

/-- Skip space, line ends and comments; the flag says that the text starts within a comment. -/
def skipLayout : Bool → List Char → List Char
  | _, [] => []
  | true, c :: rest =>
    if c = '\n' then skipLayout false rest
    else if isPlain c then skipLayout true rest
    else c :: rest
  | false, c :: rest =>
    if isSpace c || c == '\n' then skipLayout false rest
    else if c = '#' then skipLayout true rest
    else c :: rest

end RecordGateway.Toml
