import RecordGateway.Toml.Moment
import RecordGateway.Toml.Number
import RecordGateway.Toml.Tables
/-!
# TOML documents

Reading a TOML document as a configuration: keys, values, and the lines of a
document. Dates and times become texts in their normal form. A document that is
not well formed, or that defines something twice, has no reading.
-/
namespace RecordGateway.Toml

/-- Arrays and inline tables are nested less deeply than this, and keys have fewer parts. -/
def depthLimit : Nat := 80

/-! ## Keys -/

def isBareKeyChar (c : Char) : Bool := c.isAlphanum || c == '_' || c == '-'

def readKeyPart (cs : List Char) : Option (String × List Char) :=
  match cs.takeWhile isBareKeyChar with
  | [] => (readQuoted cs).map fun (part, rest) => (String.ofList part, rest)
  | part => some (String.ofList part, cs.dropWhile isBareKeyChar)

def readKey : Nat → List Char → Option (List String × List Char)
  | 0, _ => none
  | count + 1, cs => do
    let (part, rest) ← readKeyPart (skipSpace cs)
    match skipSpace rest with
    | '.' :: rest =>
      let (parts, rest) ← readKey count rest
      return (part :: parts, rest)
    | rest => return ([part], rest)

def key (cs : List Char) : Option (List String × List Char) := readKey (depthLimit - 1) cs

/-! ## Values -/

def isWordChar (c : Char) : Bool :=
  c.isAlphanum || c == '+' || c == '-' || c == '_' || c == '.' || c == ':'

def momentKey : String := "$__toml_private_datetime"

/-- Until a document is complete, a moment is a table with the reserved key. -/
def ofMoment (m : Moment) : Configuration := .table [(momentKey, .value (.text m.text))]

def readWord (word : List Char) : Option Configuration :=
  if word = ['t', 'r', 'u', 'e'] then some (.value (.boolean true))
  else if word = ['f', 'a', 'l', 's', 'e'] then some (.value (.boolean false))
  else ((readMoment false word).map ofMoment).or ((readNumber word).map .value)

/-- A value of one word, or a date and a time with a single space between them. -/
def readPlain (cs : List Char) : Option (Configuration × List Char) :=
  let word := cs.takeWhile isWordChar
  let rest := cs.dropWhile isWordChar
  let clock : Option (Configuration × List Char) := match readDate word, rest with
    | some d, ' ' :: later =>
      (readClock false d (later.takeWhile isWordChar)).map fun m =>
        (ofMoment m, later.dropWhile isWordChar)
    | _, _ => none
  clock.or ((readWord word).map fun c => (c, rest))

/-- The items of an array after its opening bracket; a comma may follow the last. -/
def readItems (read : List Char → Option (Configuration × List Char)) :
    Nat → List Char → Option (List Configuration × List Char)
  | 0, _ => none
  | fuel + 1, cs =>
    match skipLayout false cs with
    | ']' :: rest => some ([], rest)
    | cs => do
      let (item, rest) ← read cs
      match skipLayout false rest with
      | ',' :: rest =>
        let (items, rest) ← readItems read fuel rest
        return (item :: items, rest)
      | ']' :: rest => return ([item], rest)
      | _ => none

def readPair (read : List Char → Option (Configuration × List Char)) (cs : List Char) :
    Option ((List String × Configuration) × List Char) := do
  let (path, rest) ← key cs
  match rest with
  | '=' :: rest =>
    let (c, rest) ← read (skipSpace rest)
    return ((path, c), rest)
  | _ => none

def readPairs (read : List Char → Option (Configuration × List Char)) :
    Nat → Nodes → List Char → Option (Nodes × List Char)
  | 0, _, _ => none
  | fuel + 1, nodes, cs => do
    let ((path, c), rest) ← readPair read cs
    let nodes ← assign path c .declared nodes
    match skipSpace rest with
    | ',' :: rest => readPairs read fuel nodes rest
    | '}' :: rest => return (nodes, rest)
    | _ => none

def readInline (read : List Char → Option (Configuration × List Char)) (cs : List Char) :
    Option (Configuration × List Char) :=
  match skipSpace cs with
  | '}' :: rest => some (.empty, rest)
  | cs => (readPairs read (cs.length + 1) [] cs).map fun (nodes, rest) =>
    (.table (finishedEntries nodes), rest)

/-- A value in which arrays and inline tables are nested less deeply than a number. -/
def readValue : Nat → List Char → Option (Configuration × List Char)
  | _, '"' :: rest =>
    (readString ('"' :: rest)).map fun (s, rest) => (.value (.text (String.ofList s)), rest)
  | _, '\'' :: rest =>
    (readString ('\'' :: rest)).map fun (s, rest) => (.value (.text (String.ofList s)), rest)
  | 0, '[' :: _ => none
  | 0, '{' :: _ => none
  | depth + 1, '[' :: rest =>
    (readItems (readValue depth) (rest.length + 1) rest).map fun (items, rest) =>
      (.list items, rest)
  | depth + 1, '{' :: rest => readInline (readValue depth) rest
  | _, cs => readPlain cs

/-! ## Documents -/

def readHeader (nodes : Nodes) : List Char → Option ((List String × Nodes) × List Char)
  | '[' :: rest => do
    let (path, rest) ← key rest
    match rest with
    | ']' :: ']' :: rest => return ((path, ← repeatTable path nodes), ← endLine rest)
    | _ => none
  | rest => do
    let (path, rest) ← key rest
    match rest with
    | ']' :: rest => return ((path, ← declareTable path nodes), ← endLine rest)
    | _ => none

def readLines : Nat → List String → Nodes → List Char → Option Nodes
  | 0, _, _, _ => none
  | fuel + 1, header, nodes, cs =>
    match skipSpace cs with
    | [] => some nodes
    | '\n' :: rest => readLines fuel header nodes rest
    | '#' :: rest => (endLine ('#' :: rest)).bind (readLines fuel header nodes)
    | '[' :: rest => do
      let ((header, nodes), rest) ← readHeader nodes rest
      readLines fuel header nodes rest
    | cs => do
      let ((path, c), rest) ← readPair (readValue (depthLimit - 1)) cs
      let nodes ← assignUnder header path c nodes
      readLines fuel header nodes (← endLine rest)

mutual

/-- Replace every table that begins with the reserved key by the moment that the text under the
key is; anything else under that key is refused. -/
def settle : Configuration → Option Configuration
  | .value v => some (.value v)
  | .list items => (settleItems items).map .list
  | .table [] => some (.table [])
  | .table ((key, c) :: rest) =>
    if key = momentKey then
      match c with
      | .value (.text s) => (readMoment true s.toList).map fun m => .value (.text m.text)
      | _ => none
    else
      match settle c, settleEntries rest with
      | some c, some rest => some (.table ((key, c) :: rest))
      | _, _ => none

def settleItems : List Configuration → Option (List Configuration)
  | [] => some []
  | c :: rest =>
    match settle c, settleItems rest with
    | some c, some rest => some (c :: rest)
    | _, _ => none

def settleEntries : List (String × Configuration) → Option (List (String × Configuration))
  | [] => some []
  | (key, c) :: rest =>
    match settle c, settleEntries rest with
    | some c, some rest => some ((key, c) :: rest)
    | _, _ => none

end

def dropMark : List Char → List Char
  | '\uFEFF' :: rest => rest
  | cs => cs

def read (s : String) : Option (List (String × Configuration)) :=
  let cs := dropMark (uniform s.toList)
  match (readLines (cs.length + 1) [] [] cs).bind fun nodes =>
      settle (.table (finishedEntries nodes)) with
  | some (.table entries) => some entries
  | _ => none

end RecordGateway.Toml
