/-!
# White space and letter case

The characters of the Unicode property White_Space, trimming by it, and the
ASCII case maps. Letter case outside ASCII is never changed.
-/
namespace RecordGateway.Text

/-- The inclusive code point ranges of the Unicode property White_Space. -/
def blankRanges : List (Nat × Nat) :=
  [(0x09, 0x0D), (0x20, 0x20), (0x85, 0x85), (0xA0, 0xA0), (0x1680, 0x1680), (0x2000, 0x200A),
   (0x2028, 0x2029), (0x202F, 0x202F), (0x205F, 0x205F), (0x3000, 0x3000)]

def isBlank (c : Char) : Bool :=
  blankRanges.any fun r => r.1 ≤ c.toNat && c.toNat ≤ r.2

def trimBy (drop : Char → Bool) (s : String) : String :=
  String.ofList (((s.toList.dropWhile drop).reverse.dropWhile drop).reverse)

def trim (s : String) : String := trimBy isBlank s

/-- Space, tab, line feed, vertical tab, form feed and carriage return. -/
def isAsciiBlank (c : Char) : Bool := c == ' ' || (0x09 ≤ c.toNat && c.toNat ≤ 0x0D)

def trimAscii (s : String) : String := trimBy isAsciiBlank s

def upper (s : String) : String := String.ofList (s.toList.map Char.toUpper)

def lower (s : String) : String := String.ofList (s.toList.map Char.toLower)

def sameName (a b : String) : Bool := lower a == lower b

def hasPart (part : List Char) : List Char → Bool
  | [] => part.isEmpty
  | c :: rest => part.isPrefixOf (c :: rest) || hasPart part rest

def contains (whole part : String) : Bool := hasPart part.toList whole.toList

def cutAt (separator : Char) : List Char → Option (List Char × List Char)
  | [] => none
  | c :: rest =>
    if c = separator then some ([], rest)
    else (cutAt separator rest).map fun parts => (c :: parts.1, parts.2)

def cut (separator : Char) (s : String) : Option (String × String) :=
  (cutAt separator s.toList).map fun parts => (String.ofList parts.1, String.ofList parts.2)

/-- Cut a list of characters at every occurrence of a separator; there is always one part more
than separators. -/
def partsAt (separator : Char) : List Char → List (List Char)
  | [] => [[]]
  | c :: rest =>
    if c = separator then [] :: partsAt separator rest
    else match partsAt separator rest with
      | [] => [[c]]
      | part :: parts => (c :: part) :: parts

def parts (separator : Char) (s : String) : List String :=
  (partsAt separator s.toList).map String.ofList

def words (s : String) : List String :=
  (parts ' ' (String.ofList (s.toList.map fun c => if isAsciiBlank c then ' ' else c))).filter
    fun word => !word.isEmpty

def doubled (quote : Char) : List Char → List Char
  | [] => []
  | c :: rest => if c = quote then quote :: quote :: doubled quote rest else c :: doubled quote rest

end RecordGateway.Text
