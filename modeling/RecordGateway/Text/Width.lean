import RecordGateway.Text.Width.Pictograph
import RecordGateway.Text.Width.Script
/-!
# Display width

How many columns of a fixed-width screen a text takes. A text is measured from
its end: what stands at the beginning of the part already measured decides
whether the character before it joins that part and what it then adds.
-/
namespace RecordGateway.Text

/-- What a measured text begins with, as far as the character before it is concerned. -/
inductive Opening where
  | plain
  | skinTone
  | flagLetter
  | flagLetters
  | pictograph
  /-- A joiner before a picture, so that the picture before it is part of that picture. -/
  | joined
  | joinedKeycap
  | joinedFlagLetter
  | joinedFlagLetters (even : Bool)
  /-- The end of a tag sequence before a joiner and a picture. -/
  | joinedTags (letters digits : Nat)
  | alef
  /-- A letter of Hebrew; the flag tells that a joiner is before it, here and below. -/
  | lamed (joiner : Bool)
  | ya (joiner : Bool)
  | vowelYa
  | tifinagh (joiner : Bool)
  | tifinaghJoiner
  | secondTone
  | orkhonI (joiner : Bool)
  | subscriptLetter
  | kiratRaiE
  | kiratRaiAi
deriving DecidableEq

namespace Opening

def isLetter : Opening → Bool
  | alef => true
  | lamed _ => true
  | ya _ => true
  | vowelYa => true
  | tifinagh _ => true
  | tifinaghJoiner => true
  | secondTone => true
  | orkhonI _ => true
  | subscriptLetter => true
  | kiratRaiE => true
  | kiratRaiAi => true
  | _ => false

def isJoined : Opening → Bool
  | joined => true
  | joinedKeycap => true
  | _ => false

def withJoiner : Opening → Opening
  | lamed _ => lamed true
  | ya _ => ya true
  | tifinagh _ => tifinagh true
  | orkhonI _ => orkhonI true
  | opening => opening

def ofChar (c : Char) : Opening :=
  if isSkinTone c then skinTone
  else if isFlagLetter c then flagLetter
  else if isPictograph c then pictograph
  else if isAlef c then alef
  else if isSubscriptLetter c then subscriptLetter
  else if isTifinaghConsonant c then tifinagh false
  else if isSecondTone c then secondTone
  else match c.toNat with
    | 0x05DC => lamed false
    | 0x1A10 => ya false
    | 0x10C03 => orkhonI false
    | 0x16D67 => kiratRaiE
    | 0x16D68 => kiratRaiAi
    | _ => plain

def isZeroWidthJoiner (c : Char) : Bool := c.toNat == 0x200D

/-- A tag letter, a tag digit or the flag before a tag sequence. Two letters or three digits name
a region, one to four letters a part of it. -/
def beforeTags (letters digits : Nat) (c : Char) : Option (Int × Opening) :=
  if 0xE0061 ≤ c.toNat ∧ c.toNat ≤ 0xE007A ∧ digits = 0 ∧ letters < 6 then
    some (0, joinedTags (letters + 1) 0)
  else if 0xE0030 ≤ c.toNat ∧ c.toNat ≤ 0xE0039 ∧ digits < 3 ∧ (letters ≤ 4 ∨ digits ≠ 0) then
    some (0, joinedTags letters (digits + 1))
  else if c.toNat = 0x1F3F4 ∧ (digits = 3 ∨ (digits = 0 ∧ 3 ≤ letters)) then some (0, pictograph)
  else none

/-- The columns that a character adds and the new opening, if the character joins the text. -/
def before (c : Char) : Opening → Option (Int × Opening)
  | plain => none
  | skinTone =>
    if isModifiable c then some (0, pictograph)
    else if isZeroWidthJoiner c then some (0, joined) else none
  | flagLetter => if isFlagLetter c then some (1, flagLetters) else none
  | flagLetters =>
    if isFlagLetter c then some (1, flagLetters)
    else if isZeroWidthJoiner c then some (0, joined) else none
  | pictograph => if isZeroWidthJoiner c then some (0, joined) else none
  | joined =>
    if c.toNat = 0x20E3 then some (0, joinedKeycap)
    else if isFlagLetter c then some (1, joinedFlagLetter)
    else if isSkinTone c then some (0, skinTone)
    else if c.toNat = 0xE007F then some (0, joinedTags 0 0)
    else if isPictograph c then some (0, pictograph) else none
  | joinedKeycap => none
  | joinedFlagLetter => if isFlagLetter c then some (-1, joinedFlagLetters true) else none
  | joinedFlagLetters even =>
    if isFlagLetter c then some (if even then 3 else -1, joinedFlagLetters !even)
    else if isZeroWidthJoiner c then some (0, joined) else none
  | joinedTags letters digits => beforeTags letters digits c
  | alef =>
    if isLam c then some (0, plain) else if isTransparent c then some (0, alef) else none
  | lamed joiner => if joiner ∧ c.toNat = 0x05D0 then some (0, plain) else none
  | ya joiner => if joiner ∧ c.toNat = 0x1A17 then some (0, vowelYa) else none
  | vowelYa => if c.toNat = 0x1A15 then some (0, plain) else none
  | tifinagh joiner =>
    if c.toNat = 0x2D7F then some (1, tifinaghJoiner)
    else if joiner ∧ isTifinaghConsonant c then some (0, plain) else none
  | tifinaghJoiner => if isTifinaghConsonant c then some (-1, plain) else none
  | secondTone => if isFirstTone c then some (0, plain) else none
  | orkhonI joiner => if joiner ∧ c.toNat = 0x10C32 then some (0, plain) else none
  | subscriptLetter => if c.toNat = 0x17D2 then some (-1, plain) else none
  | kiratRaiE =>
    if c.toNat = 0x16D63 then some (0, plain)
    else if c.toNat = 0x16D67 then some (0, kiratRaiAi)
    else if c.toNat = 0x16D68 then some (1, kiratRaiE)
    else if c.toNat = 0x16D69 then some (0, plain) else none
  | kiratRaiAi => if c.toNat = 0x16D63 then some (0, plain) else none

end Opening

inductive Selector where
  | picture
  | text
  | fullwidth
deriving DecidableEq

def Selector.ofChar? (c : Char) : Option Selector :=
  match c.toNat with
  | 0xFE0F => some picture
  | 0xFE0E => some text
  | 0xFE01 => some fullwidth
  | _ => none

/-- A text measured so far: its columns, its opening, and the selector before that, if any. -/
structure Measured where
  columns : Int
  opening : Opening
  selector : Option Selector
deriving DecidableEq

namespace Measured

def empty : Measured := ⟨0, .plain, none⟩

def put (m : Measured) (added : Int) (opening : Opening) : Measured :=
  ⟨m.columns + added, opening, none⟩

/-- A selector before a text. Only letters, and pictures after a joiner, still join through it. -/
def select (m : Measured) (s : Selector) : Measured :=
  let kept := m.opening.isLetter || (s = .picture && m.opening.isJoined)
  { m with opening := if kept then m.opening else .plain, selector := some s }

def unselect (m : Measured) : Measured :=
  if m.selector.isNone then m
  else { m with opening := if m.opening.isLetter then m.opening else .plain, selector := none }

def obey (m : Measured) (c : Char) : Option Measured :=
  match m.selector with
  | some .picture =>
    if isSelectable c then some (m.put (if m.opening.isJoined then 0 else 2) .pictograph) else none
  | some .text => if narrowsAsText c then some (m.put 1 .plain) else none
  | some .fullwidth => if isWideningQuote c then some (m.put 2 .plain) else none
  | none => none

def join (m : Measured) (c : Char) : Measured :=
  if m.opening.isLetter && m.opening != .alef && isInvisibleMark c then
    { m with opening := if Opening.isZeroWidthJoiner c then m.opening.withJoiner else m.opening }
  else match m.opening.before c with
    | some (added, opening) => m.put added opening
    | none => m.put (charWidth c) (.ofChar c)

def before (c : Char) (m : Measured) : Measured :=
  match m.obey c, Selector.ofChar? c with
  | some m', _ => m'
  | none, some s => (if m.selector = some .picture then m.unselect else m).select s
  | none, none => if c.toNat ≤ 0xA0 then m.put 1 .plain else m.unselect.join c

end Measured

def measure (s : String) : Measured := s.toList.foldr Measured.before .empty

def width (s : String) : Nat := (measure s).columns.toNat

end RecordGateway.Text
