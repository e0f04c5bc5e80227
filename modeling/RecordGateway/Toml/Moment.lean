import RecordGateway.Number.Decimal
import RecordGateway.Text.Blank
/-!
# Dates and times

Dates, times of day, and moments with an offset from universal time, as TOML
writes them, and their one normal form.
-/
namespace RecordGateway.Toml

structure Date where
  year : Nat
  month : Nat
  day : Nat
deriving DecidableEq

structure Time where
  hour : Nat
  minute : Nat
  second : Nat
  nanosecond : Nat
deriving DecidableEq

/-- A date, a time, or both, and then possibly the minutes by which the time is ahead of
universal time; with universal time itself given by name there is no number. -/
inductive Moment where
  | date (d : Date)
  | time (t : Time)
  | both (d : Date) (t : Time)
  | universal (d : Date) (t : Time)
  | ahead (d : Date) (t : Time) (minutes : Int)
deriving DecidableEq

def isLeapYear (year : Nat) : Bool := year % 4 == 0 && (year % 100 != 0 || year % 400 == 0)

def daysInMonth (year month : Nat) : Nat :=
  if month = 2 then if isLeapYear year then 29 else 28
  else if [4, 6, 9, 11].contains month then 30
  else 31

def fixed? (count low high : Nat) (cs : List Char) : Option Nat :=
  if cs.length = count ∧ cs.all Char.isDigit then
    let n := digitsValue cs
    if low ≤ n ∧ n ≤ high then some n else none
  else none

def readDate (cs : List Char) : Option Date :=
  match Text.partsAt '-' cs with
  | [y, m, d] => do
    let year ← fixed? 4 0 9999 y
    let month ← fixed? 2 1 12 m
    let day ← fixed? 2 1 (daysInMonth year month) d
    return ⟨year, month, day⟩
  | _ => none

/-- The digits of a fraction of a second as nanoseconds; further digits are dropped. -/
def nanoseconds (digits : List Char) : Nat :=
  let kept := digits.take 9
  digitsValue kept * pow10 (9 - kept.length)

def readSecond (cs : List Char) : Option (Nat × Nat) :=
  match Text.partsAt '.' cs with
  | [s] => (fixed? 2 0 60 s).map fun n => (n, 0)
  | [s, digits] => do
    let n ← fixed? 2 0 60 s
    if digits.isEmpty || !digits.all Char.isDigit then none
    else return (n, nanoseconds digits)
  | _ => none

/-- A time of day; the lenient reading also takes the hour 24. -/
def readTime (lenient : Bool) (cs : List Char) : Option Time :=
  match Text.partsAt ':' cs with
  | [h, m, s] => do
    let hour ← fixed? 2 0 (if lenient then 24 else 23) h
    let minute ← fixed? 2 0 59 m
    let (second, nano) ← readSecond s
    return ⟨hour, minute, second, nano⟩
  | _ => none

/-- Hours and minutes of an offset; the lenient reading only bounds their sum, by a day. -/
def readOffset (lenient : Bool) (cs : List Char) : Option Nat :=
  match Text.partsAt ':' cs with
  | [h, m] => do
    let hours ← fixed? 2 0 (if lenient then 24 else 23) h
    let minutes ← fixed? 2 0 (if lenient then 99 else 59) m
    let total := 60 * hours + minutes
    if total ≤ 1440 then return total else none
  | _ => none

def readClock (lenient : Bool) (d : Date) (cs : List Char) : Option Moment :=
  let isMark (c : Char) : Bool := c == 'Z' || c == 'z' || c == '+' || c == '-'
  (readTime lenient (cs.takeWhile fun c => !isMark c)).bind fun t =>
    match cs.dropWhile fun c => !isMark c with
    | [] => some (.both d t)
    | c :: rest =>
      if c = '+' then (readOffset lenient rest).map fun n => .ahead d t n
      else if c = '-' then (readOffset lenient rest).map fun n => .ahead d t (-n)
      else if rest.isEmpty then some (.universal d t)
      else none

/-- A date, a time, or a date and a time with the letter T between them; in the lenient reading
a space may take the place of the letter. -/
def readMoment (lenient : Bool) (cs : List Char) : Option Moment :=
  match (readTime lenient cs).map Moment.time with
  | some m => some m
  | none =>
    let isMark (c : Char) : Bool := c == 'T' || c == 't' || (lenient && c == ' ')
    (readDate (cs.takeWhile fun c => !isMark c)).bind fun d =>
      match cs.dropWhile fun c => !isMark c with
      | [] => some (.date d)
      | _ :: clock => readClock lenient d clock

def zeros (width n : Nat) : String :=
  let digits := Nat.toDigits 10 n
  String.ofList (List.replicate (width - digits.length) '0' ++ digits)

def Date.text (d : Date) : String :=
  zeros 4 d.year ++ "-" ++ zeros 2 d.month ++ "-" ++ zeros 2 d.day

/-- The fraction of a second has no zeros at its end and is left out if it is zero. -/
def Time.text (t : Time) : String :=
  let whole := zeros 2 t.hour ++ ":" ++ zeros 2 t.minute ++ ":" ++ zeros 2 t.second
  if t.nanosecond = 0 then whole
  else
    let digits := (zeros 9 t.nanosecond).toList.reverse.dropWhile (· == '0')
    whole ++ "." ++ String.ofList digits.reverse

def offsetText (minutes : Int) : String :=
  (if minutes < 0 then "-" else "+") ++ zeros 2 (minutes.natAbs / 60) ++ ":" ++
    zeros 2 (minutes.natAbs % 60)

def Moment.text : Moment → String
  | date d => d.text
  | time t => t.text
  | both d t => d.text ++ "T" ++ t.text
  | universal d t => d.text ++ "T" ++ t.text ++ "Z"
  | ahead d t minutes => d.text ++ "T" ++ t.text ++ offsetText minutes

end RecordGateway.Toml
