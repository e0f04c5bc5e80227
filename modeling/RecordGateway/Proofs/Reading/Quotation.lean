import Mathlib.Data.List.Forall2
import RecordGateway.Dialect.Identifier
import RecordGateway.Proofs.Reading.Unstructured
import RecordGateway.Proofs.Template
/-!
# Quotations

A scan of SQL text from left to right for what stands in quotes: texts, blobs, which have an X
before the quote, and names in backticks.
-/
namespace RecordGateway

inductive Mark where
  | text
  | blob
  | name
deriving DecidableEq

def Mark.quote : Mark → Char
  | text => '\''
  | blob => '\''
  | name => '\x60'

/-- What stands between two quotes, with doubled quotes taken as one. -/
structure Quotation where
  mark : Mark
  body : List Char
deriving DecidableEq

/-- What the characters before a place outside of quotes amount to: a marker is an X that begins
a word. -/
inductive Scan.Outside where
  | apart
  | word
  | marker
deriving DecidableEq

inductive Scan.Place where
  | outside (before : Scan.Outside)
  | within (mark : Mark) (body : List Char)
  /-- After a quote that ends the quotation unless it is followed by another one. -/
  | closed (mark : Mark) (body : List Char)
deriving DecidableEq

structure Scan where
  read : List Quotation
  place : Scan.Place
deriving DecidableEq

namespace Scan

def begun (before : Outside) (c : Char) : Place :=
  if c = '\'' then .within (if before = .marker then .blob else .text) []
  else if c = '\x60' then .within .name []
  else if before = .apart ∧ (c = 'X' ∨ c = 'x') then .outside .marker
  else .outside (if Term.isNameChar c then .word else .apart)

def step (s : Scan) (c : Char) : Scan :=
  match s.place with
  | .outside before => ⟨s.read, begun before c⟩
  | .within mark body =>
    if c = mark.quote then ⟨s.read, .closed mark body⟩ else ⟨s.read, .within mark (body ++ [c])⟩
  | .closed mark body =>
    if c = mark.quote then ⟨s.read, .within mark (body ++ [c])⟩
    else ⟨s.read ++ [⟨mark, body⟩], begun .apart c⟩

def start : Scan := ⟨[], .outside .apart⟩

/-- The quotations of a scan that has come to its end, unless one of them is still open. -/
def finish (s : Scan) : Option (List Quotation) :=
  match s.place with
  | .outside _ => some s.read
  | .within _ _ => none
  | .closed mark body => some (s.read ++ [⟨mark, body⟩])

end Scan

def quotations (cs : List Char) : Option (List Quotation) := (cs.foldl Scan.step .start).finish

namespace Quotation

/-- Texts and blobs are data, names are not. -/
def isData (q : Quotation) : Bool := q.mark != .name

/-- A quotation that reads as a value: a blob as its bytes, any other value as its text. -/
def StandsFor (q : Quotation) (v : Value) : Prop :=
  match q.mark with
  | .text => (∀ bytes, v ≠ .blob bytes) ∧ String.ofList q.body = v.display
  | .blob => ∃ bytes, v = .blob bytes ∧ Term.hexPairs q.body = some bytes
  | .name => False

/-- The quotation that is written for a value; null is written without quotes. -/
def ofValue : Value → List Quotation
  | .null => []
  | .blob bytes => [⟨.blob, (Bytes.hex bytes).toList⟩]
  | v => [⟨.text, v.display.toList⟩]

private theorem hexDigit?_hexDigit : ∀ n :
    Fin 16, Term.hexDigit? (Bytes.hexDigit n) = some n.val := by
  decide

private theorem hexPairs_hex (bytes : Bytes) :
    Term.hexPairs (Bytes.hex bytes).toList = some bytes := by
  rw [Bytes.hex, String.toList_ofList]
  induction bytes with
  | nil => rfl
  | cons b bytes ih =>
    have hlt := b.toNat_lt
    have hhigh := hexDigit?_hexDigit ⟨b.toNat / 16, by omega⟩
    have hlow := hexDigit?_hexDigit ⟨b.toNat % 16, by omega⟩
    simp only [List.flatMap_cons, List.cons_append, List.nil_append, Term.hexPairs, hhigh, hlow, ih,
      Nat.div_add_mod, UInt8.ofNat_toNat]

private theorem ofValue_standsFor (v : Value) :
    List.Forall₂ StandsFor (ofValue v) (if v.isNull then [] else [v]) := by
  cases v with
  | null => exact .nil
  | blob bytes => exact .cons ⟨bytes, rfl, hexPairs_hex bytes⟩ .nil
  | integer i => exact .cons ⟨by simp, String.ofList_toList⟩ .nil
  | real x => exact .cons ⟨by simp, String.ofList_toList⟩ .nil
  | text s => exact .cons ⟨by simp, String.ofList_toList⟩ .nil
  | boolean b => exact .cons ⟨by simp, String.ofList_toList⟩ .nil

theorem flatMap_standsFor (values : List Value) :
    List.Forall₂ StandsFor (values.flatMap ofValue) (values.filter fun v => !v.isNull) := by
  induction values with
  | nil => exact .nil
  | cons v values ih =>
    have hsplit : (v :: values).filter (fun v => !v.isNull) =
        (if v.isNull then [] else [v]) ++ values.filter fun v => !v.isNull := by
      cases hv : v.isNull <;> simp [hv]
    rw [hsplit, List.flatMap_cons]
    exact List.rel_append (ofValue_standsFor v) ih

end Quotation

/-- Where a scan stands between two pieces of a text. -/
inductive Stance where
  /-- Not within a quotation. -/
  | resting
  /-- Right after a character that belongs to no word and no quotation. -/
  | parted

def Stance.Holds : Stance → Scan → List Quotation → Prop
  | resting, s, read => s.finish = some read
  | parted, s, read => s = ⟨read, .outside .apart⟩

private theorem Stance.Holds.rests {stance : Stance} {s : Scan} {read : List Quotation}
    (h : stance.Holds s read) : resting.Holds s read := by
  cases stance with
  | resting => exact h
  | parted =>
    subst h
    rfl

/-- A piece of text that takes a scan from one stance to another and adds the quotations of the
given values, besides names. -/
def Carries (before after : Stance) (cs : List Char) (values : List Value) : Prop :=
  ∀ s read, before.Holds s read → ∃ found, after.Holds (cs.foldl Scan.step s) (read ++ found) ∧
    found.filter Quotation.isData = values.flatMap Quotation.ofValue

namespace Carries

theorem append {a b c : Stance} {cs ds : List Char} {vs ws : List Value} (h : Carries a b cs vs)
    (h' : Carries b c ds ws) : Carries a c (cs ++ ds) (vs ++ ws) := by
  intro s read hs
  obtain ⟨found, hb, hfound⟩ := h s read hs
  obtain ⟨found', hc, hfound'⟩ := h' _ _ hb
  refine ⟨found ++ found', ?_, ?_⟩
  · rwa [List.foldl_append, ← List.append_assoc]
  · rw [List.filter_append, List.flatMap_append, hfound, hfound']

theorem nil (a : Stance) : Carries a a [] [] := fun s read hs => ⟨[], by simpa using hs, rfl⟩

theorem anywhere {a b : Stance} {cs : List Char} {vs : List Value} (h : Carries .resting b cs vs) :
    Carries a b cs vs := fun s read hs => h s read hs.rests

theorem rests {a b : Stance} {cs : List Char} {vs : List Value} (h : Carries a b cs vs) :
    Carries a .resting cs vs := by
  intro s read hs
  obtain ⟨found, hb, hfound⟩ := h s read hs
  exact ⟨found, hb.rests, hfound⟩

end Carries

theorem Scan.step_plain {s : Scan} {read : List Quotation} (hs : s.finish = some read) {c : Char}
    (hc : isQuote c = false) : ∃ before, s.step c = ⟨read, .outside before⟩ ∧
      (Term.isNameChar c = false → before = .apart) := by
  have hbegun (before : Outside) : ∃ after, begun before c = .outside after ∧
      (Term.isNameChar c = false → after = .apart) := by
    have hne : c ≠ '\'' ∧ c ≠ '\x60' := by
      constructor <;> rintro rfl <;> cases hc
    simp only [begun, hne, if_false]
    split
    · next hx =>
      refine ⟨_, rfl, fun hn => ?_⟩
      rcases hx.2 with rfl | rfl <;> exact absurd hn (by decide)
    · exact ⟨_, rfl, fun hn => by simp [hn]⟩
  obtain ⟨found, place⟩ := s
  cases place with
  | outside before =>
    obtain ⟨after, hafter, hn⟩ := hbegun before
    obtain rfl : found = read := Option.some.inj hs
    exact ⟨after, by simp [step, hafter], hn⟩
  | within mark body => cases hs
  | closed mark body =>
    obtain ⟨after, hafter, hn⟩ := hbegun .apart
    have hread : found ++ [⟨mark, body⟩] = read := Option.some.inj hs
    subst hread
    have hne : c ≠ mark.quote := by
      rintro rfl
      cases mark <;> cases hc
    exact ⟨after, by simp [step, hne, hafter], hn⟩

/-- A text without quotes of any kind. -/
def Unquoted (s : String) : Prop := ∀ c ∈ s.toList, isQuote c = false

instance (s : String) : Decidable (Unquoted s) :=
  decidable_of_iff ((s.toList.all fun c => !isQuote c) = true) (by simp [Unquoted])

private theorem plain_carries {cs : List Char} (h : ∀ c ∈ cs, isQuote c = false) :
    Carries .resting .resting cs [] := by
  induction cs with
  | nil => exact .nil _
  | cons c cs ih =>
    obtain ⟨hc, hcs⟩ := List.forall_mem_cons.mp h
    have hfirst : Carries .resting .resting [c] [] := by
      intro s read hs
      obtain ⟨before, hstep, -⟩ := Scan.step_plain hs hc
      refine ⟨[], ?_, rfl⟩
      rw [List.append_nil, List.foldl_cons, List.foldl_nil, hstep]
      rfl
    exact hfirst.append (ih hcs)

theorem Unquoted.carries {s : String} (h : Unquoted s) :
    Carries .resting .resting s.toList [] := plain_carries h

theorem separator_carries {cs : List Char} (h : ∀ c ∈ cs, isQuote c = false) {c : Char}
    (hc : isQuote c = false) (hn : Term.isNameChar c = false) :
    Carries .resting .parted (cs ++ [c]) [] := by
  have hlast : Carries .resting .parted [c] [] := by
    intro s read hs
    obtain ⟨before, hstep, hbefore⟩ := Scan.step_plain hs hc
    refine ⟨[], ?_, rfl⟩
    rw [List.append_nil, List.foldl_cons, List.foldl_nil, hstep, hbefore hn]
    rfl
  exact (plain_carries h).append hlast

theorem Scan.foldl_doubled (read : List Quotation) (mark : Mark) (body cs : List Char) :
    (Text.doubled mark.quote cs ++ [mark.quote]).foldl step ⟨read, .within mark body⟩ =
      ⟨read, .closed mark (body ++ cs)⟩ := by
  induction cs generalizing body with
  | nil => simp [Text.doubled, step]
  | cons c cs ih =>
    by_cases hc : c = mark.quote
    · simp [Text.doubled, hc, step, ih]
    · simp [Text.doubled, hc, step, ih]

theorem Scan.foldl_quoted (before : Outside) (mark : Mark) (h : begun before mark.quote =
    .within mark []) (read : List Quotation) (cs : List Char) :
    (mark.quote :: (Text.doubled mark.quote cs ++ [mark.quote])).foldl step
      ⟨read, .outside before⟩ = ⟨read, .closed mark cs⟩ := by
  have hbody := foldl_doubled read mark [] cs
  rw [List.foldl_cons]
  simpa only [step, h, List.nil_append] using hbody

private theorem inQuotes_carries {v : Value}
    (h : Quotation.ofValue v = [⟨.text, v.display.toList⟩]) :
    Carries .parted .resting (Value.inQuotes v.display).toList [v] := by
  rintro _ read rfl
  have hquoted := Scan.foldl_quoted .apart .text rfl read v.display.toList
  refine ⟨[⟨.text, v.display.toList⟩], ?_, by simp [h, Quotation.isData]⟩
  rw [Value.inQuotes, String.toList_ofList]
  exact congrArg Scan.finish hquoted

private theorem blob_carries (bytes : Bytes) :
    Carries .parted .resting (Value.blob bytes).display.toList [.blob bytes] := by
  rintro _ read rfl
  have htext : (Value.blob bytes).display.toList =
      'X' :: '\'' :: ((Bytes.hex bytes).toList ++ ['\'']) := by
    simp [Value.display, String.toList_append]
  have hquoted := Scan.foldl_quoted .marker .blob rfl read
    (Bytes.hex bytes).toList
  have hhex : Text.doubled Mark.blob.quote (Bytes.hex bytes).toList = (Bytes.hex bytes).toList :=
    doubled_of_not_mem (quote_not_mem_hex bytes)
  rw [hhex] at hquoted
  refine ⟨[⟨.blob, (Bytes.hex bytes).toList⟩], ?_, by simp [Quotation.ofValue, Quotation.isData]⟩
  rw [htext]
  exact congrArg Scan.finish hquoted

theorem quotedLiteral_carries (v : Value) :
    Carries .parted .resting v.quotedLiteral.toList [v] := by
  cases v with
  | null =>
    have hnull : Unquoted Value.null.display := by decide
    exact hnull.carries.anywhere
  | blob bytes => exact blob_carries bytes
  | integer i => exact inQuotes_carries rfl
  | real x => exact inQuotes_carries rfl
  | text s => exact inQuotes_carries rfl
  | boolean b => exact inQuotes_carries rfl

theorem quoteIdentifier_carries (name : String) :
    Carries .parted .resting (quoteIdentifier name).toList [] := by
  unfold quoteIdentifier
  split
  · next h =>
    have hchars := plainIdentifier_wordChars (Bool.and_eq_true_iff.mp h).1
    exact (plain_carries fun c hc => isQuote_of_isWordChar (hchars c hc)).anywhere
  · rintro _ read rfl
    have hquoted := Scan.foldl_quoted .apart .name rfl read name.toList
    refine ⟨[⟨.name, name.toList⟩], ?_, rfl⟩
    rw [String.toList_ofList]
    exact congrArg Scan.finish hquoted

end RecordGateway
