import RecordGateway.Predicate
import RecordGateway.Store.Term
/-!
# Lexemes

SQL text falls into names, quoted texts, parentheses and other signs, with white space between
them.
-/
namespace RecordGateway

inductive Shade where
  | blank
  | opening
  | closing
  | name
  | quoted (quote : Char)
  | sign
deriving DecidableEq

def isQuote (c : Char) : Bool := c == '\'' || c == '"' || c == '\x60'

theorem isQuote_of_isWordChar {c : Char} (h : isWordChar c) : isQuote c = false := by
  cases hq : isQuote c with
  | false => rfl
  | true =>
    have hcases : (c = '\'' ∨ c = '"') ∨ c = '\x60' := by simpa [isQuote] using hq
    rcases hcases with (rfl | rfl) | rfl <;> cases h

theorem wordStart_wordChar {c : Char} (h : isWordStart c = true) : isWordChar c = true := by
  have hstart : c.isAlpha = true ∨ c = '_' := by simpa [isWordStart] using h
  rcases hstart with hc | rfl
  · simp [isWordChar, Char.isAlphanum, hc]
  · rfl

theorem plainIdentifier_wordChars {cs : List Char} (h : isPlainIdentifier cs = true) :
    ∀ c ∈ cs, isWordChar c = true := by
  cases cs with
  | nil => cases h
  | cons c rest =>
    obtain ⟨hfirst, hrest⟩ := Bool.and_eq_true_iff.mp h
    exact List.forall_mem_cons.mpr ⟨wordStart_wordChar hfirst, List.all_eq_true.mp hrest⟩

namespace Shade

/-- The shade of a character outside of quoted text. -/
def ofChar (c : Char) : Shade :=
  if Term.isNameChar c then name
  else if isQuote c then quoted c
  else if c = '(' then opening
  else if c = ')' then closing
  else if Text.isAsciiBlank c then blank
  else sign

/-- Adjacent characters of the shade belong together. -/
def runs : Shade → Bool
  | blank => false
  | opening => false
  | closing => false
  | name => true
  | quoted _ => true
  | sign => true

/-- The quote that is open after a first character of the shade. -/
def opened : Shade → Option Char
  | quoted quote => some quote
  | _ => none

private theorem opened_of_not_runs {s : Shade} (h : s.runs = false) : s.opened = none := by
  cases s with
  | quoted quote => cases h
  | _ => rfl

theorem ofChar_eq_name (c : Char) : ofChar c = name ↔ Term.isNameChar c = true := by
  unfold ofChar
  split <;> rename_i hn
  · simp [hn]
  · simp only [hn]
    split <;> (try split) <;> (try split) <;> (try split) <;> simp

theorem ofChar_plain {c : Char} (h : isQuote c = false ∧ c ≠ '(' ∧ c ≠ ')') :
    ofChar c = name ∨ ofChar c = blank ∨ ofChar c = sign := by
  obtain ⟨hquote, hopening, hclosing⟩ := h
  unfold ofChar
  rw [hquote, if_neg hopening, if_neg hclosing]
  cases Term.isNameChar c <;> cases Text.isAsciiBlank c <;> simp

theorem ofChar_ne_blank {c : Char} (h : Text.isAsciiBlank c = false) : ofChar c ≠ blank := by
  unfold ofChar
  rw [h]
  split <;> (try split) <;> (try split) <;> (try split) <;> simp

theorem ofChar_quote {c : Char} (h : isQuote c = true) : ofChar c = quoted c := by
  have hcases : (c = '\'' ∨ c = '"') ∨ c = '\x60' := by simpa [isQuote] using h
  rcases hcases with (rfl | rfl) | rfl <;> rfl

end Shade

structure Lexeme where
  shade : Shade
  letters : List Char
deriving DecidableEq

/-- The shades of the characters of a text, given the quote that is open before it. -/
def shades : Option Char → List Char → List (Shade × Char)
  | _, [] => []
  | none, c :: rest => (.ofChar c, c) :: shades (Shade.ofChar c).opened rest
  | some quote, c :: rest =>
    (.quoted quote, c) :: shades (if c = quote then none else some quote) rest

def openAfter : Option Char → List Char → Option Char
  | quote, [] => quote
  | none, c :: rest => openAfter (Shade.ofChar c).opened rest
  | some quote, c :: rest => openAfter (if c = quote then none else some quote) rest

def prepend (shade : Shade) (c : Char) : List Lexeme → List Lexeme
  | [] => [⟨shade, [c]⟩]
  | next :: others =>
    if shade.runs && shade == next.shade then ⟨shade, c :: next.letters⟩ :: others
    else ⟨shade, [c]⟩ :: next :: others

def gather : List (Shade × Char) → List Lexeme
  | [] => []
  | (shade, c) :: rest => prepend shade c (gather rest)

/-- The lexemes of a text, if all its quotes are closed. -/
def lexemes (cs : List Char) : Option (List Lexeme) :=
  if openAfter none cs = none then
    some ((gather (shades none cs)).filter fun l => l.shade != .blank)
  else none

theorem lexemes_eq_some {cs : List Char} {ls : List Lexeme} : lexemes cs = some ls ↔
    openAfter none cs = none ∧
      (gather (shades none cs)).filter (fun l => l.shade != .blank) = ls := by
  unfold lexemes
  split <;> simp [*]

private theorem shades_append (quote : Option Char) (cs ds : List Char) :
    shades quote (cs ++ ds) = shades quote cs ++ shades (openAfter quote cs) ds := by
  induction cs generalizing quote with
  | nil => cases quote <;> simp [shades, openAfter]
  | cons c cs ih => cases quote <;> simp [shades, openAfter, ih]

private theorem openAfter_append (quote : Option Char) (cs ds : List Char) :
    openAfter quote (cs ++ ds) = openAfter (openAfter quote cs) ds := by
  induction cs generalizing quote with
  | nil => cases quote <;> simp [openAfter]
  | cons c cs ih => cases quote <;> simp [openAfter, ih]

section Gather

private theorem prepend_of_not_runs {shade : Shade} (h : shade.runs = false) (c : Char)
    (ls : List Lexeme) : prepend shade c ls = ⟨shade, [c]⟩ :: ls := by
  cases ls <;> simp [prepend, h]

theorem prepend_apart {shade : Shade} {c : Char} {ls : List Lexeme}
    (h : ∀ l ∈ ls, l.shade ≠ shade) : prepend shade c ls = ⟨shade, [c]⟩ :: ls := by
  cases ls with
  | nil => rfl
  | cons next others => simp [prepend, Ne.symm (h next List.mem_cons_self)]

private theorem prepend_append (shade : Shade) (c : Char) {ls : List Lexeme} (h : ls ≠ [])
    (ms : List Lexeme) : prepend shade c (ls ++ ms) = prepend shade c ls ++ ms := by
  obtain ⟨next, others, rfl⟩ := List.exists_cons_of_ne_nil h
  simp only [List.cons_append, prepend]
  split <;> rfl

private theorem prepend_before {last : Lexeme} (h : last.shade.runs = false) (shade : Shade)
    (c : Char)
    (ms : List Lexeme) : prepend shade c (last :: ms) = ⟨shade, [c]⟩ :: last :: ms := by
  have hne : (shade.runs && shade == last.shade) = false := by
    by_cases hs : shade = last.shade
    · simp [hs, h]
    · simp [hs]
  simp [prepend, hne]

theorem gather_split {shade : Shade} (h : shade.runs = false) (c : Char)
    (xs ys : List (Shade × Char)) :
    gather (xs ++ (shade, c) :: ys) = gather xs ++ ⟨shade, [c]⟩ :: gather ys := by
  induction xs with
  | nil => exact prepend_of_not_runs h c (gather ys)
  | cons x xs ih =>
    simp only [List.cons_append, gather, ih]
    by_cases hx : gather xs = []
    · rw [hx, List.nil_append]
      exact prepend_before h _ _ _
    · exact prepend_append _ _ hx _

private theorem mem_prepend_shade {shade : Shade} {c : Char} {ls : List Lexeme} {l : Lexeme}
    (h : l ∈ prepend shade c ls) : l.shade = shade ∨ l ∈ ls := by
  cases ls with
  | nil => exact .inl (by simpa [prepend] using congrArg Lexeme.shade (List.mem_singleton.mp h))
  | cons next others =>
    simp only [prepend] at h
    split at h
    · rcases List.mem_cons.mp h with rfl | h
      · exact .inl rfl
      · exact .inr (List.mem_cons_of_mem _ h)
    · rcases List.mem_cons.mp h with rfl | h
      · exact .inl rfl
      · exact .inr h

theorem gather_shade {xs : List (Shade × Char)} {l : Lexeme} (h : l ∈ gather xs) :
    ∃ x ∈ xs, x.1 = l.shade := by
  induction xs with
  | nil => simp [gather] at h
  | cons x xs ih =>
    rcases mem_prepend_shade h with hs | h
    · exact ⟨x, List.mem_cons_self, hs.symm⟩
    · obtain ⟨y, hy, hs⟩ := ih h
      exact ⟨y, List.mem_cons_of_mem _ hy, hs⟩

private theorem prepend_shades (shade : Shade) (c : Char) (ls : List Lexeme) :
    ∀ s, s = shade ∨ (∃ l ∈ ls, l.shade = s) → ∃ l ∈ prepend shade c ls, l.shade = s := by
  intro s hs
  cases ls with
  | nil => simpa [prepend, eq_comm] using hs
  | cons next others =>
    simp only [prepend]
    split
    · next hrun =>
      have hnext : next.shade = shade := by
        simp only [Bool.and_eq_true, beq_iff_eq] at hrun
        exact hrun.2.symm
      rcases hs with rfl | ⟨l, hl, rfl⟩
      · exact ⟨_, List.mem_cons_self, rfl⟩
      · rcases List.mem_cons.mp hl with rfl | hl
        · exact ⟨_, List.mem_cons_self, hnext.symm⟩
        · exact ⟨l, List.mem_cons_of_mem _ hl, rfl⟩
    · rcases hs with rfl | ⟨l, hl, rfl⟩
      · exact ⟨_, List.mem_cons_self, rfl⟩
      · exact ⟨l, List.mem_cons_of_mem _ hl, rfl⟩

theorem gather_has_shade {xs : List (Shade × Char)} {x : Shade × Char} (h : x ∈ xs) :
    ∃ l ∈ gather xs, l.shade = x.1 := by
  induction xs with
  | nil => cases h
  | cons y xs ih =>
    refine prepend_shades y.1 y.2 (gather xs) x.1 ?_
    rcases List.mem_cons.mp h with rfl | h
    · exact .inl rfl
    · exact .inr (ih h)

end Gather

theorem lexemes_nil : lexemes [] = some [] := rfl

theorem lexemes_split {c : Char} (hc : (Shade.ofChar c).runs = false) {cs ds : List Char}
    {ls ms : List Lexeme} (hcs : lexemes cs = some ls) (hds : lexemes ds = some ms) :
    lexemes (cs ++ c :: ds) =
      some (ls ++ (([⟨Shade.ofChar c, [c]⟩] : List Lexeme).filter fun l => l.shade != .blank) ++
        ms) := by
  obtain ⟨hclosed, hls⟩ := lexemes_eq_some.mp hcs
  obtain ⟨hclosed', hms⟩ := lexemes_eq_some.mp hds
  have hopened := Shade.opened_of_not_runs hc
  refine lexemes_eq_some.mpr ⟨?_, ?_⟩
  · rw [openAfter_append, hclosed, openAfter, hopened, hclosed']
  · rw [shades_append, hclosed, shades, hopened, gather_split hc, List.filter_append, hls,
      ← List.singleton_append, List.filter_append, hms, List.append_assoc]

theorem lexemes_blank {cs ds : List Char} {ls ms : List Lexeme} (hcs : lexemes cs = some ls)
    (hds : lexemes ds = some ms) : lexemes (cs ++ ' ' :: ds) = some (ls ++ ms) := by
  have h := lexemes_split (c := ' ') (by decide) hcs hds
  rwa [show ([⟨Shade.ofChar ' ', [' ']⟩] : List Lexeme).filter (fun l => l.shade != .blank) = []
    from by decide, List.append_nil] at h

theorem lexemes_parentheses {cs : List Char} {ls : List Lexeme} (hcs : lexemes cs = some ls) :
    lexemes ('(' :: cs ++ [')']) = some (⟨.opening, ['(']⟩ :: ls ++ [⟨.closing, [')']⟩]) := by
  have hopen := lexemes_split (c := '(') (by decide) lexemes_nil hcs
  have hclose := lexemes_split (c := ')') (by decide) hopen lexemes_nil
  rw [List.append_nil] at hclose
  exact hclose

/-- How a lexeme counts in a formula. -/
inductive Role where
  | plain
  | opening
  | closing
  | connective (operator : Connective)
deriving DecidableEq

/-- The connective that a name stands for. -/
def connective? (name : List Char) : Option Connective :=
  match Text.upper (String.ofList name) with
  | "AND" => some .and
  | "OR" => some .or
  | _ => none

def Lexeme.role (l : Lexeme) : Role :=
  match l.shade with
  | .opening => .opening
  | .closing => .closing
  | .name => ((connective? l.letters).map Role.connective).getD .plain
  | _ => .plain

/-- A text whose lexemes have no part in the structure of a formula. -/
structure Flat (cs : List Char) (ls : List Lexeme) : Prop where
  read : lexemes cs = some ls
  plain : ∀ l ∈ ls, l.role = .plain

theorem Flat.blank {cs ds : List Char} {ls ms : List Lexeme} (h : Flat cs ls) (h' : Flat ds ms) :
    Flat (cs ++ ' ' :: ds) (ls ++ ms) where
  read := lexemes_blank h.read h'.read
  plain l hl := (List.mem_append.mp hl).elim (h.plain l) (h'.plain l)

end RecordGateway
