import RecordGateway.Proofs.Reading.Lexeme
/-!
# Texts without structure

Raw text without quotes, parentheses and connectives, literals of any value and numbered
placeholders have no part in the structure of the formula that they stand in.
-/
namespace RecordGateway

/-- The words of a text: what is left between the characters that belong to no name. -/
def nameWords (cs : List Char) : List (List Char) :=
  cs.splitOnP fun c => !Term.isNameChar c

/-- A text without quotes, parentheses and the words AND and OR. -/
structure Unstructured (s : String) : Prop where
  characters : ∀ c ∈ s.toList, isQuote c = false ∧ c ≠ '(' ∧ c ≠ ')'
  words : ∀ word ∈ nameWords s.toList, connective? word = none

instance (s : String) : Decidable (Unstructured s) :=
  decidable_of_iff ((s.toList.all fun c => !isQuote c && c != '(' && c != ')') = true ∧
      ((nameWords s.toList).all fun word => connective? word == none) = true) <| by
    simp only [List.all_eq_true, Bool.and_eq_true, Bool.not_eq_true', bne_iff_ne, beq_iff_eq,
      and_assoc]
    exact ⟨fun h => ⟨h.1, h.2⟩, fun h => ⟨h.characters, h.words⟩⟩

section Words

def plainShades (cs : List Char) : List (Shade × Char) := cs.map fun c => (.ofChar c, c)

/-- The first of some lexemes has the given word, or there is none, and the other names have their
words among the given ones. -/
def Words (word : List Char) (words : List (List Char)) : List Lexeme → Prop
  | [] => word = []
  | l :: ls => (if l.shade = .name then l.letters = word else word = []) ∧
    ∀ l' ∈ ls, l'.shade = .name → l'.letters ∈ words

private theorem Words.prepend_name {word : List Char} {words : List (List Char)} {ls : List Lexeme}
    (h : Words word words ls) (c : Char) : Words (c :: word) words (prepend .name c ls) := by
  cases ls with
  | nil =>
    have hw : word = [] := h
    exact ⟨by simp [hw], by simp⟩
  | cons l ls =>
    obtain ⟨hfirst, hrest⟩ := h
    by_cases hl : l.shade = .name
    · rw [if_pos hl] at hfirst
      have hp : prepend .name c (l :: ls) = ⟨.name, c :: l.letters⟩ :: ls := by
        simp [prepend, Shade.runs, hl]
      rw [hp, ← hfirst]
      exact ⟨rfl, hrest⟩
    · rw [if_neg hl] at hfirst
      have hp : prepend .name c (l :: ls) = ⟨.name, [c]⟩ :: l :: ls := by
        simp [prepend, Ne.symm hl]
      rw [hp, hfirst]
      exact ⟨rfl, List.forall_mem_cons.mpr ⟨fun h => absurd h hl, hrest⟩⟩

private theorem Words.prepend_other {word : List Char} {words : List (List Char)} {ls : List Lexeme}
    (h : Words word words ls) {shade : Shade} (hs : shade ≠ .name) (c : Char) :
    Words [] (word :: words) (prepend shade c ls) := by
  cases ls with
  | nil => exact ⟨by simp [hs], by simp⟩
  | cons l ls =>
    obtain ⟨hfirst, hrest⟩ := h
    have hrest' : ∀ l' ∈ ls, l'.shade = .name → l'.letters ∈ word :: words := fun l' hl' hn =>
      List.mem_cons_of_mem _ (hrest l' hl' hn)
    simp only [prepend]
    split
    · exact ⟨by simp [hs], hrest'⟩
    · refine ⟨by simp [hs], List.forall_mem_cons.mpr ⟨fun hn => ?_, hrest'⟩⟩
      rw [if_pos hn] at hfirst
      rw [hfirst]
      exact List.mem_cons_self

private theorem gather_words (cs : List Char) : ∃ word words,
    nameWords cs = word :: words ∧ Words word words (gather (plainShades cs)) := by
  induction cs with
  | nil => exact ⟨[], [], rfl, rfl⟩
  | cons c cs ih =>
    obtain ⟨word, words, hsplit, hwords⟩ := ih
    have hgather : gather (plainShades (c :: cs)) =
      prepend (.ofChar c) c (gather (plainShades cs)) := rfl
    rw [nameWords] at hsplit
    rw [hgather, nameWords, List.splitOnP_cons_eq_if_modifyHead, hsplit]
    cases hn : Term.isNameChar c with
    | true =>
      rw [(Shade.ofChar_eq_name c).mpr hn]
      exact ⟨c :: word, words, rfl, hwords.prepend_name c⟩
    | false =>
      have hs : Shade.ofChar c ≠ .name := fun h => by
        rw [(Shade.ofChar_eq_name c).mp h] at hn
        cases hn
      exact ⟨[], word :: words, rfl, hwords.prepend_other hs c⟩

theorem letters_mem_nameWords {cs : List Char} {l : Lexeme} (hl : l ∈ gather (plainShades cs))
    (hn : l.shade = .name) : l.letters ∈ nameWords cs := by
  obtain ⟨word, words, hsplit, hwords⟩ := gather_words cs
  rw [hsplit]
  cases hg : gather (plainShades cs) with
  | nil => simp [hg] at hl
  | cons first rest =>
    rw [hg] at hwords hl
    obtain ⟨hfirst, hrest⟩ := hwords
    rcases List.mem_cons.mp hl with rfl | hl
    · rw [if_pos hn] at hfirst
      rw [hfirst]
      exact List.mem_cons_self
    · exact List.mem_cons_of_mem _ (hrest l hl hn)

end Words

private theorem shades_plain {cs : List Char}
    (h : ∀ c ∈ cs, isQuote c = false ∧ c ≠ '(' ∧ c ≠ ')') :
    shades none cs = plainShades cs ∧ openAfter none cs = none := by
  induction cs with
  | nil => exact ⟨rfl, rfl⟩
  | cons c cs ih =>
    obtain ⟨hc, hcs⟩ := List.forall_mem_cons.mp h
    obtain ⟨hshades, hopen⟩ := ih hcs
    have hopened : (Shade.ofChar c).opened = none := by
      rcases Shade.ofChar_plain hc with hs | hs | hs <;> rw [hs] <;> rfl
    rw [shades, openAfter, hopened, hshades, hopen]
    exact ⟨rfl, rfl⟩

theorem Unstructured.flat {s : String} (h : Unstructured s) : ∃ ls, Flat s.toList ls := by
  obtain ⟨hshades, hopen⟩ := shades_plain h.characters
  refine ⟨_, lexemes_eq_some.mpr ⟨hopen, rfl⟩, ?_⟩
  rw [hshades]
  intro l hl
  have hl := (List.mem_filter.mp hl).1
  obtain ⟨x, hx, hs⟩ := gather_shade hl
  obtain ⟨c, hc, rfl⟩ := List.mem_map.mp hx
  rcases Shade.ofChar_plain (h.characters c hc) with hp | hp | hp
  · have hname : l.shade = .name := hs.symm.trans hp
    have hword := h.words _ (letters_mem_nameWords hl hname)
    simp [Lexeme.role, hname, hword]
  · have hblank : l.shade = .blank := hs.symm.trans hp
    simp [Lexeme.role, hblank]
  · have hsign : l.shade = .sign := hs.symm.trans hp
    simp [Lexeme.role, hsign]

theorem Unstructured.lexemes_ne_nil {s : String} (h : Unstructured s) {c : Char}
    (hc : c ∈ s.toList) (hb : Text.isAsciiBlank c = false) : lexemes s.toList ≠ some [] := by
  obtain ⟨hshades, -⟩ := shades_plain h.characters
  intro hl
  obtain ⟨-, hl⟩ := lexemes_eq_some.mp hl
  rw [hshades, List.filter_eq_nil_iff] at hl
  obtain ⟨l, hmem, hs⟩ := gather_has_shade (List.mem_map.mpr ⟨c, hc, rfl⟩ :
    (Shade.ofChar c, c) ∈ plainShades s.toList)
  have hblank : l.shade = .blank := by simpa using hl l hmem
  exact Shade.ofChar_ne_blank hb (hs.symm.trans hblank)

theorem shades_doubled {quote : Char} (hq : isQuote quote = true) (cs : List Char) :
    (∀ x ∈ shades (some quote) (Text.doubled quote cs ++ [quote]), x.1 = .quoted quote) ∧
      openAfter (some quote) (Text.doubled quote cs ++ [quote]) = none := by
  induction cs with
  | nil => simp [Text.doubled, shades, openAfter]
  | cons c cs ih =>
    obtain ⟨hshades, hopen⟩ := ih
    by_cases hc : c = quote
    · subst hc
      have hopened : (Shade.ofChar c).opened = some c := by rw [Shade.ofChar_quote hq]; rfl
      simp only [Text.doubled, if_true, List.cons_append, shades, openAfter, hopened]
      refine ⟨?_, hopen⟩
      exact List.forall_mem_cons.mpr ⟨rfl,
        List.forall_mem_cons.mpr ⟨Shade.ofChar_quote hq, hshades⟩⟩
    · simp only [Text.doubled, hc, if_false, List.cons_append, shades, openAfter]
      exact ⟨List.forall_mem_cons.mpr ⟨rfl, hshades⟩, hopen⟩

private theorem shades_inQuotes {quote : Char} (hq : isQuote quote = true) (cs : List Char) :
    (∀ x ∈ shades none (quote :: (Text.doubled quote cs ++ [quote])), x.1 = .quoted quote) ∧
      openAfter none (quote :: (Text.doubled quote cs ++ [quote])) = none := by
  obtain ⟨hshades, hopen⟩ := shades_doubled hq cs
  have hopened : (Shade.ofChar quote).opened = some quote := by rw [Shade.ofChar_quote hq]; rfl
  simp only [shades, openAfter, hopened]
  exact ⟨List.forall_mem_cons.mpr ⟨Shade.ofChar_quote hq, hshades⟩, hopen⟩

private theorem inQuotes_flat (s : String) : ∃ ls, Flat (Value.inQuotes s).toList ls := by
  obtain ⟨hshades, hopen⟩ := shades_inQuotes (show isQuote '\'' = true from rfl) s.toList
  rw [Value.inQuotes, String.toList_ofList]
  refine ⟨_, lexemes_eq_some.mpr ⟨hopen, rfl⟩, fun l hl => ?_⟩
  obtain ⟨x, hx, hs⟩ := gather_shade (List.mem_filter.mp hl).1
  have hquoted : l.shade = .quoted '\'' := hs.symm.trans (hshades x hx)
  simp [Lexeme.role, hquoted]

theorem doubled_of_not_mem {quote : Char} {cs : List Char} (h : quote ∉ cs) :
    Text.doubled quote cs = cs := by
  induction cs with
  | nil => rfl
  | cons c cs ih =>
    obtain ⟨hc, hcs⟩ := List.ne_and_not_mem_of_not_mem_cons h
    rw [Text.doubled, if_neg (Ne.symm hc), ih hcs]

theorem quote_not_mem_hex (bytes : Bytes) : '\'' ∉ (Bytes.hex bytes).toList := by
  have hdigit (n : Nat) (hn : n < 16) : Bytes.hexDigit n ≠ '\'' := by
    have hall : ∀ n : Fin 16, Bytes.hexDigit n ≠ '\'' := by decide
    exact hall ⟨n, hn⟩
  rw [Bytes.hex, String.toList_ofList, List.mem_flatMap]
  rintro ⟨b, -, hb⟩
  have hlt := b.toNat_lt
  simp only [List.mem_cons, List.not_mem_nil, or_false] at hb
  rcases hb with hb | hb
  · exact hdigit _ (by omega) hb.symm
  · exact hdigit _ (by omega) hb.symm

private theorem blob_flat (bytes : Bytes) : ∃ ls, Flat (Value.blob bytes).display.toList ls := by
  obtain ⟨hshades, hopen⟩ :=
    shades_inQuotes (show isQuote '\'' = true from rfl) (Bytes.hex bytes).toList
  rw [doubled_of_not_mem (quote_not_mem_hex bytes)] at hshades hopen
  have htext : (Value.blob bytes).display.toList =
      'X' :: '\'' :: ((Bytes.hex bytes).toList ++ ['\'']) := by
    simp [Value.display, String.toList_append]
  rw [htext]
  refine ⟨_, lexemes_eq_some.mpr ⟨hopen, rfl⟩, fun l hl => ?_⟩
  have hquoted : ∀ l ∈ gather (shades none ('\'' :: ((Bytes.hex bytes).toList ++ ['\'']))),
      l.shade = .quoted '\'' := by
    intro l hl
    obtain ⟨x, hx, hs⟩ := gather_shade hl
    exact hs.symm.trans (hshades x hx)
  have hl : l ∈ prepend .name 'X'
    (gather (shades none ('\'' :: ((Bytes.hex bytes).toList ++ ['\''])))) :=
      (List.mem_filter.mp hl).1
  rw [prepend_apart fun l hl => by simp [hquoted l hl]] at hl
  rcases List.mem_cons.mp hl with rfl | hl
  · decide
  · simp [Lexeme.role, hquoted l hl]

theorem quotedLiteral_flat (v : Value) : ∃ ls, Flat v.quotedLiteral.toList ls := by
  cases v with
  | null => exact ⟨[⟨.name, ['N', 'U', 'L', 'L']⟩], by decide, by decide⟩
  | blob bytes => exact blob_flat bytes
  | _ => exact inQuotes_flat _

private theorem connective?_eq_none {c : Char} (hc : c.toUpper ≠ 'A' ∧ c.toUpper ≠ 'O')
    (cs : List Char) :
    connective? (c :: cs) = none := by
  have hword (word : String) (h : Text.upper (String.ofList (c :: cs)) = word) :
      word.toList.head? = some c.toUpper := by
    rw [← h, Text.upper, String.toList_ofList, String.toList_ofList]
    rfl
  unfold connective?
  split
  · next h => exact absurd (hword _ h) (by simpa using Ne.symm hc.1)
  · next h => exact absurd (hword _ h) (by simpa using Ne.symm hc.2)
  · rfl

theorem placeholder_unstructured (n : Nat) : Unstructured (placeholder n) := by
  have htext : (placeholder n).toList = ':' :: '_' :: n.repr.toList := by
    simp [placeholder, String.toList_append]
  have hname : ∀ c ∈ '_' :: n.repr.toList, Term.isNameChar c = true := by
    refine List.forall_mem_cons.mpr ⟨by decide, fun c hc => ?_⟩
    rw [Nat.toList_repr] at hc
    have hd : c.isDigit := Nat.isDigit_of_mem_toDigits (by decide) (by decide) hc
    simp [Term.isNameChar, isWordChar, Char.isAlphanum, hd]
  constructor
  · rw [htext]
    refine List.forall_mem_cons.mpr ⟨by decide, fun c hc => ?_⟩
    have hc := hname c hc
    refine ⟨?_, ?_, ?_⟩
    · cases hq : isQuote c with
      | false => rfl
      | true =>
        have hshade := (Shade.ofChar_quote hq).symm.trans ((Shade.ofChar_eq_name c).mpr hc)
        cases hshade
    · rintro rfl
      exact absurd hc (by decide)
    · rintro rfl
      exact absurd hc (by decide)
  · have hwords : nameWords (':' :: '_' :: n.repr.toList) = [[], '_' :: n.repr.toList] := by
      have hcolon : (!Term.isNameChar ':') = true := by decide
      rw [nameWords, List.splitOnP_cons_eq_if_modifyHead, if_pos hcolon, List.splitOnP_eq_singleton]
      intro c hc
      simp [hname c hc]
    rw [htext, hwords]
    refine List.forall_mem_cons.mpr ⟨rfl, List.forall_mem_cons.mpr ⟨?_, by simp⟩⟩
    exact connective?_eq_none (by decide) _

end RecordGateway
