import RecordGateway.Proofs.Store.Terms
import RecordGateway.Store.Word
/-! # Words that are told apart -/
namespace RecordGateway

namespace Text

private theorem dropWhile_split (p : Char → Bool) (cs : List Char) :
    ∃ front, (∀ c ∈ front, p c = true) ∧ cs = front ++ cs.dropWhile p :=
  ⟨cs.takeWhile p, List.all_eq_true.mp List.all_takeWhile, List.takeWhile_append_dropWhile.symm⟩

theorem trimAscii_split (s : String) : ∃ front back,
    (∀ c ∈ front, isAsciiBlank c = true) ∧ (∀ c ∈ back, isAsciiBlank c = true) ∧
      s.toList = front ++ (trimAscii s).toList ++ back := by
  obtain ⟨front, hfront, hs⟩ := dropWhile_split isAsciiBlank s.toList
  obtain ⟨back, hback, hrest⟩ := dropWhile_split isAsciiBlank
    (s.toList.dropWhile isAsciiBlank).reverse
  refine ⟨front, back.reverse, hfront, fun c hc => hback c (List.mem_reverse.mp hc), ?_⟩
  have hbody := congrArg List.reverse hrest
  rw [List.reverse_reverse, List.reverse_append] at hbody
  rw [trimAscii, trimBy, String.toList_ofList, List.append_assoc, ← hbody]
  exact hs

private theorem dropWhile_head?_eq_false {p : Char → Bool} {cs : List Char} {c : Char}
    (h : (cs.dropWhile p).head? = some c) : p c = false := by
  have hnot := List.head?_dropWhile_not p cs
  rwa [h] at hnot

private theorem trimAscii_head? {s : String} {c : Char} (h : (trimAscii s).toList.head? = some c) :
    isAsciiBlank c = false := by
  obtain ⟨back, -, hrest⟩ := dropWhile_split isAsciiBlank (s.toList.dropWhile isAsciiBlank).reverse
  have hbody := congrArg (fun cs : List Char => cs.reverse.head?) hrest
  simp only [List.reverse_reverse, List.reverse_append, List.head?_append] at hbody
  rw [trimAscii, trimBy, String.toList_ofList] at h
  rw [h, Option.some_or] at hbody
  exact dropWhile_head?_eq_false hbody

theorem trimAscii_getLast? {s : String} {c : Char} (h : (trimAscii s).toList.getLast? = some c) :
    isAsciiBlank c = false := by
  rw [trimAscii, trimBy, String.toList_ofList, List.getLast?_reverse] at h
  exact dropWhile_head?_eq_false h

theorem trimAscii_trimAscii (s : String) : trimAscii (trimAscii s) = trimAscii s :=
  trimAscii_eq (fun _ => trimAscii_head?) fun _ => trimAscii_getLast?

end Text

theorem Term.readName_trimAscii (s : String) : readName (Text.trimAscii s) = readName s := by
  rw [readName, Text.trimAscii_trimAscii, readName]

namespace Word

def isBreak (c : Char) : Bool := Text.isAsciiBlank c || c == ',' || c == '(' || c == ')'

/-- What may stand behind a word. -/
def Apart (rest : List Char) : Prop := ∀ c ∈ rest.head?, isBreak c = true

/-- A text is one word wherever it stands apart. -/
def IsWord (w : List Char) : Prop :=
  ∀ rest, Apart rest → scan 0 (w ++ rest) = ⟨String.ofList w, rest⟩ :: scan 0 rest

private theorem isBreak_small {c : Char} (h : isBreak c = true) : c.toNat < 45 := by
  simp only [isBreak, Text.isAsciiBlank, Bool.or_eq_true, Bool.and_eq_true, beq_iff_eq,
    decide_eq_true_eq] at h
  rcases h with ((h | h) | h) | h
  · rcases h with rfl | ⟨-, h⟩
    · decide
    · omega
  all_goals subst h; decide

private theorem of_isBreak {p : Char → Bool}
    (hall : ∀ n < 45, isBreak (Char.ofNat n) = true → p (Char.ofNat n) = true) {c : Char}
    (h : isBreak c = true) : p c = true := by
  have hc := hall c.toNat (isBreak_small h)
  rw [Char.ofNat_toNat] at hc
  exact hc h

private theorem isBreak_not_name {c : Char} (h : isBreak c = true) : Term.isNameChar c = false := by
  have hnot := of_isBreak (p := fun c => !Term.isNameChar c) (by decide) h
  simpa using hnot

private theorem isBreak_not_quote {c : Char} (h : isBreak c = true) : isQuote c = false := by
  have hnot := of_isBreak (p := fun c => !isQuote c) (by decide) h
  simpa using hnot

private theorem isBreak_of_blank {c : Char} (h : Text.isAsciiBlank c = true) :
    isBreak c = true := by
  simp [isBreak, h]

theorem Apart.nil : Apart [] := fun _ h => absurd h (by simp)

theorem Apart.cons {c : Char} (h : isBreak c = true) (rest : List Char) : Apart (c :: rest) := by
  rintro d ⟨⟩
  exact h

/-! ## Scanning -/

private theorem scan_drop (skip : Nat) (cs : List Char) : scan skip cs = scan 0 (cs.drop skip) := by
  induction cs generalizing skip with
  | nil => simp [scan]
  | cons c cs ih =>
    cases skip with
    | zero => rfl
    | succ skip => rw [scan, ih, List.drop_succ_cons]

theorem scan_nil : scan 0 [] = [] := rfl

theorem scan_blank {c : Char} (h : Text.isAsciiBlank c = true) (rest : List Char) :
    scan 0 (c :: rest) = scan 0 rest := by
  rw [scan, if_pos h]

private theorem scan_blanks {blanks : List Char} (h : ∀ c ∈ blanks, Text.isAsciiBlank c = true)
    (rest : List Char) : scan 0 (blanks ++ rest) = scan 0 rest := by
  induction blanks with
  | nil => rfl
  | cons c blanks ih =>
    obtain ⟨hc, hrest⟩ := List.forall_mem_cons.mp h
    rw [List.cons_append, scan_blank hc, ih hrest]

private theorem commentLength_eq_zero {c : Char} (hminus : c ≠ '-') (hslash : c ≠ '/')
    (rest : List Char) :
    commentLength (c :: rest) = 0 := by
  unfold commentLength
  split
  · next heq => exact absurd (List.cons.inj heq).1 hminus
  · next heq => exact absurd (List.cons.inj heq).1 hslash
  · rfl

/-- The character starts neither a comment nor a space. -/
structure Starts (c : Char) : Prop where
  blank : Text.isAsciiBlank c = false
  notMinus : c ≠ '-'
  notSlash : c ≠ '/'

private theorem scan_first {c : Char} (hc : Starts c) {w rest : List Char}
    (h : (first (c :: (w ++ rest))).1 = w.length + 1) :
    scan 0 (c :: (w ++ rest)) = ⟨String.ofList (c :: w), rest⟩ :: scan 0 rest := by
  rw [scan, hc.blank, commentLength_eq_zero hc.notMinus hc.notSlash]
  simp only [Bool.false_eq_true, if_false, h, Nat.add_sub_cancel]
  rw [scan_drop]
  simp

private theorem IsWord.of_first {c : Char} (hc : Starts c) {w : List Char}
    (h : ∀ rest, Apart rest → (first (c :: (w ++ rest))).1 = w.length + 1) : IsWord (c :: w) :=
  fun rest hrest => scan_first hc (h rest hrest)

/-! ## Names -/

private theorem takeWhile_apart {p : Char → Bool} {w rest : List Char} (hw : ∀ c ∈ w, p c = true)
    (hp : ∀ c, isBreak c = true → p c = false) (hrest : Apart rest) :
    (w ++ rest).takeWhile p = w := by
  rw [List.takeWhile_append_of_pos hw]
  cases rest with
  | nil => simp
  | cons d rest => simp [hp d (hrest d rfl)]

private theorem nameStart_spec {c : Char} (h : Term.isNameStart c = true) :
    Starts c ∧ c ≠ '\'' ∧ c ≠ '"' ∧ c ≠ '\x60' ∧ c ≠ '[' := by
  have hne {d : Char} (hd : Term.isNameStart d = false) : c ≠ d := by
    rintro rfl
    rw [h] at hd
    cases hd
  exact ⟨⟨(Term.nameStart_startsWord h).blank, hne (by decide), hne (by decide)⟩, hne (by decide),
    hne (by decide), hne (by decide), hne (by decide)⟩

theorem isWord_name {w : List Char} (h : Term.isName w = true) : IsWord w := by
  cases w with
  | nil => cases h
  | cons c w =>
    obtain ⟨hc, hw⟩ := Bool.and_eq_true_iff.mp h
    obtain ⟨hstarts, hsingle, hdouble, hback, hbracket⟩ := nameStart_spec hc
    refine .of_first hstarts fun rest hrest => ?_
    have hname : (w ++ rest).takeWhile Term.isNameChar = w :=
      takeWhile_apart (List.all_eq_true.mp hw) (fun _ => isBreak_not_name) hrest
    have hblob : ¬((c = 'x' ∨ c = 'X') ∧ (w ++ rest).head? = some '\'') := by
      rintro ⟨-, hquote⟩
      cases w with
      | nil => exact absurd (isBreak_not_quote (hrest _ hquote)) (by decide)
      | cons d w =>
        obtain rfl : d = '\'' := Option.some.inj hquote
        exact absurd (List.all_eq_true.mp hw _ (List.mem_cons_self ..)) (by decide)
    unfold first
    split
    · next heq => cases heq
    · next heq => exact absurd (List.cons.inj heq).1 hsingle
    · next heq => exact absurd (List.cons.inj heq).1 hdouble
    · next heq => exact absurd (List.cons.inj heq).1 hback
    · next heq => exact absurd (List.cons.inj heq).1 hbracket
    · next heq =>
      obtain ⟨rfl, rfl⟩ := List.cons.inj heq
      simp only [hblob, if_false, hc, if_true, hname]

theorem isWord_placeholder {w : List Char} (h : ∀ c ∈ w, isWordChar c = true) :
    IsWord (':' :: w) := by
  refine .of_first ⟨by decide, by decide, by decide⟩ fun rest hrest => ?_
  have hname : (w ++ rest).takeWhile Term.isNameChar = w :=
    takeWhile_apart (fun c hc => by simp [Term.isNameChar, h c hc])
      (fun _ => isBreak_not_name) hrest
  have hstart : Term.isNameStart ':' = false := by decide
  simp [first, hstart, hname]

/-! ## Quoted names -/

private theorem quotedLength_unquote {quote : Char} {body name rest : List Char}
    (h : Term.unquote quote body = some name) (hrest : rest.head? ≠ some quote) :
    quotedLength quote (body ++ rest) = some body.length := by
  induction body using Term.unquote.induct quote generalizing name with
  | case1 => cases h
  | case2 =>
    cases rest with
    | nil => simp [quotedLength]
    | cons d rest =>
      have hd : d ≠ quote := fun hd => hrest (by rw [hd]; rfl)
      simp [quotedLength, hd]
  | case3 c hc => simp [Term.unquote, hc] at h
  | case4 body ih =>
    rw [Term.unquote, if_pos rfl, if_pos rfl] at h
    obtain ⟨inner, hinner, -⟩ := Option.map_eq_some_iff.mp h
    simp [quotedLength, ih hinner]
  | case5 d body hd => simp [Term.unquote, hd] at h
  | case6 c d body hc ih =>
    rw [Term.unquote, if_neg hc] at h
    obtain ⟨inner, hinner, -⟩ := Option.map_eq_some_iff.mp h
    have hlength := ih hinner
    simp only [List.cons_append] at hlength ⊢
    rw [quotedLength, if_neg hc, hlength]
    rfl

private theorem isWord_quoted {quote : Char} (hquote : isQuote quote = true) {body name : List Char}
    (h : Term.unquote quote body = some name) : IsWord (quote :: body) := by
  have hcases : (quote = '\'' ∨ quote = '"') ∨ quote = '\x60' := by simpa [isQuote] using hquote
  have hstarts : Starts quote := by
    rcases hcases with (rfl | rfl) | rfl <;> exact ⟨by decide, by decide, by decide⟩
  refine .of_first hstarts fun rest hrest => ?_
  have hnext : rest.head? ≠ some quote := fun hnext =>
    absurd hquote (by rw [isBreak_not_quote (hrest _ hnext)]; decide)
  have hlength := quotedLength_unquote h hnext
  rcases hcases with (rfl | rfl) | rfl <;> simp only [first, quoted, hlength]

private theorem isWord_bracketed {body name : List Char}
    (h : Text.cutAt ']' body = some (name, [])) : IsWord ('[' :: body) := by
  obtain ⟨rfl, hname⟩ := Text.cutAt_eq_some.mp h
  refine .of_first ⟨by decide, by decide, by decide⟩ fun rest hrest => ?_
  have hcut : Text.cutAt ']' (name ++ ']' :: rest) = some (name, rest) :=
    Text.cutAt_eq_some.mpr ⟨rfl, hname⟩
  simp [first, bracketed, hcut]

theorem isName_of_readPlainName {w : List Char} {name : String}
    (h : Term.readPlainName w = some name) : Term.isName w = true := by
  unfold Term.readPlainName at h
  dsimp only at h
  split at h
  · next hboth => exact (Bool.and_eq_true_iff.mp hboth).1
  · cases h

theorem isWord_of_readName {s name : String} (h : Term.readName s = some name) :
    IsWord (Text.trimAscii s).toList := by
  unfold Term.readName at h
  split at h
  · next heq =>
    obtain ⟨inner, hinner, -⟩ := Option.map_eq_some_iff.mp h
    rw [heq]
    exact isWord_quoted (by decide) hinner
  · next heq =>
    obtain ⟨inner, hinner, -⟩ := Option.map_eq_some_iff.mp h
    rw [heq]
    exact isWord_quoted (by decide) hinner
  · next heq =>
    obtain ⟨inner, hinner, -⟩ := Option.map_eq_some_iff.mp h
    rw [heq]
    exact isWord_quoted (by decide) hinner
  · next heq =>
    split at h
    · next hcut =>
      rw [heq]
      exact isWord_bracketed hcut
    · cases h
  · exact isWord_name (isName_of_readPlainName h)

theorem isWord_plain {w : List Char} (h : isPlainIdentifier w = true) : IsWord w := by
  cases w with
  | nil => cases h
  | cons c rest =>
    obtain ⟨hc, hrest⟩ := Bool.and_eq_true_iff.mp h
    refine isWord_name (Bool.and_eq_true_iff.mpr ⟨by simp [Term.isNameStart, hc], ?_⟩)
    refine List.all_eq_true.mpr fun d hd => ?_
    simp [Term.isNameChar, List.all_eq_true.mp hrest d hd]

theorem isWord_quoteIdentifier (name : String) : IsWord (quoteIdentifier name).toList := by
  unfold quoteIdentifier
  split
  · next hplain => exact isWord_plain (Bool.and_eq_true_iff.mp hplain).1
  · rw [String.toList_ofList]
    exact isWord_quoted (by decide) (Term.unquote_doubled _ _)

/-! ## Marks -/

private def marks : List Char := [',', '(', ')', '*', '=', '!', '<', '>']

private theorem marks_starts : ∀ c ∈ marks, Starts c := by
  intro c hc
  simp only [marks, List.mem_cons, List.not_mem_nil, or_false] at hc
  rcases hc with rfl | rfl | rfl | rfl | rfl | rfl | rfl | rfl <;>
    exact ⟨by decide, by decide, by decide⟩

private theorem first_mark {c : Char} (h : c ∈ marks) (rest : List Char) : first (c :: rest) =
    if doubleMarks.contains (String.ofList (c :: rest.take 1)) then (2, true)
    else (1, singleMarks.contains c) := by
  simp only [marks, List.mem_cons, List.not_mem_nil, or_false] at h
  rcases h with rfl | rfl | rfl | rfl | rfl | rfl | rfl | rfl <;> rfl

def openMarks : List Char := [',', '(', ')']

private theorem scan_mark {c : Char} (h : c ∈ openMarks) (rest : List Char) :
    scan 0 (c :: rest) = ⟨String.singleton c, rest⟩ :: scan 0 rest := by
  have hsubset : openMarks ⊆ marks := by decide
  have hmark := hsubset h
  have hsingle : ¬doubleMarks.contains (String.ofList (c :: rest.take 1)) = true := by
    have hall : ∀ mark ∈ doubleMarks, openMarks.all fun c => mark.toList.head? != some c := by
      decide
    rw [List.contains_eq_mem, decide_eq_true_iff]
    intro hmem
    have hother := List.all_eq_true.mp (hall _ hmem) c h
    simp at hother
  have hone : (first (c :: ([] ++ rest))).1 = 1 := by
    rw [List.nil_append, first_mark hmark, if_neg hsingle]
  exact scan_first (marks_starts c hmark) hone

private theorem isWord_single {c : Char} (h : c ∈ marks) : IsWord [c] := by
  refine .of_first (marks_starts c h) fun rest hrest => ?_
  have hsingle : ¬doubleMarks.contains (String.ofList (c :: rest.take 1)) = true := by
    cases rest with
    | nil =>
      have hall : marks.all fun c => !doubleMarks.contains (String.ofList [c]) := by decide
      simpa using List.all_eq_true.mp hall c h
    | cons d rest =>
      have hall := of_isBreak (p := fun d => marks.all fun c =>
        !doubleMarks.contains (String.ofList [c, d])) (by decide) (hrest d rfl)
      simpa using List.all_eq_true.mp hall c h
  rw [List.nil_append, first_mark h, if_neg hsingle]
  rfl

private theorem isWord_double {c d : Char} (h : c ∈ marks)
    (hdouble : doubleMarks.contains (String.ofList [c, d]) = true) : IsWord [c, d] :=
  .of_first (marks_starts c h) fun rest _ => by
    rw [List.singleton_append, first_mark h]
    simp only [List.take_succ_cons, List.take_zero, hdouble, if_true, List.length_singleton]

theorem isWord_mark {w : String} (h : w ∈ ["*", "=", "!=", "<", "<=", ">", ">="]) :
    IsWord w.toList := by
  simp only [List.mem_cons, List.not_mem_nil, or_false] at h
  rcases h with rfl | rfl | rfl | rfl | rfl | rfl | rfl
  · exact isWord_single (c := '*') (by decide)
  · exact isWord_single (c := '=') (by decide)
  · exact isWord_double (c := '!') (d := '=') (by decide) (by decide)
  · exact isWord_single (c := '<') (by decide)
  · exact isWord_double (c := '<') (d := '=') (by decide) (by decide)
  · exact isWord_single (c := '>') (by decide)
  · exact isWord_double (c := '>') (d := '=') (by decide) (by decide)

/-! ## Texts -/

/-- A text falls into the words wherever it stands apart. -/
def Scans (s : String) (words : List String) : Prop :=
  ∀ rest, Apart rest → ∃ found, scan 0 (s.toList ++ rest) = found ++ scan 0 rest ∧
    found.map Word.text = words

theorem IsWord.scans {s : String} (h : IsWord s.toList) : Scans s [s] := fun rest hrest =>
  ⟨[⟨String.ofList s.toList, rest⟩], h rest hrest, by simp⟩

theorem scans_of_readName {s name : String} (h : Term.readName s = some name) :
    Scans s [Text.trimAscii s] := by
  intro rest hrest
  obtain ⟨front, back, hfront, hback, hs⟩ := Text.trimAscii_split s
  have hapart : Apart (back ++ rest) := by
    cases back with
    | nil => exact hrest
    | cons c back => exact .cons (isBreak_of_blank (hback c (List.mem_cons_self ..))) _
  refine ⟨[⟨Text.trimAscii s, back ++ rest⟩], ?_, rfl⟩
  have hword := isWord_of_readName h (back ++ rest) hapart
  rw [String.ofList_toList, scan_blanks hback] at hword
  rw [hs, List.append_assoc, List.append_assoc, scan_blanks hfront]
  exact hword

theorem Scans.whole {s : String} {words : List String} (h : Scans s words) :
    (scan 0 s.toList).map Word.text = words := by
  obtain ⟨found, hfound, hwords⟩ := h [] .nil
  rw [List.append_nil, scan_nil, List.append_nil] at hfound
  rw [hfound, hwords]

/-- Texts that are joined by the separator fall into their words, with the mark between them. -/
def Joins (separator : String) (mark : List String) : Prop :=
  ∀ s t words more, Scans s words → Scans t more →
  Scans (s ++ separator ++ t) (words ++ mark ++ more)

theorem joins_blank : Joins " " [] := by
  intro s t words more hs ht rest hrest
  obtain ⟨later, hlater, rfl⟩ := ht rest hrest
  obtain ⟨found, hfound, rfl⟩ := hs (' ' :: (t.toList ++ rest)) (.cons (by decide) _)
  refine ⟨found ++ later, ?_, by simp⟩
  rw [String.toList_append, String.toList_append, List.append_assoc, List.append_assoc]
  exact hfound.trans (by rw [scan_blank (by decide), hlater, List.append_assoc])

theorem joins_mark {c : Char} (h : c ∈ openMarks) :
    Joins (String.singleton c) [String.singleton c] := by
  intro s t words more hs ht rest hrest
  have hbreak := List.all_eq_true.mp (by decide : openMarks.all isBreak = true)
  obtain ⟨later, hlater, rfl⟩ := ht rest hrest
  obtain ⟨found, hfound, rfl⟩ := hs (c :: (t.toList ++ rest)) (.cons (hbreak c h) _)
  refine ⟨found ++ ⟨String.singleton c, t.toList ++ rest⟩ :: later, ?_, by simp⟩
  rw [String.toList_append, String.toList_append, String.toList_singleton, List.append_assoc,
    List.append_assoc, List.append_assoc]
  exact hfound.trans (by rw [scan_mark h, hlater, List.cons_append])

private theorem Scans.blank {s : String} {words : List String} (h : Scans s words) :
    Scans (" " ++ s) words := by
  intro rest hrest
  obtain ⟨found, hfound, hwords⟩ := h rest hrest
  refine ⟨found, ?_, hwords⟩
  rw [String.toList_append, List.append_assoc]
  exact (scan_blank (by decide) _).trans hfound

theorem Joins.blank {separator : String} {mark : List String} (h : Joins separator mark) :
    Joins (separator ++ " ") mark := by
  intro s t words more hs ht
  have hjoined := h s (" " ++ t) words more hs ht.blank
  rwa [← String.append_assoc, @String.append_assoc s] at hjoined

theorem IsWord.joins {w : String} (h : IsWord w.toList) : Joins (" " ++ w ++ " ") [w] := by
  intro s t words more hs ht
  have hjoined := joins_blank _ _ _ _ (joins_blank _ _ _ _ hs h.scans) ht
  rw [List.append_nil, List.append_nil] at hjoined
  rwa [← String.append_assoc, ← String.append_assoc]

theorem Joins.intercalate {separator : String} {mark : List String} (h : Joins separator mark)
    {ι : Type} {text : ι → String} {words : ι → List String} {items : List ι}
    (hitems : ∀ i ∈ items, Scans (text i) (words i)) (hne : items ≠ []) :
    Scans (String.intercalate separator (items.map text))
      (List.intercalate mark (items.map words)) := by
  induction items with
  | nil => exact absurd rfl hne
  | cons i items ih =>
    obtain ⟨hi, hitems⟩ := List.forall_mem_cons.mp hitems
    cases items with
    | nil => simpa [String.intercalate_singleton, List.intercalate] using hi
    | cons j items =>
      have hrest := ih hitems (List.cons_ne_nil j items)
      rw [List.map_cons, List.map_cons, List.map_cons, List.map_cons,
        String.intercalate_cons_cons, List.intercalate_cons_cons]
      exact h _ _ _ _ hi hrest

private theorem scans_empty : Scans "" [] := fun _ _ => ⟨[], rfl, rfl⟩

theorem Scans.parenthesized {s : String} {words : List String} (h : Scans s words) :
    Scans ("(" ++ s ++ ")") ("(" :: words ++ [")"]) := by
  have hopen : Joins "(" ["("] := joins_mark (c := '(') (by decide)
  have hclose : Joins ")" [")"] := joins_mark (c := ')') (by decide)
  have hleft := hopen _ _ _ _ scans_empty h
  have hall := hclose _ _ _ _ hleft scans_empty
  rwa [String.append_empty, List.append_nil, String.empty_append] at hall

end Word
end RecordGateway
