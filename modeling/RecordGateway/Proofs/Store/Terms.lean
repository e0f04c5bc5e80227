import RecordGateway.Proofs.Reading.Cutting
import RecordGateway.Proofs.Reading.Lexeme
import RecordGateway.Proofs.Request.Naming
import RecordGateway.Store.Truth
/-!
# Names read as terms

How the store reads the texts that a gateway writes into its conditions: a column name as the
column, with or without backticks, and the name of a bind as a parameter.
-/
namespace RecordGateway

namespace Text

private theorem dropWhile_head {drop : Char → Bool} {cs : List Char}
    (h : ∀ c, cs.head? = some c → drop c = false) : cs.dropWhile drop = cs := by
  cases cs with
  | nil => rfl
  | cons c rest => simp [h c rfl]

theorem trimAscii_eq {s : String} (hfirst : ∀ c, s.toList.head? = some c → isAsciiBlank c = false)
    (hlast : ∀ c, s.toList.getLast? = some c → isAsciiBlank c = false) : trimAscii s = s := by
  have hback : s.toList.reverse.dropWhile isAsciiBlank = s.toList.reverse :=
    dropWhile_head (by simpa using hlast)
  rw [trimAscii, trimBy, dropWhile_head hfirst, hback, List.reverse_reverse, String.ofList_toList]

end Text

/-- A character with which no number and no mark starts, and which is no white space. -/
structure StartsWord (c : Char) : Prop where
  blank : Text.isAsciiBlank c = false
  digit : c.isDigit = false
  notPoint : c ≠ '.'
  notPlus : c ≠ '+'
  notMinus : c ≠ '-'
  notStar : c ≠ '*'
  notOpening : c ≠ '('

namespace Term

private theorem readNumber_word {c : Char} (h : StartsWord c) (rest : List Char) :
    readNumber (c :: rest) = none := by
  have hsign : takeSign (c :: rest) = (false, c :: rest) := by
    unfold takeSign
    split
    · next heq => exact absurd (List.cons.inj heq).1 h.notMinus
    · next heq => exact absurd (List.cons.inj heq).1 h.notPlus
    · rfl
  have hinteger : readInt64 (c :: rest) = none := by
    simp [readInt64, readInteger, hsign, h.digit]
  have hdecimal : Decimal.read? (c :: rest) = none := by
    have hwhole : (c :: rest).takeWhile Char.isDigit = [] := by simp [h.digit]
    have hafter : (c :: rest).dropWhile Char.isDigit = c :: rest := by simp [h.digit]
    unfold Decimal.read?
    simp only [hsign, hwhole, hafter]
    split
    · next heq => exact absurd (List.cons.inj heq).1 h.notPoint
    · rfl
  simp [readNumber, hinteger, hdecimal]

private theorem takeSigns_word {c : Char} (h : StartsWord c) (rest : List Char) :
    takeSigns (c :: rest) = ([], c :: rest) := by
  simp [takeSigns, h.blank, h.notPlus, h.notMinus]

theorem read_word {s : String} {c : Char} {rest : List Char} (hc : s.toList = c :: rest)
    (hword : StartsWord c)
    (hlast : ∀ d, s.toList.getLast? = some d → Text.isAsciiBlank d = false) :
    read s = readUnsigned (c :: rest) := by
  have htrim : Text.trimAscii s = s := Text.trimAscii_eq (by simp [hc, hword.blank]) hlast
  unfold read
  simp only [htrim, hc, readNumber_word hword, takeSigns_word hword, List.foldr_nil,
    Option.map_id']

theorem unquote_doubled (quote : Char) (cs : List Char) :
    unquote quote (Text.doubled quote cs ++ [quote]) = some cs := by
  induction cs with
  | nil => simp [Text.doubled, unquote]
  | cons c cs ih =>
    by_cases hc : c = quote
    · simp [Text.doubled, hc, unquote, ih]
    · obtain ⟨d, ds, hd⟩ : ∃ d ds, Text.doubled quote cs ++ [quote] = d :: ds :=
        List.exists_cons_of_ne_nil (by simp)
      simp only [Text.doubled, hc, if_false, List.cons_append, hd, unquote]
      rw [← hd, ih]
      rfl

theorem upper_ne {c : Char} {cs : List Char} {word : String} {w : Char}
    (hw : word.toList.head? = some w) (hne : c.toUpper ≠ w) :
    Text.upper (String.ofList (c :: cs)) ≠ word := by
  intro h
  rw [← h, Text.upper, String.toList_ofList, String.toList_ofList] at hw
  exact hne (Option.some.inj hw)

theorem readUnsigned_word {c : Char} (hword : StartsWord c) (hcolon : c ≠ ':')
    (hquote : isQuote c = false ∨ c = '\x60') {rest : List Char}
    (hhex : rest.head? ≠ some '\'' ∨ c = '\x60') :
    readUnsigned (c :: rest) = readWord (c :: rest) := by
  have hsingle : c ≠ '\'' := by rintro rfl; rcases hquote with h | h <;> exact absurd h (by decide)
  have hdouble : c ≠ '"' := by rintro rfl; rcases hquote with h | h <;> exact absurd h (by decide)
  have hblob : ¬((c = 'x' ∨ c = 'X') ∧ rest.head? = some '\'') := by
    rintro ⟨hx, hnext⟩
    rcases hhex with h | rfl
    · exact h hnext
    · exact absurd hx (by decide)
  unfold readUnsigned
  split
  · next heq => cases heq
  · next heq => exact absurd (List.cons.inj heq).1 hcolon
  · next heq => exact absurd (List.cons.inj heq).1 hsingle
  · next heq => exact absurd (List.cons.inj heq).1 hdouble
  · next heq =>
    obtain ⟨rfl, rfl⟩ := List.cons.inj heq
    rw [if_neg hblob]
    simp [hword.digit, hword.notPoint]

private theorem clock_lookup {word : String} (h : asksClock word = false) :
    clock.lookup (Text.upper word) = none := by
  rw [List.lookup_eq_none_iff]
  intro e he
  have hne : ¬(e.1 == Text.upper word) = true := List.any_eq_false.mp h e he
  rw [beq_iff_eq] at hne
  exact bne_iff_ne.mpr (Ne.symm hne)

theorem readName_backticked (name : String) :
    readName (String.ofList ('\x60' :: (Text.doubled '\x60' name.toList ++ ['\x60']))) =
      some name := by
  rw [readName, Text.trimAscii_eq]
  · rw [String.toList_ofList]
    simp [unquote_doubled]
  · rw [String.toList_ofList]
    rintro c ⟨⟩
    decide
  · rw [String.toList_ofList, ← List.cons_append, List.getLast?_concat]
    rintro c ⟨⟩
    decide

private theorem opens_backtick (body : List Char) :
    opens (String.ofList ('\x60' :: body)) = false := by
  rw [opens, List.contains_eq_mem, decide_eq_false_iff_not]
  simp only [openingWords, List.mem_cons, List.not_mem_nil, or_false, not_or]
  refine ⟨?_, ?_, ?_, ?_, ?_⟩ <;> exact upper_ne rfl (by decide)

theorem read_backticked (name : String) :
    read (String.ofList ('\x60' :: (Text.doubled '\x60' name.toList ++ ['\x60']))) =
      some (.column name) := by
  generalize hbody : Text.doubled '\x60' name.toList ++ ['\x60'] = body
  have hlist : (String.ofList ('\x60' :: body)).toList = '\x60' :: body := String.toList_ofList
  have hlast : ∀ d, (String.ofList ('\x60' :: body)).toList.getLast? = some d →
      Text.isAsciiBlank d = false := by
    rw [hlist, ← hbody, ← List.cons_append, List.getLast?_concat]
    rintro d ⟨⟩
    decide
  have hword : StartsWord '\x60' := ⟨by decide, by decide, by decide, by decide, by decide,
      by decide, by decide⟩
  have hname : readName (String.ofList ('\x60' :: body)) = some name :=
    hbody ▸ readName_backticked name
  have hclock : asksClock (String.ofList ('\x60' :: body)) = false := by
    rw [asksClock, List.any_eq_false]
    intro e he
    have hkey : e.1.toList.head? = some 'C' := by
      revert e
      decide
    rw [beq_iff_eq]
    exact fun h => upper_ne hkey (by decide) h.symm
  rw [read_word hlist hword hlast,
    readUnsigned_word hword (by decide) (.inr rfl) (.inr rfl), readWord]
  split
  · next h => exact absurd h (upper_ne rfl (by decide))
  · next h => exact absurd h (upper_ne rfl (by decide))
  · next h => exact absurd h (upper_ne rfl (by decide))
  · rw [clock_lookup hclock]
    simp only [opens_backtick, Bool.false_eq_true, if_false, readColumn, hname]

private theorem le_of_isAlpha {c : Char} (h : c.isAlpha = true) : 65 ≤ c.toNat := by
  rcases (Bool.or_eq_true _ _).mp h with h | h
  · exact (of_decide_eq_true h).1
  · have hsmall : 97 ≤ c.toNat := of_decide_eq_true ((Bool.and_eq_true _ _).mp h).1
    exact Nat.le_trans (by decide) hsmall

theorem startsWord_of_le {c : Char} (hlow : 65 ≤ c.toNat) : StartsWord c := by
  have hne {d : Char} (hd : d.toNat < 65) : c ≠ d := by
    rintro rfl
    omega
  refine ⟨?_, ?_, hne (by decide), hne (by decide), hne (by decide), hne (by decide),
    hne (by decide)⟩
  · have hspace : c ≠ ' ' := hne (by decide)
    simp only [Text.isAsciiBlank, beq_eq_false_iff_ne.mpr hspace, Bool.false_or,
      Bool.and_eq_false_iff, decide_eq_false_iff_not]
    omega
  · simp only [Char.isDigit, Bool.and_eq_false_iff, decide_eq_false_iff_not,
      UInt32.le_iff_toNat_le]
    right
    exact Nat.not_le.mpr (Nat.lt_of_lt_of_le (by decide) hlow)

theorem nameStart_startsWord {c : Char} (h : isNameStart c = true) : StartsWord c := by
  apply startsWord_of_le
  simp only [isNameStart, isWordStart, Bool.or_eq_true, beq_iff_eq, decide_eq_true_eq] at h
  rcases h with (h | rfl) | h
  · exact le_of_isAlpha h
  · decide
  · omega

theorem wordStart_startsWord {c : Char} (h : isWordStart c = true) : StartsWord c :=
  nameStart_startsWord (Bool.or_eq_true_iff.mpr (.inl h))

theorem wordChar_not_blank {c : Char} (h : isWordChar c = true) : Text.isAsciiBlank c = false := by
  have hlow : 48 ≤ c.toNat := by
    simp only [isWordChar, Char.isAlphanum, Char.isDigit, Bool.or_eq_true, Bool.and_eq_true,
      decide_eq_true_eq, beq_iff_eq, ge_iff_le, UInt32.le_iff_toNat_le] at h
    rcases h with (h | ⟨h, -⟩) | rfl
    · exact Nat.le_trans (by decide) (le_of_isAlpha h)
    · exact h
    · decide
  have hspace : c ≠ ' ' := by
    rintro rfl
    exact absurd hlow (by decide)
  simp only [Text.isAsciiBlank, beq_eq_false_iff_ne.mpr hspace, Bool.false_or,
    Bool.and_eq_false_iff, decide_eq_false_iff_not]
  omega

private theorem trimAscii_plain {name : String} (h : isPlainIdentifier name.toList = true) :
    Text.trimAscii name = name := by
  have hchars := plainIdentifier_wordChars h
  exact Text.trimAscii_eq (fun c hc => wordChar_not_blank (hchars c (List.mem_of_mem_head? hc)))
    fun c hc => wordChar_not_blank (hchars c (List.mem_of_getLast? hc))

theorem readName_plain {name : String} (hplain : isPlainIdentifier name.toList = true) :
    readName name = none ∨ readName name = some name := by
  have hchars := plainIdentifier_wordChars hplain
  rw [readName, trimAscii_plain hplain]
  split
  · next heq => exact absurd (hchars '\x60' (by rw [heq]; simp)) (by decide)
  · next heq => exact absurd (hchars '"' (by rw [heq]; simp)) (by decide)
  · next heq => exact absurd (hchars '\'' (by rw [heq]; simp)) (by decide)
  · next heq => exact absurd (hchars '[' (by rw [heq]; simp)) (by decide)
  · simp only [readPlainName, String.ofList_toList]
    split <;> simp

theorem readColumn_plain {name : String} (hplain : isPlainIdentifier name.toList = true)
    {term : Term} (h : readColumn name = some term) : term = .column name := by
  have hcut : Text.cut '.' name = none := by
    rw [Text.cut_eq_none]
    exact fun hpoint => absurd (plainIdentifier_wordChars hplain '.' hpoint) (by decide)
  rcases readName_plain hplain with hname | hname <;> simp only [readColumn, hname, hcut] at h
  · cases h
  · exact (Option.some.inj h).symm

/-- A text that is read as a column, or as a column before it is read as a constant. -/
def Names (text name : String) : Prop :=
  read text = some (.column name) ∨ ∃ cell, read text = some (.columnOr name cell)

/-- An identifier that stands for a column of its name: it is neither NULL nor does it ask the
clock. -/
structure IsPlain (name : String) : Prop where
  identifier : isPlainIdentifier name.toList = true
  notNull : Text.upper name ≠ "NULL"
  notClock : asksClock name = false

theorem read_plain {name : String} (hplain : isPlainIdentifier name.toList = true) :
    read name = readWord name.toList := by
  have hchars := plainIdentifier_wordChars hplain
  have hlast : ∀ d, name.toList.getLast? = some d → Text.isAsciiBlank d = false :=
    fun d hd => wordChar_not_blank (hchars d (List.mem_of_getLast? hd))
  cases hcs : name.toList with
  | nil => simp [hcs, isPlainIdentifier] at hplain
  | cons c rest =>
    have hfirst : isWordStart c = true := (Bool.and_eq_true_iff.mp (hcs ▸ hplain)).1
    have hword := wordStart_startsWord hfirst
    have hcolon : c ≠ ':' := by rintro rfl; exact absurd hfirst (by decide)
    have hquote : isQuote c = false := isQuote_of_isWordChar (wordStart_wordChar hfirst)
    have hhead : rest.head? ≠ some '\'' := by
      intro hq
      have hmem : '\'' ∈ name.toList := by
        rw [hcs]
        exact List.mem_cons_of_mem _ (List.mem_of_mem_head? hq)
      exact absurd (hchars '\'' hmem) (by decide)
    rw [read_word hcs hword hlast, readUnsigned_word hword hcolon (.inl hquote) (.inl hhead)]

/-- A plain identifier that the store reads at all is the name of a column. -/
theorem IsPlain.names {name : String} (hname : IsPlain name) (hread : (read name).isSome) :
    Names name name := by
  obtain ⟨hplain, hnull, hclock⟩ := hname
  obtain ⟨term, h⟩ := Option.isSome_iff_exists.mp hread
  suffices hterm : term = .column name ∨ ∃ cell, term = .columnOr name cell by
    rw [Names, h]
    exact hterm.imp (congrArg some) fun ⟨cell, hcell⟩ => ⟨cell, congrArg some hcell⟩
  rw [read_plain hplain, readWord, String.ofList_toList] at h
  split at h
  · next hn => exact absurd hn hnull
  · exact .inr ⟨_, (Option.some.inj h).symm⟩
  · exact .inr ⟨_, (Option.some.inj h).symm⟩
  · rw [clock_lookup hclock] at h
    dsimp only at h
    split at h
    · cases h
    · exact .inl (readColumn_plain hplain h)

theorem read_opening {name : String} (hplain : isPlainIdentifier name.toList = true)
    (hopens : opens name = true) : read name = none := by
  have hword : Text.upper name ∈ openingWords := List.contains_iff_mem.mp hopens
  have hother : Text.upper name ≠ "NULL" ∧ Text.upper name ≠ "TRUE" ∧ Text.upper name ≠ "FALSE" ∧
      clock.lookup (Text.upper name) = none := by
    revert hword
    generalize Text.upper name = upper
    revert upper
    decide
  rw [read_plain hplain, readWord, String.ofList_toList]
  split
  · next hnull => exact absurd hnull hother.1
  · next htrue => exact absurd htrue hother.2.1
  · next hfalse => exact absurd hfalse hother.2.2.1
  · rw [hother.2.2.2]
    exact if_pos hopens

theorem read_isSome {name : String} (hplain : isPlainIdentifier name.toList = true)
    (hname : (readName name).isSome) (hopens : opens name = false) : (read name).isSome := by
  obtain ⟨other, hother⟩ := Option.isSome_iff_exists.mp hname
  have hcolumn : readColumn name = some (.column other) := by rw [readColumn, hother]
  rw [read_plain hplain, readWord, String.ofList_toList]
  split
  · rfl
  · rfl
  · rfl
  · split
    · rfl
    · rw [hopens, hcolumn]
      rfl

/-- A column name that may stand in a list of names is read as a term, unless an expression of its
own starts by it. -/
theorem read_eq_none_iff {name : String} (hname : (readName (quoteIdentifier name)).isSome) :
    read (quoteIdentifier name) = none ↔ opens (quoteIdentifier name) = true := by
  by_cases hquote : (isPlainIdentifier name.toList && !isReserved name) = true
  · have hplain := (Bool.and_eq_true_iff.mp hquote).1
    rw [quoteIdentifier, if_pos hquote] at hname ⊢
    refine ⟨fun hread => ?_, read_opening hplain⟩
    by_contra hopens
    have hsome := read_isSome hplain hname (Bool.eq_false_iff.mpr hopens)
    rw [hread] at hsome
    cases hsome
  · rw [quoteIdentifier, if_neg hquote, read_backticked, opens_backtick]
    simp

private theorem trimAscii_quoteIdentifier (name : String) :
    Text.trimAscii (quoteIdentifier name) = quoteIdentifier name := by
  unfold quoteIdentifier
  split
  · next hplain => exact trimAscii_plain (Bool.and_eq_true_iff.mp hplain).1
  · refine Text.trimAscii_eq ?_ ?_ <;> rw [String.toList_ofList]
    · rintro c ⟨⟩
      decide
    · rw [← List.cons_append, List.getLast?_concat]
      rintro c ⟨⟩
      decide

/-- A column name that a gateway writes and the store reads at all is the name of the column. -/
theorem names_quoteIdentifier {name : String} (hclock : asksClock name = false)
    (hread : (read (quoteIdentifier name)).isSome) : Names (quoteIdentifier name) name := by
  unfold quoteIdentifier at hread ⊢
  split at hread
  · next hquote =>
    obtain ⟨hplain, hfree⟩ := Bool.and_eq_true_iff.mp hquote
    rw [if_pos hquote]
    refine IsPlain.names ⟨hplain, fun hnull => ?_, hclock⟩ hread
    rw [isReserved, hnull] at hfree
    exact absurd hfree (by decide)
  · next hquote =>
    rw [if_neg hquote]
    exact .inl (read_backticked name)

theorem read_placeholder {name : String} (hword : IsWordText name) (hne : name ≠ "") :
    read (namePlaceholder name) = some (.parameter (namePlaceholder name)) := by
  have hlist : (namePlaceholder name).toList = ':' :: name.toList := by
    simp [namePlaceholder, String.toList_append]
  have hlast : ∀ d, (namePlaceholder name).toList.getLast? = some d →
      Text.isAsciiBlank d = false := by
    intro d hd
    have hmem := List.mem_of_getLast? hd
    rw [hlist] at hmem
    rcases List.mem_cons.mp hmem with rfl | hmem
    · decide
    · exact wordChar_not_blank (hword d hmem)
  have hcolon : StartsWord ':' := ⟨by decide, by decide, by decide, by decide, by decide,
      by decide, by decide⟩
  have hchars : name.toList.all isNameChar = true := by
    rw [List.all_eq_true]
    intro c hc
    simp [isNameChar, hword c hc]
  have hback : String.ofList (':' :: name.toList) = namePlaceholder name := by
    rw [← hlist, String.ofList_toList]
  rw [read_word hlist hcolon hlast, readUnsigned, hback]
  simp [hchars, hne]

end Term

/-! ## Their values in a row -/

theorem evalText_names {text name : String} (h : Term.Names text name) (parameters : Assignment)
    {frame : Frame} {entry : Affinity × Cell} (hfind : frame.find? name = some entry) :
    evalText parameters frame text = entry := by
  unfold evalText
  rcases h with h | ⟨cell, h⟩ <;> rw [h] <;> simp [Term.eval, hfind]

theorem evalText_placeholder {name : String} (hword : IsWordText name) (hne : name ≠ "")
    (parameters : Assignment) (frame : Frame) :
    evalText parameters frame (namePlaceholder name) =
      (.blob, parameters.cell (namePlaceholder name)) := by
  unfold evalText
  rw [Term.read_placeholder hword hne]
  rfl

end RecordGateway
