import RecordGateway.Proofs.Reading.Lexeme
/-!
# Column lists

A column list is read from left to right: a plain name or a name in backticks, and another one
after each comma.
-/
namespace RecordGateway.ColumnList

def write (names : List String) : String := String.intercalate "," (names.map quoteIdentifier)

/-- The rest of a name in backticks and the text behind it; two backticks are one of the name. -/
def readQuoted : List Char → Option (List Char × List Char)
  | [] => none
  | '`' :: '`' :: rest => (readQuoted rest).map fun read => ('`' :: read.1, read.2)
  | '`' :: rest => some ([], rest)
  | c :: rest => (readQuoted rest).map fun read => (c :: read.1, read.2)

/-- A name in backticks or a run of word characters, and the text behind it. -/
def readName : List Char → Option (List Char × List Char)
  | [] => none
  | '`' :: rest => readQuoted rest
  | c :: rest =>
    if isWordStart c then some (c :: rest.takeWhile isWordChar, rest.dropWhile isWordChar) else none

private theorem readQuoted_length {cs name rest : List Char}
    (h : readQuoted cs = some (name, rest)) :
    rest.length < cs.length := by
  fun_induction readQuoted cs generalizing name with
  | case1 => cases h
  | case2 cs ih =>
    obtain ⟨read, hread, heq⟩ := Option.map_eq_some_iff.mp h
    obtain ⟨-, rfl⟩ := Prod.mk.inj heq
    exact Nat.lt_add_right 2 (ih hread)
  | case3 cs => simp_all
  | case4 c cs _ _ ih =>
    obtain ⟨read, hread, heq⟩ := Option.map_eq_some_iff.mp h
    obtain ⟨-, rfl⟩ := Prod.mk.inj heq
    exact Nat.lt_succ_of_lt (ih hread)

private theorem readName_length {cs name rest : List Char} (h : readName cs = some (name, rest)) :
    rest.length < cs.length := by
  unfold readName at h
  split at h
  · cases h
  · exact Nat.lt_succ_of_lt (readQuoted_length h)
  · split at h
    · cases h
      exact Nat.lt_succ_of_le (List.dropWhile_suffix _).length_le
    · cases h

/-- The names of a list and the text behind the last of them. -/
def read (cs : List Char) : Option (List String × List Char) :=
  match _h : readName cs with
  | none => none
  | some (name, ',' :: rest) =>
    (read rest).map fun others => (String.ofList name :: others.1, others.2)
  | some (name, rest) => some ([String.ofList name], rest)
termination_by cs.length
decreasing_by
  have := readName_length _h
  simp only [List.length_cons] at this
  omega

private theorem read_last {cs name rest : List Char} (h : readName cs = some (name, rest))
    (hcomma : rest.head? ≠ some ',') : read cs = some ([String.ofList name], rest) := by
  rw [read]
  split
  · next hnone => simp [h] at hnone
  · next hmore =>
    obtain ⟨-, rfl⟩ := Prod.mk.inj (Option.some.inj (h.symm.trans hmore))
    exact absurd rfl hcomma
  · next hlast =>
    obtain ⟨rfl, rfl⟩ := Prod.mk.inj (Option.some.inj (h.symm.trans hlast))
    rfl

private theorem read_comma {cs name rest behind : List Char} {others : List String}
    (h : readName cs = some (name, ',' :: rest)) (hrest : read rest = some (others, behind)) :
    read cs = some (String.ofList name :: others, behind) := by
  rw [read]
  split
  · next hnone => simp [h] at hnone
  · next hmore =>
    obtain ⟨rfl, htail⟩ := Prod.mk.inj (Option.some.inj (h.symm.trans hmore))
    rw [← (List.cons.inj htail).2, hrest]
    rfl
  · next hlast hname =>
    obtain ⟨rfl, rfl⟩ := Prod.mk.inj (Option.some.inj (h.symm.trans hname))
    exact absurd rfl (hlast rest)

/-! ## Names are read back -/

def Ends (rest : List Char) : Prop := ∀ c, rest.head? = some c → isWordChar c = false ∧ c ≠ '`'

private theorem readQuoted_doubled (cs : List Char) {rest : List Char}
    (hrest : rest.head? ≠ some '`') :
    readQuoted (Text.doubled '`' cs ++ '`' :: rest) = some (cs, rest) := by
  induction cs with
  | nil =>
    cases rest with
    | nil => rfl
    | cons c rest =>
      have hc : c ≠ '`' := by simpa using hrest
      simp [Text.doubled, readQuoted, hc]
  | cons c cs ih =>
    by_cases hc : c = '`'
    · simp [Text.doubled, hc, readQuoted, ih]
    · simp [Text.doubled, hc, readQuoted, ih]

private theorem readName_plain {name rest : List Char} (hname : isPlainIdentifier name = true)
    (hrest : Ends rest) : readName (name ++ rest) = some (name, rest) := by
  cases name with
  | nil => cases hname
  | cons c cs =>
    obtain ⟨hfirst, hcs⟩ := Bool.and_eq_true_iff.mp hname
    have hc : c ≠ '`' := by
      rintro rfl
      cases hfirst
    have hword : ∀ d ∈ cs, isWordChar d = true := List.all_eq_true.mp hcs
    have hhead : rest.takeWhile isWordChar = [] ∧ rest.dropWhile isWordChar = rest := by
      cases rest with
      | nil => exact ⟨rfl, rfl⟩
      | cons d rest => simp [(hrest d rfl).1]
    rw [List.cons_append, readName, if_pos hfirst, List.takeWhile_append_of_pos hword,
      List.dropWhile_append_of_pos hword, hhead.1, hhead.2, List.append_nil]
    exact hc

theorem readName_quoteIdentifier (name : String) {rest : List Char} (hrest : Ends rest) :
    readName ((quoteIdentifier name).toList ++ rest) = some (name.toList, rest) := by
  unfold quoteIdentifier
  split
  · next h => exact readName_plain (Bool.and_eq_true_iff.mp h).1 hrest
  · have hhead : rest.head? ≠ some '`' := fun h => (hrest _ h).2 rfl
    rw [String.toList_ofList, List.cons_append, List.append_assoc, readName]
    exact readQuoted_doubled name.toList hhead

private theorem write_cons_cons (name other : String) (others : List String) :
    write (name :: other :: others) = quoteIdentifier name ++ "," ++ write (other :: others) :=
  String.intercalate_cons_cons

/-- The list is read up to a text that continues neither a name nor the list. -/
theorem read_write {names : List String} (hnames : names ≠ []) {rest : List Char}
    (hrest : Ends rest) (hcomma : rest.head? ≠ some ',') :
    read ((write names).toList ++ rest) = some (names, rest) := by
  induction names with
  | nil => exact absurd rfl hnames
  | cons name names ih =>
    cases names with
    | nil =>
      have hlast : write [name] = quoteIdentifier name := String.intercalate_singleton
      rw [hlast, read_last (readName_quoteIdentifier name hrest) hcomma, String.ofList_toList]
    | cons other others =>
      have hends : Ends (',' :: ((write (other :: others)).toList ++ rest)) := by
        intro c hc
        obtain rfl : ',' = c := Option.some.inj hc
        decide
      have hlist : (write (name :: other :: others)).toList ++ rest =
          (quoteIdentifier name).toList ++ ',' :: ((write (other :: others)).toList ++ rest) := by
        rw [write_cons_cons, String.toList_append, String.toList_append, List.append_assoc,
          List.append_assoc]
        rfl
      rw [hlist, read_comma (readName_quoteIdentifier name hends) (ih (List.cons_ne_nil _ _)),
        String.ofList_toList]

private theorem ends_nil : Ends [] := by
  intro c hc
  cases hc

theorem read_write_all {names : List String} (hnames : names ≠ []) :
    read (write names).toList = some (names, []) := by
  have hread := read_write hnames ends_nil (by simp)
  rwa [List.append_nil] at hread

/-- Lists that are written alike are the same list. -/
theorem write_injective : Function.Injective write := by
  have hread (names : List String) :
      (read (write names).toList).map Prod.fst = if names = [] then none else some names := by
    split
    · next h =>
      subst h
      have hnil : read (write []).toList = none := by
        rw [read]
        rfl
      rw [hnil]
      rfl
    · next h =>
      rw [read_write_all h]
      rfl
  intro names others h
  have hsame := hread names
  rw [h, hread others] at hsame
  by_cases hnames : names = [] <;> by_cases hothers : others = [] <;> simp_all

/-! ## Names without backticks -/

private theorem upper_reserved : ∀ word ∈ reservedWords, Text.upper word = word := by decide

/-- A name that is written without backticks is a plain identifier, and no text that differs from
it in letter case only is a reserved word. -/
theorem write_bare {name : String} (h : '`' ∉ (quoteIdentifier name).toList) :
    quoteIdentifier name = name ∧ isPlainIdentifier name.toList = true ∧
      ∀ other, Text.upper other = Text.upper name → other ∉ reservedWords := by
  unfold quoteIdentifier at h ⊢
  split at h
  · next hbare =>
    obtain ⟨hplain, hfree⟩ := Bool.and_eq_true_iff.mp hbare
    refine ⟨if_pos hbare, hplain, fun other hsame hother => ?_⟩
    rw [upper_reserved other hother] at hsame
    rw [isReserved, ← hsame, List.contains_iff_mem.mpr hother] at hfree
    cases hfree
  · simp at h

end RecordGateway.ColumnList
