import RecordGateway.Gateway.Request
import RecordGateway.Proofs.Keyed
/-! # Names of binds -/
namespace RecordGateway

def namePlaceholder (name : String) : String := ":" ++ name

def suffixed (base : String) (k : Nat) : String := base ++ "_" ++ k.repr

theorem repr_injective {j k : Nat} (h : j.repr = k.repr) : j = k := by
  have hd : Nat.toDigits 10 j = Nat.toDigits 10 k := by
    simpa only [Nat.toList_repr] using congrArg String.toList h
  simpa only [Nat.ofDigitChars_ten_toDigits] using congrArg (Nat.ofDigitChars 10 · 0) hd

private theorem suffixed_injective {base : String} {j k : Nat}
    (h : suffixed base j = suffixed base k) :
    j = k :=
  repr_injective (String.append_right_inj _ |>.mp h)

private theorem suffixed_ne_base (base : String) (k : Nat) : suffixed base k ≠ base := by
  intro h
  have hl := congrArg String.length h
  simp only [suffixed, String.length_append] at hl
  have hu : "_".length = 1 := rfl
  omega

/-- The names that are tried for a base: the base, then the base with `_2`, `_3`, …. -/
def nthName (base : String) : Nat → String
  | 0 => base
  | n + 1 => suffixed base (n + 2)

private theorem nthName_injective (base : String) : Function.Injective (nthName base) := by
  intro i j h
  cases i with
  | zero =>
    cases j with
    | zero => rfl
    | succ j => exact (suffixed_ne_base base _ h.symm).elim
  | succ i =>
    cases j with
    | zero => exact (suffixed_ne_base base _ h).elim
    | succ j =>
      have hsuffix := suffixed_injective h
      omega

theorem nthName_extends (base : String) (n : Nat) : ∃ rest, nthName base n = base ++ rest := by
  cases n with
  | zero => exact ⟨"", String.append_empty.symm⟩
  | succ n => exact ⟨"_" ++ (n + 2).repr, String.append_assoc⟩

theorem isBound_iff (binds : Binds) (name : String) :
    isBound binds name ↔ namePlaceholder name ∈ binds.entries.map Prod.fst :=
  entryAt_isSome _ _

/-- The names for a base are distinct, so no more of them are bound than there are binds. -/
theorem le_size_of_bound {base : String} {binds : Binds} {n : Nat}
    (h : ∀ i < n, isBound binds (nthName base i)) : n ≤ binds.size := by
  let placeholders := (List.range n).map fun i => namePlaceholder (nthName base i)
  have hdistinct : placeholders.Nodup :=
    List.Pairwise.map _
      (fun _ _ hne he => hne (nthName_injective base (String.append_right_inj _ |>.mp he)))
      List.nodup_range
  have hbound : placeholders ⊆ binds.entries.map Prod.fst := by
    intro name hname
    obtain ⟨i, hi, rfl⟩ := List.mem_map.mp hname
    exact (isBound_iff _ _).mp (h i (List.mem_range.mp hi))
  have hlength := hdistinct.length_le_of_subset hbound
  rw [List.length_map, List.length_range, List.length_map] at hlength
  exact hlength

/-- The place of the first name for a base that is free. -/
structure FirstFree (base : String) (binds : Binds) (n : Nat) : Prop where
  passed : ∀ i < n, isBound binds (nthName base i)
  free : isBound binds (nthName base n) = false

theorem FirstFree.unique {base : String} {binds : Binds} {m n : Nat}
    (hm : FirstFree base binds m) (hn : FirstFree base binds n) : m = n := by
  rcases Nat.lt_trichotomy m n with hlt | rfl | hlt
  · have hbound := hn.passed m hlt
    rw [hm.free] at hbound
    cases hbound
  · rfl
  · have hbound := hm.passed n hlt
    rw [hn.free] at hbound
    cases hbound

theorem passed_succ {base : String} {binds : Binds} {n : Nat}
    (h : ∀ i < n, isBound binds (nthName base i)) (hn : isBound binds (nthName base n)) :
    ∀ i < n + 1, isBound binds (nthName base i) := by
  intro i hi
  rcases Nat.lt_succ_iff_lt_or_eq.mp hi with hlt | rfl
  · exact h i hlt
  · exact hn

/-- The search does not run out of tries: with none left, more names would be bound than there are
binds. -/
theorem freeSuffix_firstFree {base : String} {binds : Binds} {tries n : Nat}
    (hpassed : ∀ i < n + 1, isBound binds (nthName base i)) (htries : binds.size ≤ n + tries) :
    ∃ j, FirstFree base binds j ∧ freeSuffix base binds tries (n + 2) = nthName base j := by
  induction tries generalizing n with
  | zero =>
    have hsize := le_size_of_bound hpassed
    omega
  | succ tries ih =>
    have hname : base ++ "_" ++ (n + 2).repr = nthName base (n + 1) := rfl
    rw [freeSuffix, hname]
    cases hn : isBound binds (nthName base (n + 1)) with
    | false => exact ⟨n + 1, ⟨hpassed, hn⟩, if_neg Bool.false_ne_true⟩
    | true =>
      rw [if_pos rfl]
      exact ih (passed_succ hpassed hn) (by omega)

/-- The name that is made for a field is the first free one for its base. -/
theorem bindName_firstFree (lead field : String) (binds : Binds) :
    ∃ n, FirstFree (lead ++ sanitized field) binds n ∧
      bindName lead field binds = nthName (lead ++ sanitized field) n := by
  rw [bindName]
  cases hbase : isBound binds (lead ++ sanitized field) with
  | false => exact ⟨0, ⟨by simp, hbase⟩, if_neg Bool.false_ne_true⟩
  | true =>
    simp only [if_true]
    exact freeSuffix_firstFree (passed_succ (by simp) hbase) (by omega)

theorem bindName_extends (lead field : String) (binds : Binds) :
    ∃ rest, bindName lead field binds = lead ++ sanitized field ++ rest := by
  obtain ⟨n, -, hname⟩ := bindName_firstFree lead field binds
  rw [hname]
  exact nthName_extends _ n

theorem bindName_free (lead field : String) (binds : Binds) :
    isBound binds (bindName lead field binds) = false := by
  obtain ⟨n, hfirst, hname⟩ := bindName_firstFree lead field binds
  rw [hname]
  exact hfirst.free

def IsWordText (s : String) : Prop := ∀ c ∈ s.toList, isWordChar c

instance (s : String) : Decidable (IsWordText s) :=
  decidable_of_iff (s.toList.all isWordChar = true) List.all_eq_true

private theorem IsWordText.append {s t : String} (hs : IsWordText s) (ht : IsWordText t) :
    IsWordText (s ++ t) := by
  intro c hc
  rw [String.toList_append] at hc
  exact (List.mem_append.mp hc).elim (hs c) (ht c)

private theorem sanitized_isWordText (field : String) : IsWordText (sanitized field) := by
  intro c hc
  simp only [sanitized, String.toList_ofList, List.mem_map] at hc
  obtain ⟨b, -, rfl⟩ := hc
  by_cases hb : isWordChar b
  · rwa [if_pos hb]
  · rw [if_neg hb]
    rfl

theorem repr_isWordText (k : Nat) : IsWordText k.repr := by
  intro c hc
  rw [Nat.toList_repr] at hc
  have hd : c.isDigit := Nat.isDigit_of_mem_toDigits (by decide) (by decide) hc
  simp [isWordChar, Char.isAlphanum, hd]

theorem bindName_isWordText {lead : String} (hlead : IsWordText lead) (field : String)
    (binds : Binds) : IsWordText (bindName lead field binds) := by
  have hbase := hlead.append (sanitized_isWordText field)
  obtain ⟨n, -, hname⟩ := bindName_firstFree lead field binds
  rw [hname]
  cases n with
  | zero => exact hbase
  | succ n => exact (hbase.append (by decide)).append (repr_isWordText (n + 2))

theorem parameterName_of_isWordText {name : String} (h : IsWordText name) :
    Binds.parameterName name = namePlaceholder name := by
  unfold Binds.parameterName
  rw [if_neg]
  · rfl
  · intro hc
    have hword := h ':' (List.mem_of_mem_head? hc)
    exact absurd hword (by decide)

end RecordGateway
