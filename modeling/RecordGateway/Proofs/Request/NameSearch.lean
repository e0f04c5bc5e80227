import Mathlib.Order.Bounds.Defs
import RecordGateway.Proofs.Request.Naming
/-!
# The search for a name

A name for a field is sought without any bound on the tries: as long as the name in hand is bound,
the next suffix is put to the base.
-/
namespace RecordGateway

/-- A search under way: the names tried so far, the last of them, which is in hand, and the suffix
that comes next. -/
structure NameSearch where
  tried : List String
  name : String
  next : Nat

namespace NameSearch

def start (base : String) : NameSearch := ⟨[base], base, 2⟩

def pass (base : String) (s : NameSearch) : NameSearch :=
  ⟨s.tried ++ [suffixed base s.next], suffixed base s.next, s.next + 1⟩

/-- What a search for a base comes to. It passes on from every name that is bound and from no
other. -/
inductive Reached (base : String) (binds : Binds) : NameSearch → Prop where
  | start : Reached base binds (start base)
  | pass {s : NameSearch} (run : Reached base binds s) (bound : isBound binds s.name) :
      Reached base binds (s.pass base)

/-- The search after a number of passes. -/
def after (base : String) (n : Nat) : NameSearch :=
  ⟨(List.range (n + 1)).map (nthName base), nthName base n, n + 2⟩

private theorem pass_after (base : String) (n : Nat) :
    (after base n).pass base = after base (n + 1) := by
  have hname : nthName base (n + 1) = suffixed base (n + 2) := rfl
  rw [pass, after, after, List.range_succ (n := n + 1), List.map_append, List.map_singleton, hname]

private theorem after_tried_length (base : String) (n : Nat) :
    (after base n).tried.length = n + 1 := by
  rw [after, List.length_map, List.length_range]

theorem Reached.eq_after {base : String} {binds : Binds} {s : NameSearch}
    (h : Reached base binds s) :
    ∃ n, s = after base n ∧ ∀ i < n, isBound binds (nthName base i) := by
  induction h with
  | start => exact ⟨0, rfl, by simp⟩
  | pass _ hbound ih =>
    obtain ⟨n, rfl, hpassed⟩ := ih
    exact ⟨n + 1, pass_after base n, passed_succ hpassed hbound⟩

private theorem reached_after {base : String} {binds : Binds} {n : Nat}
    (h : ∀ i < n, isBound binds (nthName base i)) : Reached base binds (after base n) := by
  induction n with
  | zero => exact .start
  | succ n ih =>
    have hrun := ih fun i hi => h i (by omega)
    rw [← pass_after]
    exact hrun.pass (h n (by omega))

/-- The search ends at the name: it comes to it, passes on from every other name that it takes in
hand, and never tries more than one name beyond the number of binds. -/
structure EndsAt (base : String) (binds : Binds) (name : String) : Prop where
  comes : ∃ s, Reached base binds s ∧ s.name = name
  stops : ∀ s, Reached base binds s → (isBound binds s.name = false ↔ s.name = name)
  tries : ∀ s, Reached base binds s → s.tried.length ≤ binds.size + 1
  /-- A suffix of 32 bits counts the same, as long as the binds are fewer than its values. -/
  bounded : (↑(binds.size + 2) : Int) ≤ Int32.maxValue.toInt → ∀ s, Reached base binds s →
    (Int32.ofNat s.next).toInt = s.next

private theorem endsAt_bindName (lead field : String) (binds : Binds) :
    EndsAt (lead ++ sanitized field) binds (bindName lead field binds) := by
  obtain ⟨n, hfirst, hname⟩ := bindName_firstFree lead field binds
  rw [hname]
  refine ⟨⟨_, reached_after hfirst.passed, rfl⟩, fun s hs => ?_, fun s hs => ?_,
    fun hfew s hs => ?_⟩
  · obtain ⟨m, rfl, hpassed⟩ := hs.eq_after
    constructor
    · intro hfree
      have hm : FirstFree (lead ++ sanitized field) binds m := ⟨hpassed, hfree⟩
      rw [hm.unique hfirst]
      rfl
    · intro hstop
      rw [hstop]
      exact hfirst.free
  · obtain ⟨m, rfl, hpassed⟩ := hs.eq_after
    rw [after_tried_length]
    exact Nat.succ_le_succ (le_size_of_bound hpassed)
  · obtain ⟨m, rfl, hpassed⟩ := hs.eq_after
    have hnext : m + 2 ≤ binds.size + 2 := Nat.add_le_add_right (le_size_of_bound hpassed) 2
    have hlast : Int32.maxValue.toInt = 2147483647 := by decide
    rw [hlast] at hfew
    refine Int32.toInt_ofNat_of_lt (Nat.lt_of_le_of_lt hnext ?_)
    omega

end NameSearch

private theorem bindName_of_free {lead field : String} {binds : Binds}
    (h : isBound binds (lead ++ sanitized field) = false) :
    bindName lead field binds = lead ++ sanitized field :=
  if_neg (ne_true_of_eq_false h)

private theorem bindName_of_bound {lead field : String} {binds : Binds}
    (h : isBound binds (lead ++ sanitized field)) :
    ∃ k, IsLeast {k | 2 ≤ k ∧ isBound binds (suffixed (lead ++ sanitized field) k) = false} k ∧
      bindName lead field binds = suffixed (lead ++ sanitized field) k := by
  obtain ⟨n, hfirst, hname⟩ := bindName_firstFree lead field binds
  cases n with
  | zero =>
    have hfree : isBound binds (lead ++ sanitized field) = false := hfirst.free
    rw [h] at hfree
    cases hfree
  | succ n =>
    refine ⟨n + 2, ⟨⟨by omega, hfirst.free⟩, ?_⟩, hname⟩
    rintro k ⟨hk, hfree⟩
    by_contra hlt
    obtain ⟨i, rfl⟩ := Nat.exists_eq_add_of_le' hk
    have hbound : isBound binds (suffixed (lead ++ sanitized field) (i + 2)) :=
      hfirst.passed (i + 1) (by omega)
    rw [hfree] at hbound
    cases hbound

/-- The search for a name ends, after at most one more name than there are binds, at the name that
is made for the field. That name consists of word characters and is not bound yet. It is the lead
with the sanitized field where that is free, and otherwise that text with the least suffix from two
on that makes it free. -/
theorem bindName_sought {lead : String} (hlead : IsWordText lead) (field : String)
    (binds : Binds) :
    NameSearch.EndsAt (lead ++ sanitized field) binds (bindName lead field binds) ∧
      IsWordText (bindName lead field binds) ∧
      isBound binds (bindName lead field binds) = false ∧
      (isBound binds (lead ++ sanitized field) = false →
        bindName lead field binds = lead ++ sanitized field) ∧
      (isBound binds (lead ++ sanitized field) →
        ∃ k, IsLeast {k | 2 ≤ k ∧ isBound binds (suffixed (lead ++ sanitized field) k) = false} k ∧
          bindName lead field binds = suffixed (lead ++ sanitized field) k) :=
  ⟨NameSearch.endsAt_bindName lead field binds, bindName_isWordText hlead field binds,
    bindName_free lead field binds, bindName_of_free, bindName_of_bound⟩

/-- Binds that hold the base of a name and two of its suffixes, with one free between these. -/
def gappedBinds : Binds :=
  .ofList [("o_p_first_name", .boolean true), (":o_p_first_name_2", .null),
    ("o_p_first_name_4", .text "")]

theorem bindName_sought_gap :
    IsWordText "o_" ∧ NameSearch.EndsAt "o_p_first_name" gappedBinds "o_p_first_name_3" ∧
      IsWordText "o_p_first_name_3" ∧ isBound gappedBinds "o_p_first_name_3" = false ∧
      isBound gappedBinds "o_p_first_name" ∧
      ∃ k, IsLeast {k | 2 ≤ k ∧ isBound gappedBinds (suffixed "o_p_first_name" k) = false} k ∧
        "o_p_first_name_3" = suffixed "o_p_first_name" k := by
  have hbase : "o_" ++ sanitized "p.first name" = "o_p_first_name" := by decide
  have hname : bindName "o_" "p.first name" gappedBinds = "o_p_first_name_3" := by decide +kernel
  have hbound : isBound gappedBinds "o_p_first_name" := by decide +kernel
  have hlead : IsWordText "o_" := by decide
  obtain ⟨hends, hword, hfree, -, hleast⟩ := bindName_sought hlead "p.first name" gappedBinds
  rw [hbase, hname] at hends hleast
  rw [hname] at hword hfree
  exact ⟨hlead, hends, hword, hfree, hbound, hleast hbound⟩

end RecordGateway
