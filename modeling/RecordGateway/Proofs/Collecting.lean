import Mathlib.Data.Finset.Card
import Mathlib.Data.List.Induction
import RecordGateway.Binds
import RecordGateway.Proofs.Keyed
/-!
# Entries collected by key

What a map holds after entries were put in one after the other, with keys that repeat: each key
stands where it first came, with the value that came last.
-/
namespace RecordGateway

/-- The value that is put last under a key. -/
def IsLast {α : Type} (entries : List (String × α)) (key : String) (value : α) : Prop :=
  ∃ before later, entries = before ++ (key, value) :: later ∧ key ∉ later.map Prod.fst

private theorem isLast_nil {α : Type} (key : String) (value : α) : ¬IsLast [] key value := by
  rintro ⟨before, later, hentries, -⟩
  simp at hentries

private theorem isLast_snoc {α : Type} (entries : List (String × α)) (key other : String)
    (new value : α) :
    IsLast (entries ++ [(key, new)]) other value ↔
      if key = other then new = value else IsLast entries other value := by
  constructor
  · rintro ⟨before, later, hentries, hlater⟩
    rcases List.eq_nil_or_concat later with rfl | ⟨later, last, rfl⟩
    · obtain ⟨-, hlast⟩ := List.append_inj' hentries rfl
      cases hlast
      rw [if_pos rfl]
    · rw [List.concat_eq_append, ← List.cons_append, ← List.append_assoc] at hentries
      obtain ⟨hbefore, hlast⟩ := List.append_inj' hentries rfl
      cases hlast
      rw [List.concat_eq_append, List.map_append, List.mem_append, not_or] at hlater
      rw [if_neg fun heq => hlater.2 (List.mem_singleton.mpr heq.symm)]
      exact ⟨before, later, hbefore, hlater.1⟩
  · split
    · next hkey =>
      rintro rfl
      exact ⟨entries, [], by rw [hkey], List.not_mem_nil⟩
    · next hkey =>
      rintro ⟨before, later, rfl, hlater⟩
      refine ⟨before, later ++ [(key, new)], by simp, ?_⟩
      rw [List.map_append, List.mem_append, not_or]
      exact ⟨hlater, fun h => hkey (List.mem_singleton.mp h).symm⟩

namespace Keyed

/-- A map after entries were put in one after the other: its keys are theirs, each once and in the
order in which they first came, and a key has the value that was put last under it. -/
structure Collects {α : Type} (m : Keyed α) (entries : List (String × α)) : Prop where
  distinct : m.keys.Nodup
  mem_keys : ∀ key, key ∈ m.keys ↔ key ∈ entries.map Prod.fst
  order : m.keys.Pairwise fun a b =>
    (entries.map Prod.fst).idxOf a < (entries.map Prod.fst).idxOf b
  size : m.size = (entries.map Prod.fst).toFinset.card
  found : ∀ key value, m.get? key = some value ↔ IsLast entries key value
  missing : ∀ key, m.get? key = none ↔ key ∉ entries.map Prod.fst
  entries : ∀ key value, (key, value) ∈ m.entries ↔ IsLast entries key value
  rebuilt : ofList m.entries = m

section

variable {α : Type} {m : Keyed α} {entries : List (String × α)}

theorem ofList_entries (m : Keyed α) : ofList m.entries = m := by
  have hentries := entries_ofList m.entries m.distinct
  cases m
  exact Keyed.mk.injEq .. |>.mpr hentries

theorem collects_of (mem_keys : ∀ key, key ∈ m.keys ↔ key ∈ entries.map Prod.fst)
    (order : m.keys.Pairwise fun a b =>
      (entries.map Prod.fst).idxOf a < (entries.map Prod.fst).idxOf b)
    (found : ∀ key value, m.get? key = some value ↔ IsLast entries key value) :
    m.Collects entries where
  distinct := m.distinct
  mem_keys := mem_keys
  order := order
  size := by
    have hkeys : m.keys.toFinset = (entries.map Prod.fst).toFinset := by
      ext key
      rw [List.mem_toFinset, List.mem_toFinset, mem_keys]
    have hdistinct : m.keys.Nodup := m.distinct
    rw [← hkeys, List.toFinset_card_of_nodup hdistinct, keys, List.length_map, Keyed.size]
  found := found
  missing key := by
    rw [← mem_keys, get?, keys, ← entryAt_isSome, Option.not_isSome_iff_eq_none]
  entries key value := by rw [← m.get?_eq_some, found]
  rebuilt := m.ofList_entries

private theorem empty_collects : (empty : Keyed α).Collects [] :=
  collects_of (fun _ => Iff.rfl) List.Pairwise.nil fun key value =>
    iff_of_false (by simp [get?, empty, entryAt]) (isLast_nil key value)

private theorem Collects.insert (h : m.Collects entries) (key : String) (value : α) :
    (m.insert key value).Collects (entries ++ [(key, value)]) := by
  have hnames : (entries ++ [(key, value)]).map Prod.fst = entries.map Prod.fst ++ [key] :=
    List.map_append
  have hearlier {a b : String} (ha : a ∈ m.keys) (hb : b ∈ m.keys)
      (hab : (entries.map Prod.fst).idxOf a < (entries.map Prod.fst).idxOf b) :
      ((entries ++ [(key, value)]).map Prod.fst).idxOf a <
        ((entries ++ [(key, value)]).map Prod.fst).idxOf b := by
    rw [hnames, List.idxOf_append_of_mem ((h.mem_keys a).mp ha),
      List.idxOf_append_of_mem ((h.mem_keys b).mp hb)]
    exact hab
  refine collects_of (fun other => ?_) ?_ fun other sought => ?_
  · rw [hnames, List.mem_append, List.mem_singleton, ← h.mem_keys, keys_insert]
    by_cases hknown : key ∈ m.keys
    · rw [if_pos hknown]
      exact ⟨.inl, fun hother => hother.elim id fun heq => heq ▸ hknown⟩
    · rw [if_neg hknown, List.mem_append, List.mem_singleton]
  · have hold := h.order.imp_of_mem hearlier
    rw [keys_insert]
    by_cases hknown : key ∈ m.keys
    · rw [if_pos hknown]
      exact hold
    · rw [if_neg hknown]
      refine List.pairwise_append.mpr ⟨hold, List.pairwise_singleton .., fun a ha b hb => ?_⟩
      obtain rfl := List.mem_singleton.mp hb
      have hmem := (h.mem_keys a).mp ha
      rw [hnames, List.idxOf_append_of_mem hmem,
        List.idxOf_append_of_notMem fun hb => hknown ((h.mem_keys b).mpr hb)]
      exact (List.idxOf_lt_length_of_mem hmem).trans_le (Nat.le_add_right ..)
  · rw [get?_insert, isLast_snoc]
    split
    · exact Option.some_inj
    · exact h.found other sought

theorem Collects.insertAll (h : m.Collects entries) (more : List (String × α)) :
    (m.insertAll more).Collects (entries ++ more) := by
  induction more generalizing m entries with
  | nil => rwa [List.append_nil]
  | cons entry more ih =>
    rw [List.append_cons]
    exact ih (h.insert entry.1 entry.2)

theorem ofList_collects (entries : List (String × α)) : (ofList entries).Collects entries :=
  empty_collects.insertAll entries

theorem Collects.subset (h : m.Collects entries) : m.entries ⊆ entries := by
  intro entry hentry
  obtain ⟨before, later, heq, -⟩ := (h.entries entry.1 entry.2).mp hentry
  rw [heq]
  exact List.mem_append_right _ (List.mem_cons_self ..)

theorem Collects.isEmpty (h : m.Collects entries) (hne : entries ≠ []) : m.isEmpty = false := by
  obtain ⟨entry, rest, rfl⟩ := List.exists_cons_of_ne_nil hne
  have hkey := (h.mem_keys entry.1).mpr (List.mem_cons_self ..)
  rw [Keyed.isEmpty, List.isEmpty_eq_false_iff]
  intro hnil
  rw [keys, hnil] at hkey
  cases hkey

theorem ofList_snoc (entries : List (String × α)) (entry : String × α) :
    ofList (entries ++ [entry]) = (ofList entries).insert entry.1 entry.2 :=
  List.foldl_append

theorem find?_keys (m : Keyed α) (entries : List (String × α)) (test : String → Bool) :
    (m.insertAll entries).keys.find? test = (m.keys ++ entries.map Prod.fst).find? test := by
  induction entries generalizing m with
  | nil => rw [List.map_nil, List.append_nil]; rfl
  | cons entry entries ih =>
    have hstep : (m.insert entry.1 entry.2).keys.find? test =
        (m.keys ++ [entry.1]).find? test := by
      rw [keys_insert]
      split
      · next hknown =>
        -- a key that is known adds nothing to find: had it passed, it was found before
        rw [List.find?_append]
        cases hfound : m.keys.find? test with
        | some name => rfl
        | none => rw [List.find?_singleton, if_neg (List.find?_eq_none.mp hfound _ hknown)]; rfl
      · rfl
    rw [List.map_cons, List.append_cons, List.find?_append, ← hstep, ← List.find?_append]
    exact ih (m.insert entry.1 entry.2)

end

end Keyed

/-! ## Bind lists -/

namespace Binds

def named (entry : String × Value) : String × Value := (parameterName entry.1, entry.2)

private theorem extend_values (binds : Binds) (entries : List (String × Value)) :
    (binds.extend entries).values = binds.values.insertAll (entries.map named) := by
  induction entries generalizing binds with
  | nil => rfl
  | cons entry entries ih => exact ih (binds.bind entry.1 entry.2)

private theorem parameterName_colon (name : String) :
    (parameterName name).toList.head? = some ':' := by
  unfold parameterName
  split
  · assumption
  · rw [String.toList_append]
    rfl

/-- A bind list after values were bound one after the other, each under a name with or without
its colon. -/
structure Collects (binds : Binds) (entries : List (String × Value)) : Prop where
  values : binds.values.Collects (entries.map named)
  rebuilt : ofList binds.entries = binds

private theorem named_of_colon {entries : List (String × Value)}
    (hcolon : ∀ entry ∈ entries, entry.1.toList.head? = some ':') :
    entries.map named = entries := by
  have hnamed (entry : String × Value) (hentry : entry ∈ entries) : named entry = id entry :=
    Prod.ext (if_pos (hcolon entry hentry)) rfl
  rw [List.map_congr_left hnamed, List.map_id]

theorem ofList_values {entries : List (String × Value)}
    (hcolon : ∀ entry ∈ entries, entry.1.toList.head? = some ':') :
    (ofList entries).values = .ofList entries := by
  rw [ofList, extend_values, named_of_colon hcolon]
  rfl

theorem ofList_colon (entries : List (String × Value)) :
    ∀ entry ∈ (ofList entries).entries, entry.1.toList.head? = some ':' := by
  intro entry hentry
  have hname : entry.1 ∈ (ofList entries).values.keys := List.mem_map_of_mem hentry
  rw [ofList, extend_values] at hname
  obtain ⟨given, hgiven, hfirst⟩ :=
    List.mem_map.mp (((Keyed.ofList_collects (entries.map named)).mem_keys _).mp hname)
  obtain ⟨bound, -, rfl⟩ := List.mem_map.mp hgiven
  rw [← hfirst]
  exact parameterName_colon bound.1

private theorem ofList_entries {binds : Binds}
    (hcolon : ∀ entry ∈ binds.entries, entry.1.toList.head? = some ':') :
    ofList binds.entries = binds := by
  have hvalues := ofList_values hcolon
  cases binds
  exact congrArg Binds.mk (hvalues.trans (Keyed.ofList_entries _))

theorem ofList_collects (entries : List (String × Value)) : (ofList entries).Collects entries where
  values := by
    rw [ofList, extend_values]
    exact Keyed.ofList_collects _
  rebuilt := ofList_entries (ofList_colon entries)

/-- Binding more and more is binding all of it at once. -/
theorem foldl_extend (first : List (String × Value)) (batches : List (List (String × Value))) :
    batches.foldl extend (ofList first) = ofList (first ++ batches.flatten) := by
  rw [ofList, ofList, extend, extend, List.foldl_append, List.foldl_flatten]
  rfl

end Binds

end RecordGateway
