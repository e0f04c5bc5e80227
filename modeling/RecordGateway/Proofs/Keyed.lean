import Mathlib.Data.List.Forall2
import RecordGateway.Keyed
/-!
# Insertion-ordered maps as lists

Inserting under a new key appends an entry, and looking up a key finds the one entry that has it.
-/
namespace RecordGateway

private theorem putEntry_fresh {α : Type} (key : String) (value : α) (entries : List (String × α))
    (h : key ∉ entries.map Prod.fst) : putEntry key value entries = entries ++ [(key, value)] := by
  induction entries with
  | nil => rfl
  | cons entry rest ih =>
    obtain ⟨k, v⟩ := entry
    simp only [List.map_cons, List.mem_cons, not_or] at h
    simp only [putEntry, if_neg (Ne.symm h.1), ih h.2, List.cons_append]

theorem entryAt_isSome {α : Type} (key : String) (entries : List (String × α)) :
    (entryAt key entries).isSome ↔ key ∈ entries.map Prod.fst := by
  induction entries with
  | nil => simp [entryAt]
  | cons entry rest ih =>
    obtain ⟨k, v⟩ := entry
    by_cases hk : k = key
    · simp [entryAt, hk]
    · simp only [entryAt, if_neg hk, ih, List.map_cons, List.mem_cons, Ne.symm hk, false_or]

private theorem entryAt_eq_some {α : Type} {entries : List (String × α)}
    (hn : (entries.map Prod.fst).Nodup) (key : String) (value : α) :
    entryAt key entries = some value ↔ (key, value) ∈ entries := by
  induction entries with
  | nil => simp [entryAt]
  | cons entry rest ih =>
    obtain ⟨k, v⟩ := entry
    obtain ⟨hk, hrest⟩ := List.nodup_cons.mp hn
    by_cases he : k = key
    · subst he
      have hnot : (k, value) ∉ rest := fun hm =>
        hk (List.mem_map.mpr ⟨_, hm, rfl⟩)
      simp [entryAt, hnot, eq_comm]
    · simp only [entryAt, if_neg he, ih hrest, List.mem_cons, Prod.mk.injEq, Ne.symm he, false_and,
        false_or]

private theorem mem_putEntry {α : Type} {key : String} {value : α} {entries : List (String × α)}
    {entry : String × α} (h : entry ∈ putEntry key value entries) :
    entry = (key, value) ∨ entry ∈ entries := by
  induction entries with
  | nil => exact .inl (List.mem_singleton.mp h)
  | cons first rest ih =>
    rw [putEntry] at h
    split at h
    · next hk =>
      rcases List.mem_cons.mp h with rfl | h
      · exact .inl (by rw [hk])
      · exact .inr (List.mem_cons_of_mem _ h)
    · rcases List.mem_cons.mp h with rfl | h
      · exact .inr (List.mem_cons_self ..)
      · exact (ih h).imp id (List.mem_cons_of_mem _)

theorem putEntry_forall₂ {α β : Type} {R : String × α → String × β → Prop}
    (hkeys : ∀ a b, R a b → a.1 = b.1) {key : String} {x : α} {y : β} (hentry : R (key, x) (key, y))
    {as : List (String × α)} {bs : List (String × β)} (h : List.Forall₂ R as bs) :
    List.Forall₂ R (putEntry key x as) (putEntry key y bs) := by
  induction h with
  | nil => exact .cons hentry .nil
  | @cons a b as bs hab hrest ih =>
    obtain ⟨k, v⟩ := a
    obtain ⟨k', w⟩ := b
    obtain rfl : k = k' := hkeys _ _ hab
    by_cases hk : k = key
    · subst hk
      rw [putEntry, putEntry, if_pos rfl, if_pos rfl]
      exact .cons hentry hrest
    · rw [putEntry, putEntry, if_neg hk, if_neg hk]
      exact .cons hab ih

namespace Keyed

theorem insert_fresh {α : Type} (m : Keyed α) (key : String) (value : α)
    (h : key ∉ m.entries.map Prod.fst) :
    (m.insert key value).entries = m.entries ++ [(key, value)] :=
  putEntry_fresh key value m.entries h

theorem get?_eq_some {α : Type} (m : Keyed α) (key : String) (value : α) :
    m.get? key = some value ↔ (key, value) ∈ m.entries :=
  entryAt_eq_some m.distinct key value

private theorem entries_insertAll {α : Type} (m : Keyed α) (entries : List (String × α))
    (h : ((m.entries ++ entries).map Prod.fst).Nodup) :
    (m.insertAll entries).entries = m.entries ++ entries := by
  induction entries generalizing m with
  | nil => simp [insertAll]
  | cons entry rest ih =>
    obtain ⟨key, value⟩ := entry
    have hfresh : key ∉ m.entries.map Prod.fst := by
      intro hm
      rw [List.map_append] at h
      exact (List.nodup_append.mp h).2.2 key hm key (by simp) rfl
    have hi := m.insert_fresh key value hfresh
    have hrest := ih (m.insert key value) (by simpa [hi] using h)
    rw [hi, List.append_assoc] at hrest
    exact hrest

theorem entries_ofList {α : Type} (entries : List (String × α))
    (h : (entries.map Prod.fst).Nodup) : (ofList entries).entries = entries :=
  entries_insertAll empty entries (by simpa [empty] using h)

private theorem mem_insertAll {α : Type} {m : Keyed α} {entries : List (String × α)}
    {entry : String × α}
    (h : entry ∈ (m.insertAll entries).entries) : entry ∈ m.entries ∨ entry ∈ entries := by
  induction entries generalizing m with
  | nil => exact .inl h
  | cons first rest ih =>
    rcases ih h with h | h
    · rcases mem_putEntry h with rfl | h
      · exact .inr (List.mem_cons_self ..)
      · exact .inl h
    · exact .inr (List.mem_cons_of_mem _ h)

theorem mem_ofList {α : Type} {entries : List (String × α)} {entry : String × α}
    (h : entry ∈ (ofList entries).entries) : entry ∈ entries :=
  (mem_insertAll h).resolve_left List.not_mem_nil

end Keyed
end RecordGateway
