/-!
# Insertion-ordered maps

An association list from text to values with pairwise distinct keys. A new key
goes to the end, a known key keeps its place and takes the new value. Records,
bind lists, assignments and select lists are all such maps.
-/
namespace RecordGateway

/-- Put a value under a key, in place when the key is known and at the end otherwise. -/
def putEntry {α : Type} (key : String) (value : α) : List (String × α) → List (String × α)
  | [] => [(key, value)]
  | (k, v) :: rest => if k = key then (k, value) :: rest else (k, v) :: putEntry key value rest

theorem putEntry_keys {α : Type} (key : String) (value : α) (entries : List (String × α)) :
    (putEntry key value entries).map Prod.fst =
      if key ∈ entries.map Prod.fst then entries.map Prod.fst
      else entries.map Prod.fst ++ [key] := by
  induction entries with
  | nil => simp [putEntry]
  | cons entry rest ih =>
    obtain ⟨k, v⟩ := entry
    by_cases h : k = key
    · simp [putEntry, h]
    · have h' : key ≠ k := fun e => h e.symm
      by_cases hm : key ∈ rest.map Prod.fst
      · rw [if_pos hm] at ih
        simp only [putEntry, h, if_false, List.map_cons, ih]
        rw [if_pos (List.mem_cons_of_mem _ hm)]
      · rw [if_neg hm] at ih
        have hc : key ∉ k :: rest.map Prod.fst := by
          simpa [List.mem_cons, h'] using hm
        simp only [putEntry, h, if_false, List.map_cons, ih]
        rw [if_neg hc]
        rfl

theorem putEntry_distinct {α : Type} (key : String) (value : α) (entries : List (String × α))
    (h : (entries.map Prod.fst).Nodup) : ((putEntry key value entries).map Prod.fst).Nodup := by
  rw [putEntry_keys]
  split
  · exact h
  · next hm =>
    refine List.nodup_append.mpr ⟨h, by simp, ?_⟩
    intro a ha b hb
    have hb' : b = key := by simpa using hb
    intro hab
    exact hm (by rw [← hb', ← hab]; exact ha)

def entryAt {α : Type} (key : String) : List (String × α) → Option α
  | [] => none
  | (k, v) :: rest => if k = key then some v else entryAt key rest

theorem entryAt_putEntry {α : Type} (key other : String) (value : α)
    (entries : List (String × α)) :
    entryAt other (putEntry key value entries) =
      if key = other then some value else entryAt other entries := by
  induction entries with
  | nil => simp [putEntry, entryAt]
  | cons entry rest ih =>
    obtain ⟨k, v⟩ := entry
    by_cases hk : k = key
    · by_cases ho : key = other <;> simp [putEntry, entryAt, hk, ho]
    · by_cases ho : k = other
      · subst ho
        have h : ¬key = k := fun e => hk e.symm
        simp [putEntry, entryAt, hk, h]
      · simp [putEntry, entryAt, hk, ho, ih]

def listsAgree {α : Type} (agree : α → α → Bool) : List α → List α → Bool
  | [], [] => true
  | a :: as, b :: bs => agree a b && listsAgree agree as bs
  | _, _ => false

def entriesAgree {α : Type} (agree : α → α → Bool) : List (String × α) → List (String × α) → Bool :=
  listsAgree fun a b => a.1 == b.1 && agree a.2 b.2

/-- A finite map that lists its entries in the order in which their keys first came. -/
structure Keyed (α : Type) where
  entries : List (String × α)
  distinct : (entries.map Prod.fst).Nodup
deriving DecidableEq

namespace Keyed

def empty {α : Type} : Keyed α := ⟨[], by simp⟩

instance {α : Type} : Inhabited (Keyed α) := ⟨empty⟩

def insert {α : Type} (m : Keyed α) (key : String) (value : α) : Keyed α :=
  ⟨putEntry key value m.entries, putEntry_distinct key value m.entries m.distinct⟩

def insertAll {α : Type} (m : Keyed α) (entries : List (String × α)) : Keyed α :=
  entries.foldl (fun m e => m.insert e.1 e.2) m

def ofList {α : Type} (entries : List (String × α)) : Keyed α := empty.insertAll entries

def get? {α : Type} (m : Keyed α) (key : String) : Option α := entryAt key m.entries

def keys {α : Type} (m : Keyed α) : List String := m.entries.map Prod.fst

def values {α : Type} (m : Keyed α) : List α := m.entries.map Prod.snd

def size {α : Type} (m : Keyed α) : Nat := m.entries.length

def isEmpty {α : Type} (m : Keyed α) : Bool := m.entries.isEmpty

def mapValues {α β : Type} (f : α → β) (m : Keyed α) : Keyed β :=
  ⟨m.entries.map fun e => (e.1, f e.2), by simpa [Function.comp_def] using m.distinct⟩

@[simp] theorem get?_insert {α : Type} (m : Keyed α) (key other : String) (value : α) :
    (m.insert key value).get? other = if key = other then some value else m.get? other :=
  entryAt_putEntry key other value m.entries

theorem keys_insert {α : Type} (m : Keyed α) (key : String) (value : α) :
    (m.insert key value).keys = if key ∈ m.keys then m.keys else m.keys ++ [key] :=
  putEntry_keys key value m.entries

end Keyed
end RecordGateway
