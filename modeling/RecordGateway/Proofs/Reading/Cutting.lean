import RecordGateway.Text.Blank
/-! # Texts cut in two -/
namespace RecordGateway

namespace Text

theorem cutAt_eq_some {separator : Char} {cs before after : List Char} :
    cutAt separator cs = some (before, after) ↔
      cs = before ++ separator :: after ∧ separator ∉ before := by
  induction cs generalizing before with
  | nil => simp [cutAt]
  | cons c rest ih =>
    rw [cutAt]
    by_cases hc : c = separator
    · subst hc
      rw [if_pos rfl]
      constructor
      · intro h
        cases h
        exact ⟨rfl, List.not_mem_nil⟩
      · rintro ⟨heq, hnot⟩
        cases before with
        | nil =>
          cases heq
          rfl
        | cons d before =>
          cases heq
          exact absurd (List.mem_cons_self ..) hnot
    · rw [if_neg hc, Option.map_eq_some_iff]
      constructor
      · rintro ⟨⟨front, back⟩, hcut, hparts⟩
        cases hparts
        obtain ⟨heq, hnot⟩ := ih.mp hcut
        refine ⟨congrArg (c :: ·) heq, fun hmem => ?_⟩
        rcases List.mem_cons.mp hmem with hsame | hmem
        · exact hc hsame.symm
        · exact hnot hmem
      · rintro ⟨heq, hnot⟩
        cases before with
        | nil =>
          cases heq
          exact absurd rfl hc
        | cons d before =>
          cases heq
          exact ⟨(before, after), ih.mpr ⟨rfl, fun h => hnot (List.mem_cons_of_mem _ h)⟩, rfl⟩

private theorem cutAt_eq_none {separator : Char} {cs : List Char} :
    cutAt separator cs = none ↔ separator ∉ cs := by
  induction cs with
  | nil => simp [cutAt]
  | cons c rest ih =>
    rw [cutAt, List.mem_cons, not_or]
    by_cases hc : c = separator
    · rw [if_pos hc]
      exact iff_of_false (by simp) fun h => h.1 hc.symm
    · rw [if_neg hc, Option.map_eq_none_iff, ih]
      exact ⟨fun h => ⟨fun heq => hc heq.symm, h⟩, And.right⟩

theorem cut_eq_some {separator : Char} {s before after : String} :
    cut separator s = some (before, after) ↔
      s = before ++ String.singleton separator ++ after ∧ separator ∉ before.toList := by
  have hsplit : s = before ++ String.singleton separator ++ after ↔
      s.toList = before.toList ++ separator :: after.toList := by
    rw [← String.toList_inj, String.toList_append, String.toList_append, String.toList_singleton,
      List.append_assoc, List.singleton_append]
  rw [hsplit, ← cutAt_eq_some, cut, Option.map_eq_some_iff]
  constructor
  · rintro ⟨⟨front, back⟩, hcut, hparts⟩
    cases hparts
    rw [hcut, String.toList_ofList, String.toList_ofList]
  · intro hcut
    exact ⟨_, hcut, by rw [String.ofList_toList, String.ofList_toList]⟩

theorem cut_eq_none {separator : Char} {s : String} :
    cut separator s = none ↔ separator ∉ s.toList := by
  rw [cut, Option.map_eq_none_iff, cutAt_eq_none]

end Text

end RecordGateway
