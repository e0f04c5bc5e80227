import RecordGateway.CommandLine.Query
import RecordGateway.Proofs.Number.Integer
import RecordGateway.Proofs.Reading.Cutting
import RecordGateway.Proofs.Template
/-!
# Filters as they are typed

A filter is cut at its first two colons, and a value that reads as an integer is passed as one.
-/
namespace RecordGateway

namespace CommandLine

/-! ## Values -/

/-- What a typed value is passed as. -/
inductive PassedAs (typed : String) : Value → Prop where
  | integer {i : Int64} (reads : Numeral typed.toList i.toInt) : PassedAs typed (.integer i)
  | text (unread : ∀ i : Int64, ¬Numeral typed.toList i.toInt) : PassedAs typed (.text typed)

theorem filterValue_passed (typed : String) : PassedAs typed (filterValue typed) := by
  unfold filterValue
  split
  · next i hread => exact .integer (readInt64_eq_some.mp hread)
  · next hread => exact .text (readInt64_eq_none.mp hread)

theorem PassedAs.display_eq_iff {typed : String} {v : Value} (h : PassedAs typed v) :
    v.display = typed ↔ ∀ i : Int64, Numeral typed.toList i.toInt → IsCanonical typed.toList := by
  cases h with
  | @integer i hreads =>
    show i.toInt.repr = typed ↔ _
    rw [← String.toList_inj, hreads.repr_eq_iff]
    exact ⟨fun h _ _ => h, fun h => h i hreads⟩
  | text hunread => exact iff_of_true rfl fun i hreads => absurd hreads (hunread i)

theorem PassedAs.quotedLiteral {typed : String} {v : Value} (h : PassedAs typed v) :
    v.quotedLiteral = Value.inQuotes v.display := by
  cases h with
  | integer => rfl
  | text => rfl

/-! ## Filters -/

/-- A filter as it is typed: the value is all that follows the second colon. -/
structure TypedFilter (s field relation value : String) : Prop where
  written : s = field ++ ":" ++ relation ++ ":" ++ value
  field_nonempty : field ≠ ""
  field_plain : ':' ∉ field.toList
  relation_nonempty : relation ≠ ""
  relation_plain : ':' ∉ relation.toList

theorem TypedFilter.read {s field relation value : String}
    (h : TypedFilter s field relation value) :
    readFilter s = .ok (.quoted field relation (filterValue value)) := by
  have hfirst : Text.cut ':' s = some (field, relation ++ ":" ++ value) := by
    refine Text.cut_eq_some.mpr ⟨?_, h.field_plain⟩
    simp only [h.written, String.append_assoc]
    rfl
  have hsecond : Text.cut ':' (relation ++ ":" ++ value) = some (relation, value) :=
    Text.cut_eq_some.mpr ⟨rfl, h.relation_plain⟩
  have hfield : field.isEmpty = false := by simpa using h.field_nonempty
  have hrelation : relation.isEmpty = false := by simpa using h.relation_nonempty
  simp only [readFilter, hfirst, hsecond, hfield, hrelation, Bool.or_self, Bool.false_eq_true,
    if_false]

theorem readFilter_cases (s : String) :
    (∃ field relation value, TypedFilter s field relation value) ∨
      readFilter s = .error (.invalidFilter s) := by
  unfold readFilter
  split
  · exact .inr rfl
  · next field rest hfirst =>
    split
    · exact .inr rfl
    · next relation value hsecond =>
      obtain ⟨hwritten, hplain⟩ := Text.cut_eq_some.mp hfirst
      obtain ⟨hrest, hplain'⟩ := Text.cut_eq_some.mp hsecond
      by_cases hempty : (field.isEmpty || relation.isEmpty) = true
      · exact .inr (if_pos hempty)
      · simp only [Bool.or_eq_true, String.isEmpty_iff, not_or] at hempty
        refine .inl ⟨field, relation, value, ?_, hempty.1, hplain, hempty.2, hplain'⟩
        simp only [hwritten, hrest, String.append_assoc]
        rfl

theorem readFilter_eq_ok {s : String} {c : Condition} : readFilter s = .ok c ↔
    ∃ field relation value, TypedFilter s field relation value ∧
      c = .quoted field relation (filterValue value) := by
  constructor
  · intro h
    rcases readFilter_cases s with ⟨field, relation, value, htyped⟩ | hbad
    · rw [htyped.read] at h
      exact ⟨field, relation, value, htyped, (Except.ok.inj h).symm⟩
    · rw [hbad] at h
      cases h
  · rintro ⟨field, relation, value, htyped, rfl⟩
    exact htyped.read

theorem quoted_text (field relation : String) (v : Value) :
    (Predicate.condition (.quoted field relation v)).text =
      field ++ " " ++ relation ++ " " ++ v.quotedLiteral := by
  show field ++ ((" " ++ relation ++ " ") ++ (v.quotedLiteral ++ "")) = _
  simp only [String.append_empty, String.append_assoc]

/-- A typed filter is read with its field, its relation and a quoted value. The value is shown as
it was typed unless it reads as an integer that integers are not printed as. Whatever is no typed
filter is refused. -/
theorem typed_filter_read (s : String) :
    (∀ field relation value, TypedFilter s field relation value → ∃ c, readFilter s = .ok c ∧
      c.field = field ∧ c.relation = relation ∧ c.operand.quoted = true ∧
      PassedAs value c.operand.value ∧
      (c.operand.value.display = value ↔
        ∀ i : Int64, Numeral value.toList i.toInt → IsCanonical value.toList) ∧
      (Predicate.condition c).text =
        field ++ " " ++ relation ++ " " ++ Value.inQuotes c.operand.value.display) ∧
    ((∀ field relation value, ¬TypedFilter s field relation value) →
      readFilter s = .error (.invalidFilter s)) := by
  constructor
  · intro field relation value htyped
    have hpassed := filterValue_passed value
    refine ⟨_, htyped.read, rfl, rfl, rfl, hpassed, hpassed.display_eq_iff, ?_⟩
    rw [quoted_text, hpassed.quotedLiteral]
    rfl
  · intro hnone
    rcases readFilter_cases s with ⟨field, relation, value, htyped⟩ | hbad
    · exact absurd htyped (hnone field relation value)
    · exact hbad

theorem typed_filter_read_age :
    ∃ c, readFilter "age:>=:+030" = .ok c ∧ c.operand.value = .integer 30 ∧
      c.operand.value.display ≠ "+030" ∧
      readFilter "age:>" = .error (.invalidFilter "age:>") := by
  have htyped : TypedFilter "age:>=:+030" "age" ">=" "+030" :=
    ⟨by decide, by decide, by decide, by decide, by decide⟩
  have hplain : ∀ field relation value, ¬TypedFilter "age:>" field relation value := by
    intro field relation value h
    have hcolons := congrArg (fun s => s.toList.count ':') h.written
    simp only [String.toList_append, List.count_append] at hcolons
    have htwo : List.count ':' ":".toList = 1 := by decide
    have hone : List.count ':' "age:>".toList = 1 := by decide
    omega
  obtain ⟨c, hread, -, -, -, hpassed, hshown, -⟩ :=
    (typed_filter_read "age:>=:+030").1 "age" ">=" "+030" htyped
  have hcanonical : ¬IsCanonical "+030".toList := id
  refine ⟨c, hread, ?_, fun h => hcanonical (hshown.mp h 30 ?_), (typed_filter_read _).2 hplain⟩
  · cases hread
    decide
  · exact .plus (by decide) (by decide)

/-- A plus sign is not among what is shown. -/
theorem typed_plus_lost : ¬∀ s field relation value, TypedFilter s field relation value →
    ∃ c, readFilter s = .ok c ∧ c.operand.value.display = value := by
  intro h
  have htyped : TypedFilter "a:=:+5" "a" "=" "+5" :=
    ⟨by decide, by decide, by decide, by decide, by decide⟩
  obtain ⟨c, hread, hshown⟩ := h _ _ _ _ htyped
  rw [htyped.read] at hread
  cases hread
  exact absurd hshown (by decide)

end CommandLine
end RecordGateway
