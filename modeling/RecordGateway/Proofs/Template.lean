import RecordGateway.Predicate
/-!
# Written templates

A template written with any mark for its literals is one sequence of texts with the marks between
them.
-/
namespace RecordGateway

/-- Texts and marks in turn, beginning with a text. -/
def weave : List String → List String → String
  | [], _ => ""
  | text :: _, [] => text
  | text :: texts, mark :: marks => text ++ mark ++ weave texts marks

namespace Template

theorem literals_append (t u : Template) : (t ++ u).literals = t.literals ++ u.literals := by
  induction t with
  | nil => rfl
  | cons piece t ih => cases piece <;> simp [literals, ih]

theorem write_append (mark : Nat → Value → String) (n : Nat) (t u : Template) :
    (t ++ u).write mark n = t.write mark n ++ u.write mark (n + t.literals.length) := by
  induction t generalizing n with
  | nil => simp [write, literals]
  | cons piece t ih =>
    cases piece with
    | text s => simp [write, literals, ih, String.append_assoc]
    | term s => simp [write, literals, ih, String.append_assoc]
    | literal v =>
      simp only [List.cons_append, write, literals, List.length_cons, ih, String.append_assoc]
      rw [Nat.add_right_comm n 1, Nat.add_assoc n]

/-- The texts before, between and after the literals. -/
def gaps : Template → List String
  | [] => [""]
  | .text s :: rest => (gaps rest).modifyHead (s ++ ·)
  | .term s :: rest => (gaps rest).modifyHead (s ++ ·)
  | .literal _ :: rest => "" :: gaps rest

theorem gaps_length (t : Template) : t.gaps.length = t.literals.length + 1 := by
  induction t with
  | nil => rfl
  | cons piece t ih => cases piece <;> simp [gaps, literals, ih]

/-- What a mark writes for the literals, counted from the given number. -/
def marks (mark : Nat → Value → String) (n : Nat) (values : List Value) : List String :=
  (values.zipIdx n).map fun p => mark p.2 p.1

theorem weave_modifyHead (s : String) (texts marks : List String) (h : texts ≠ []) :
    weave (texts.modifyHead (s ++ ·)) marks = s ++ weave texts marks := by
  obtain ⟨text, texts, rfl⟩ := List.exists_cons_of_ne_nil h
  cases marks <;> simp [weave, String.append_assoc]

private theorem gaps_ne_nil (t : Template) : t.gaps ≠ [] := by
  intro h
  simpa [h] using t.gaps_length

theorem write_eq_weave (mark : Nat → Value → String) (n : Nat) (t : Template) :
    t.write mark n = weave t.gaps (marks mark n t.literals) := by
  induction t generalizing n with
  | nil => rfl
  | cons piece t ih =>
    cases piece with
    | text s =>
      simp only [write, gaps, literals]
      rw [weave_modifyHead _ _ _ (gaps_ne_nil t), ih]
    | term s =>
      simp only [write, gaps, literals]
      rw [weave_modifyHead _ _ _ (gaps_ne_nil t), ih]
    | literal v =>
      simp only [write, gaps, literals, marks, List.zipIdx_cons, List.map_cons, weave,
        String.empty_append, ih]

/-- Templates written one after another, with their literals numbered through. -/
def writeEach (mark : Nat → Value → String) : Nat → List Template → List String
  | _, [] => []
  | n, t :: ts => t.write mark n :: writeEach mark (n + t.literals.length) ts

theorem write_intercalate (mark : Nat → Value → String) (n : Nat) (separator : String)
    (ts : List Template) : write mark n (List.intercalate [.text separator] ts) =
      String.intercalate separator (writeEach mark n ts) := by
  induction ts generalizing n with
  | nil => rfl
  | cons t ts ih =>
    cases ts with
    | nil => simp [List.intercalate, writeEach, String.intercalate_singleton]
    | cons u ts =>
      have hseparator (k : Nat) (v : Template) :
          write mark k ([.text separator] ++ v) = separator ++ v.write mark k := rfl
      rw [List.intercalate_cons_cons, List.append_assoc, write_append, hseparator, ih]
      simp only [writeEach, String.intercalate_cons_cons, String.append_assoc]

theorem write_plain (mark mark' : Nat → Value → String) (n n' : Nat) (t : Template)
    (h : t.literals = []) : t.write mark n = t.write mark' n' := by
  rw [write_eq_weave, write_eq_weave, h]
  rfl

end Template
end RecordGateway
