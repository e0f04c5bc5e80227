import RecordGateway.Proofs.Statement.Operands
/-!
# The two renderings of a statement

Writing the literals into the text and putting numbered placeholders in their places fail alike
and give one and the same text around the literals.
-/
namespace RecordGateway

namespace Template

def placeholders (count : Nat) : List String := (List.range' 1 count).map placeholder

theorem parameters_eq_zip (t : Template) :
    t.parameters = (placeholders t.literals.length).zip t.literals := by
  have hzip (values : List Value) (n : Nat) :
      (values.zipIdx n).map (fun p => (placeholder p.2, p.1)) =
        ((List.range' n values.length).map placeholder).zip values := by
    induction values generalizing n with
    | nil => rfl
    | cons v values ih => simp [List.zipIdx_cons, List.range'_succ, ih]
  exact hzip t.literals 1

private theorem marks_placeholder (n : Nat) (values : List Value) :
    marks (fun n _ => placeholder n) n values =
      (List.range' n values.length).map placeholder := by
  induction values generalizing n with
  | nil => rfl
  | cons v values ih =>
    simp only [marks, List.zipIdx_cons, List.map_cons, List.length_cons, List.range'_succ]
    exact congrArg _ (ih (n + 1))

private theorem marks_quotedLiteral (n : Nat) (values : List Value) :
    marks (fun _ v => v.quotedLiteral) n values = values.map Value.quotedLiteral := by
  induction values generalizing n with
  | nil => rfl
  | cons v values ih =>
    simp only [marks, List.zipIdx_cons, List.map_cons]
    exact congrArg _ (ih (n + 1))

private theorem write_inline (n : Nat) (t : Template) :
    t.write (fun _ v => v.quotedLiteral) n = t.inline := by
  rw [inline, write_eq_weave, write_eq_weave, marks_quotedLiteral, marks_quotedLiteral]

theorem inline_append (t u : Template) : (t ++ u).inline = t.inline ++ u.inline := by
  rw [inline, write_append, write_inline, write_inline]

theorem inline_text (s : String) (t : Template) : inline (.text s :: t) = s ++ t.inline := rfl

theorem writeEach_inline (n : Nat) (ts : List Template) :
    writeEach (fun _ v => v.quotedLiteral) n ts = ts.map inline := by
  induction ts generalizing n with
  | nil => rfl
  | cons t ts ih => rw [writeEach, write_inline, ih, List.map_cons]

theorem inline_intercalate (separator : String) (ts : List Template) :
    inline (List.intercalate [.text separator] ts) =
      String.intercalate separator (ts.map inline) := by
  rw [inline, write_intercalate, writeEach_inline]

end Template

namespace Statement

/-- The quoted values of a statement from left to right. -/
def quotedValues (d : Dialect) (s : Statement) : List Value :=
  (s.operands d).filterMap Operand.literal?

/-- Both renderings fail alike, or they share their texts and differ at the quoted values only;
a refused statement that compiled is then reported with its text. -/
theorem compile_evaluate (d : Dialect) (s : Statement) :
    (∃ e, s.compile d = .error e ∧ s.evaluate d = .error e) ∨
    ∃ texts : List String, ∃ values names inline,
      values = s.quotedValues d ∧
      names = (List.range' 1 values.length).map (fun i => ":_" ++ i.repr) ∧
      texts.length = values.length + 1 ∧
      s.compile d = .ok ⟨weave texts names, names.zip values⟩ ∧
      inline = weave texts (values.map Value.quotedLiteral) ∧
      s.evaluate d = .ok inline ∧
      ∀ cause, s.refused d cause = .driver cause inline := by
  cases h : s.template d with
  | error e => exact .inl ⟨e, by simp [compile, h, Except.map], by simp [evaluate, h, Except.map]⟩
  | ok t =>
    have hvalues : t.literals = s.quotedValues d := (template_spells h).literals
    have hcompile : s.compile d = .ok ⟨t.numbered, t.parameters⟩ := by
      simp [compile, h, Except.map]
    have hevaluate : s.evaluate d = .ok t.inline := by simp [evaluate, h, Except.map]
    have hnumbered : t.numbered = weave t.gaps (Template.placeholders t.literals.length) := by
      rw [Template.numbered, Template.write_eq_weave, Template.marks_placeholder]
      rfl
    have hinline : t.inline = weave t.gaps (t.literals.map Value.quotedLiteral) := by
      rw [Template.inline, Template.write_eq_weave, Template.marks_quotedLiteral]
    refine .inr ⟨t.gaps, t.literals, Template.placeholders t.literals.length, t.inline, hvalues,
      rfl, t.gaps_length, ?_, hinline, hevaluate, ?_⟩
    · rw [hcompile, hnumbered, Template.parameters_eq_zip]
    · intro cause
      simp only [refused, hevaluate]

end Statement
end RecordGateway
