import Mathlib
import RecordGateway.Proofs.Lists
import RecordGateway.Proofs.Store.Soundness
/-!
# Stores that a script defines

A script defines tables without rows, whose columns have distinct names and whose key is declared
as an integer. So the store of a script is sound.
-/
namespace RecordGateway

private theorem Text.upper_eq {s t : String} (h : lower s = lower t) : upper s = upper t := by
  have hupper (s : String) : upper s = upper (lower s) := by
    simp [upper, lower, Function.comp_def]
  rw [hupper s, h, ← hupper]

private theorem Affinity.ofDeclared_integer {declared : String}
    (h : Text.sameName declared "INTEGER" = true) :
    ofDeclared declared = .integer := by
  have hupper : Text.upper declared = "INTEGER" := by
    rw [Text.upper_eq (Text.sameName_iff.mp h)]
    decide
  have hpart : Text.contains "INTEGER" "INT" = true := by decide
  simp only [ofDeclared, hupper, hpart, if_true]

namespace Schema

def ColumnLine.Sound (line : ColumnLine) : Prop :=
  line.isKey = true → Text.sameName line.column.declared "INTEGER" = true

private theorem readConstraints_sound {fuel : Nat} {line line' : ColumnLine} {ts : List Token}
    (hline : line.Sound) (h : readConstraints fuel line ts = some line') : line'.Sound := by
  induction fuel generalizing line ts with
  | zero =>
    cases ts with
    | nil =>
      obtain rfl := Option.some.inj h
      exact hline
    | cons token ts => cases h
  | succ fuel ih =>
    cases ts with
    | nil =>
      obtain rfl := Option.some.inj h
      exact hline
    | cons token ts =>
      simp only [readConstraints] at h
      split at h
      · split at h
        · next hinteger =>
          have hnext : ColumnLine.Sound { line with isKey := true } := fun _ => hinteger
          exact ih hnext h
        · cases h
      · split at h
        · have hnext : ColumnLine.Sound
            { line with column := { line.column with notNull := true } } := hline
          exact ih hnext h
        · cases h

private theorem readColumn_sound {ts : List Token} {line : ColumnLine}
    (h : readColumn ts = some line) :
    line.Sound := by
  unfold readColumn at h
  split at h
  · simp only at h
    split at h
    · refine readConstraints_sound (fun hkey => ?_) h
      cases hkey
    · cases h
  · cases h

def Definition.Sound : Definition → Prop
  | .table _ t => t.rows = [] ∧
      ∀ i, t.key = some i → ∃ c, t.columns[i]? = some c ∧ c.affinity = .integer
  | .index _ _ => True

private theorem readTable_sound {ts : List Token} {d : Definition} (h : readTable ts = some d) :
    d.Sound := by
  unfold readTable at h
  split at h
  · next ifMissing name body _ =>
    obtain ⟨inside, -, h⟩ := Option.bind_eq_some_iff.mp h
    obtain ⟨lines, hlines, h⟩ := Option.bind_eq_some_iff.mp h
    obtain rfl := Option.some.inj h
    refine ⟨rfl, fun i hi => ?_⟩
    obtain ⟨hlt, hkey, -⟩ := List.findIdx?_eq_some_iff_getElem.mp hi
    obtain ⟨part, -, hpart⟩ := forall₂_mem_right (mapM_eq_some hlines) lines[i]
      (List.getElem_mem hlt)
    refine ⟨lines[i].column, by simp [hlt], ?_⟩
    exact Affinity.ofDeclared_integer (readColumn_sound hpart hkey)
  · cases h

private theorem read_sound {ts : List Token} {d : Definition} (h : read ts = some d) : d.Sound := by
  have hindex {unique : Bool} {rest : List Token} (h : readIndex unique rest = some d) :
      d.Sound := by
    unfold readIndex at h
    split at h
    · split at h
      · obtain ⟨inside, -, h⟩ := Option.bind_eq_some_iff.mp h
        obtain ⟨columns, -, h⟩ := Option.bind_eq_some_iff.mp h
        obtain rfl := Option.some.inj h
        trivial
      · cases h
    · cases h
  unfold read at h
  split at h
  · exact readTable_sound h
  · exact hindex h
  · exact hindex h
  · cases h

end Schema

namespace Store

private theorem define_sound {store after : Store} (hsound : store.Sound) {d : Schema.Definition}
    (hd : d.Sound) (h : store.define d = some after) : after.Sound := by
  cases d with
  | table ifMissing t =>
    obtain ⟨hrows, hkey⟩ := hd
    rw [define] at h
    split at h
    · split at h
      · next hnames =>
        obtain rfl := Option.some.inj h
        intro u hu
        rcases List.mem_append.mp hu with hu | hu
        · exact hsound u hu
        · obtain rfl := List.mem_singleton.mp hu
          exact ⟨of_decide_eq_true hnames, hkey, by simp [hrows], by simp [hrows]⟩
      · cases h
    · split at h
      · obtain rfl := Option.some.inj h
        exact hsound
      · cases h
  | index ifMissing i =>
    rw [define] at h
    split at h
    · split at h
      · obtain rfl := Option.some.inj h
        exact hsound
      · cases h
    · split at h
      · cases h
      · split at h
        · obtain rfl := Option.some.inj h
          exact hsound
        · cases h

private theorem defines_sound {store after : Store} (hsound : store.Sound)
    {definitions : List Schema.Definition} (hd : ∀ d ∈ definitions, d.Sound)
    (h : definitions.foldlM define store = some after) : after.Sound := by
  induction definitions generalizing store with
  | nil =>
    obtain rfl := Option.some.inj h
    exact hsound
  | cons d definitions ih =>
    obtain ⟨hfirst, hrest⟩ := List.forall_mem_cons.mp hd
    rw [List.foldlM_cons] at h
    obtain ⟨next, hnext, h⟩ := Option.bind_eq_some_iff.mp h
    exact ih (define_sound hsound hfirst hnext) hrest h

theorem runScript_sound {store after : Store} (hsound : store.Sound) {script : String}
    (h : store.runScript script = .ok after) : after.Sound := by
  unfold runScript at h
  split at h
  · next defined hdefined =>
    obtain rfl := Except.ok.inj h
    obtain ⟨definitions, hread, hfold⟩ := Option.bind_eq_some_iff.mp hdefined
    refine defines_sound hsound (fun d hd => ?_) hfold
    obtain ⟨tokens, -, hread⟩ := Option.bind_eq_some_iff.mp hread
    obtain ⟨part, -, hpart⟩ := forall₂_mem_right (mapM_eq_some hread) d hd
    exact Schema.read_sound hpart
  · cases h

/-- Every store that a script sets up is sound. -/
theorem setUp_sound {store : Store} {script : String} (h : empty.runScript script = .ok store) :
    store.Sound := runScript_sound empty_isSound h

end Store
end RecordGateway
