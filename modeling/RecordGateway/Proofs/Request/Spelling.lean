import RecordGateway.Proofs.Reading.ColumnList
import RecordGateway.Proofs.Request.Parts
/-!
# The spelling of columns

An insert lists its columns so that they can be read back, each at the place of its value.
-/
namespace RecordGateway

namespace Operand

/-- A text stands for an operand in a compiled statement: it names a parameter with the value, or
it is the text that the operand is to be taken as. -/
def Written (parameters : List (String × Value)) (o : Operand) (text : String) : Prop :=
  if o.quoted then (text, o.value) ∈ parameters else text = o.value.display

private theorem written_each (parameters : List (String × Value)) (os : List Operand) (n : Nat)
    (h : ((os.filterMap literal?).zipIdx n).map (fun p => (placeholder p.2, p.1)) ⊆ parameters) :
    List.Forall₂ (Written parameters) os
      (Template.writeEach (fun n _ => placeholder n) n (os.map template)) := by
  induction os generalizing n with
  | nil => exact .nil
  | cons o os ih =>
    cases hq : o.quoted with
    | true =>
      have hliteral : o.literal? = some o.value := if_pos hq
      have htemplate : o.template = [.literal o.value] := if_pos hq
      rw [List.filterMap_cons_some hliteral, List.zipIdx_cons, List.map_cons,
        List.cons_subset] at h
      rw [List.map_cons, htemplate]
      refine .cons ?_ (ih (n + 1) h.2)
      rw [Written, if_pos hq, Template.write, Template.write, String.append_empty]
      exact h.1
    | false =>
      have hliteral : o.literal? = none := if_neg (by simp [hq])
      have htemplate : o.template = [.term o.value.display] := if_neg (by simp [hq])
      rw [List.filterMap_cons_none hliteral] at h
      rw [List.map_cons, htemplate]
      refine .cons ?_ (ih n h)
      rw [Written, if_neg (by simp [hq]), Template.write, Template.write, String.append_empty]

end Operand

namespace Statement

/-- The text of an insert with its columns listed and one text for the value of each. -/
def insertText (table : String) (names values : List String) : String :=
  "INSERT INTO " ++ table ++ " (" ++ ColumnList.write names ++ ") VALUES (" ++
    String.intercalate "," values ++ ")"

private theorem insertTemplate_write {s : Statement} {table : String}
    (htable : s.table = some table)
    (hcolumns : s.columns ≠ []) : ∃ t, s.insertTemplate = .ok t ∧ ∀ mark, t.write mark 1 =
      insertText table (s.columns.map Prod.fst)
        (Template.writeEach mark 1 (s.columns.map fun column => column.2.template)) := by
  have hrequire : s.requireTable = .ok table := by simp [requireTable, htable]
  have hempty : s.columns.isEmpty = false := by simpa using hcolumns
  have hnames : String.intercalate "," (s.columns.map fun column => quoteIdentifier column.1) =
      ColumnList.write (s.columns.map Prod.fst) := by
    rw [ColumnList.write, List.map_map]
    rfl
  refine ⟨.text ("INSERT INTO " ++ table ++ " (" ++ ColumnList.write (s.columns.map Prod.fst) ++
      ") VALUES (") :: List.intercalate [.text ","] (s.columns.map fun column =>
        column.2.template) ++ [.text ")"], ?_, fun mark => ?_⟩
  · rw [insertTemplate, hrequire]
    simp only [hempty, hnames]
    rfl
  · unfold insertText
    rw [List.cons_append, Template.write, Template.write_append,
      Template.write_intercalate, ← String.append_assoc]
    rfl

/-- The renderings of an insert: the names can be read back up to the end of their list, and each
is at the place of the value that was given with it. -/
structure ListsColumns (d : Dialect) (s : Statement) (table : String) : Prop where
  evaluate : s.evaluate d = .ok (insertText table (s.columns.map Prod.fst)
    (s.columns.map fun column => column.2.text))
  compile : ∃ values parameters,
    s.compile d = .ok ⟨insertText table (s.columns.map Prod.fst) values, parameters⟩ ∧
      List.Forall₂ (fun column value => column.2.Written parameters value) s.columns values
  read : ∀ rest, ColumnList.read ((ColumnList.write (s.columns.map Prod.fst)).toList ++
    ')' :: rest) =
    some (s.columns.map Prod.fst, ')' :: rest)

private theorem insert_listsColumns (d : Dialect) {s : Statement} {table : String}
    (hkind : s.kind = some .insert) (htable : s.table = some table) (hcolumns : s.columns ≠ []) :
    s.ListsColumns d table := by
  obtain ⟨t, htemplate, hwrite⟩ := insertTemplate_write htable hcolumns
  have ht : s.template d = .ok t := by
    rw [template, hkind]
    exact htemplate
  refine ⟨?_, ⟨_, t.parameters, by rw [compile, ht, Except.map, Template.numbered, hwrite], ?_⟩,
    fun rest => ?_⟩
  · rw [evaluate, ht, Except.map, Template.inline, hwrite, Template.writeEach_inline, List.map_map]
    rfl
  · have hoperands : s.operands d = s.columns.map Prod.snd := by rw [operands, hkind]
    have hliterals : t.literals = (s.columns.map Prod.snd).filterMap Operand.literal? := by
      rw [(template_spells ht).literals, hoperands]
    have heach := Operand.written_each t.parameters (s.columns.map Prod.snd) 1
      (by rw [Template.parameters, hliterals]; exact List.Subset.refl _)
    rw [List.map_map] at heach
    exact List.forall₂_map_left_iff.mp heach
  · have hends : ColumnList.Ends (')' :: rest) := by
      intro c hc
      obtain rfl : ')' = c := Option.some.inj hc
      decide
    exact ColumnList.read_write (by simpa using hcolumns) hends (by simp)

end Statement

/-! ## Writes of a gateway -/

namespace Request

/-- A text begins with a column as it is spelled in a column list, and reading it so takes no more
and no less than the column. -/
def Begins (column : String × Value) (text : String) : Prop :=
  ∃ rest, text = quoteIdentifier column.1 ++ rest ∧
    ColumnList.readName text.toList = some (column.1.toList, rest.toList)

private theorem begins_of_blank (column : String × Value) {rest : String}
    (hrest : rest.toList.head? = some ' ') : Begins column (quoteIdentifier column.1 ++ rest) := by
  refine ⟨rest, rfl, ?_⟩
  have hends : ColumnList.Ends rest.toList := by
    intro c hc
    obtain rfl : ' ' = c := Option.some.inj (hrest.symm.trans hc)
    decide
  rw [String.toList_append]
  exact ColumnList.readName_quoteIdentifier column.1 hends

private theorem begins_equals (column : String × Value) (name : String) :
    Begins column (quoteIdentifier column.1 ++ " = " ++ name) := by
  rw [String.append_assoc]
  exact begins_of_blank column (by rw [String.toList_append]; rfl)

private theorem Asks.begins {binds : List (String × Value)} {column : String × Value}
    {text : String}
    (h : Asks binds column text) : Begins column text := by
  cases h with
  | null field => exact begins_of_blank (field, .null) rfl
  | @equal field name value present bound => exact begins_equals (field, value) name

private theorem Sets.begins {binds : List (String × Value)} {column : String × Value}
    {text : String}
    (h : Sets binds column text) : Begins column text := by
  cases h with
  | @value field name value bound => exact begins_equals (field, value) name

/-- The text of each write is that of its columns: listed in an insert, each at the place of the
name that its value is bound to, and spelled alike at the front of every assignment and every
condition. -/
structure SpellsColumns (d : Dialect) (table : String) (previous current : Record) : Prop where
  create : current.entries ≠ [] → ∃ values,
    (insertion table current).statement.compile d =
        .ok ⟨Statement.insertText table current.keys values, []⟩ ∧
      List.Forall₂ (fun column value => (value, column.2) ∈ (insertion table current).binds.entries)
        current.entries values
  update : current.entries ≠ [] → ∃ assignments conditions,
    (replacement table previous current).statement.compile d =
        .ok ⟨"UPDATE " ++ table ++ " SET " ++ String.intercalate ", " assignments ++
          whereText conditions, []⟩ ∧
      List.Forall₂ Begins current.entries assignments ∧
      List.Forall₂ Begins previous.entries conditions
  delete : ∃ conditions,
    (removal table previous).statement.compile d =
        .ok ⟨"DELETE FROM " ++ table ++ whereText conditions, []⟩ ∧
      List.Forall₂ Begins previous.entries conditions

theorem insertion_compile (d : Dialect) (table : String) {record : Record}
    (hrecord : record.entries ≠ []) :
    (insertion table record).statement.compile d =
      .ok ⟨Statement.insertText table record.keys
        ((boundOperands "" record.entries .empty).1.map fun column => column.2.text), []⟩ := by
  have hkeys : (insertion table record).statement.columns.map Prod.fst = record.keys :=
    boundOperands_keys "" record.entries .empty
  have hcolumns : (insertion table record).statement.columns ≠ [] := by
    intro hnone
    rw [hnone] at hkeys
    exact hrecord (List.map_eq_nil_iff.mp hkeys.symm)
  obtain ⟨t, ht, hwrite⟩ := Statement.insertTemplate_write (s := (insertion table record).statement)
    rfl hcolumns
  rw [(insertion_fits d table record).compile ht, Template.inline, hwrite,
    Template.writeEach_inline, hkeys, List.map_map]
  rfl

private theorem insertion_values (table : String) (record : Record) :
    List.Forall₂ (fun column value => (value, column.2) ∈ (insertion table record).binds.entries)
      record.entries
        ((boundOperands "" record.entries .empty).1.map fun column => column.2.text) := by
  rw [List.forall₂_map_right_iff]
  refine (boundOperands_assign lead_empty_isWordText record.entries .empty).imp
    fun column assignment h => ?_
  obtain ⟨-, name, hoperand, hname⟩ := h
  rw [hoperand, Operand.text_name]
  exact ((insertion table record).binds.values.get?_eq_some name _).mp hname

private theorem spellsColumns (d : Dialect) (table : String) (previous current : Record) :
    SpellsColumns d table previous current where
  create hcurrent := ⟨_, insertion_compile d table hcurrent, insertion_values table current⟩
  update hcurrent := ⟨assignTexts current, matchTexts previous,
    replacement_compile d table hcurrent, (assignTexts_set current).imp fun _ _ h => h.begins,
    (matchTexts_ask previous).imp fun _ _ h => h.begins⟩
  delete := ⟨matchTexts previous, removal_compile d table previous,
    (matchTexts_ask previous).imp fun _ _ h => h.begins⟩

end Request

/-- Whatever names the columns of an insert have, the list of them can be read back, so it tells
which value is for which column, and other lists are written otherwise. A name is in backticks
unless it is a plain identifier and no reserved word. The writes of a gateway spell a column as it
is spelled there. -/
theorem columns_read_back :
    (∀ (d : Dialect) (s : Statement) (table : String), s.kind = some .insert →
      s.table = some table → s.columns ≠ [] → s.ListsColumns d table) ∧
    (∀ names, names ≠ [] → ColumnList.read (ColumnList.write names).toList = some (names, [])) ∧
    Function.Injective ColumnList.write ∧
    (∀ name, '`' ∉ (quoteIdentifier name).toList → quoteIdentifier name = name ∧
      isPlainIdentifier name.toList = true ∧
      ∀ other, Text.upper other = Text.upper name → other ∉ reservedWords) ∧
    ∀ (d : Dialect) (table : String) (previous current : Record),
      Request.SpellsColumns d table previous current :=
  ⟨fun d _ _ hkind htable hcolumns => Statement.insert_listsColumns d hkind htable hcolumns,
    fun _ hnames => ColumnList.read_write_all hnames, ColumnList.write_injective,
    fun _ hbare => ColumnList.write_bare hbare, Request.spellsColumns⟩

theorem columns_read_back_hostile :
    ColumnList.read (ColumnList.write ["", "`", "a,b", "k`)", "Select", "ключ"]).toList =
      some (["", "`", "a,b", "k`)", "Select", "ключ"], []) :=
  columns_read_back.2.1 ["", "`", "a,b", "k`)", "Select", "ключ"] (by decide)

end RecordGateway
