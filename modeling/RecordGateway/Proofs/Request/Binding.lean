import Mathlib.Data.List.Forall2
import RecordGateway.Proofs.Lists
import RecordGateway.Proofs.Request.Naming
import RecordGateway.Proofs.Statement.Lacking
import RecordGateway.Proofs.Statement.Operands
/-!
# Requests and their binds

The placeholders in the text of a request are the names of its binds, each once and in the order
of the binds, and every condition and every assignment finds the value it is for under its own
name.
-/
namespace RecordGateway

/-- The placeholders made for fields one after another, each bound before the next is made. -/
def allot (lead : String) : List (String × Value) → Binds → List String
  | [], _ => []
  | (field, value) :: rest, binds =>
    namePlaceholder (bindName lead field binds) ::
      allot lead rest (binds.bind (bindName lead field binds) value)

def allotted (lead : String) : List (String × Value) → Binds → Binds
  | [], binds => binds
  | (field, value) :: rest, binds =>
    allotted lead rest (binds.bind (bindName lead field binds) value)

theorem bind_bindName_entries {lead : String} (hlead : IsWordText lead) (field : String)
    (value : Value) (binds : Binds) :
    (binds.bind (bindName lead field binds) value).entries =
      binds.entries ++ [(namePlaceholder (bindName lead field binds), value)] := by
  have hfree := bindName_free lead field binds
  have hnew : namePlaceholder (bindName lead field binds) ∉ binds.entries.map Prod.fst := by
    intro hm
    rw [(isBound_iff _ _).mpr hm] at hfree
    cases hfree
  rw [Binds.bind, parameterName_of_isWordText (bindName_isWordText hlead field binds)]
  exact binds.values.insert_fresh _ value hnew

private theorem allot_length (lead : String) (items : List (String × Value)) (binds : Binds) :
    (allot lead items binds).length = items.length := by
  induction items generalizing binds with
  | nil => rfl
  | cons item items ih => simp [allot, ih]

theorem allotted_entries {lead : String} (hlead : IsWordText lead) (items : List (String × Value))
    (binds : Binds) :
    (allotted lead items binds).entries =
      binds.entries ++ (allot lead items binds).zip (items.map Prod.snd) := by
  induction items generalizing binds with
  | nil => simp [allotted, allot]
  | cons item items ih =>
    obtain ⟨field, value⟩ := item
    rw [allotted, ih, bind_bindName_entries hlead, List.append_assoc]
    rfl

theorem allotted_names {lead : String} (hlead : IsWordText lead) (items : List (String × Value))
    (binds : Binds) :
    (allotted lead items binds).entries.map Prod.fst =
      binds.entries.map Prod.fst ++ allot lead items binds := by
  rw [allotted_entries hlead, List.map_append, List.map_fst_zip]
  simp [allot_length]

private theorem entries_subset_allotted {lead : String} (hlead : IsWordText lead)
    (items : List (String × Value)) (binds : Binds) :
    binds.entries ⊆ (allotted lead items binds).entries := by
  rw [allotted_entries hlead]
  exact List.subset_append_left _ _

private theorem get?_of_mem {binds : Binds} {name : String} {value : Value}
    (h : (name, value) ∈ binds.entries) : binds.get? name = some value :=
  (binds.values.get?_eq_some name value).mpr h

private theorem get?_allotted_head {lead : String} (hlead : IsWordText lead) (field : String)
    (value : Value) (items : List (String × Value)) (binds : Binds) :
    (allotted lead ((field, value) :: items) binds).get?
      (namePlaceholder (bindName lead field binds)) = some value := by
  refine get?_of_mem (entries_subset_allotted hlead items _ ?_)
  rw [bind_bindName_entries hlead]
  simp

theorem lead_empty_isWordText : IsWordText "" := by decide
theorem lead_new_isWordText : IsWordText "n_" := by decide
theorem lead_old_isWordText : IsWordText "o_" := by decide

namespace Operand

def placeholder? (o : Operand) : Option String :=
  if !o.quoted && o.value.display.toList.head? == some ':' then some o.value.display else none

private theorem placeholder?_name (name : String) :
    placeholder? ⟨.text (namePlaceholder name), false⟩ = some (namePlaceholder name) := by
  simp [placeholder?, Value.display, namePlaceholder, String.toList_append]

private theorem placeholder?_null : placeholder? ⟨.text "NULL", false⟩ = none := by decide

end Operand

namespace Request

/-- A condition holds a filter's field and relation against a name bound to the filter's value. -/
def Restricts (binds : Binds) (f : Filter) (p : Predicate) : Prop :=
  ∃ name, p = .condition (.verbatim f.field f.relation name) ∧ binds.get? name = some f.value

/-- An assignment gives a column a name that is bound to the value of the column. -/
def Assigns (binds : Binds) (column : String × Value) (assignment : String × Operand) : Prop :=
  assignment.1 = column.1 ∧
    ∃ name, assignment.2 = ⟨.text name, false⟩ ∧ binds.get? name = some column.2

/-- A condition asks a column for null, or for the value that is bound to a name. -/
def Matches (binds : Binds) (column : String × Value) (p : Predicate) : Prop :=
  if column.2.isNull then p = .condition (.verbatim (quoteIdentifier column.1) "IS" "NULL")
  else ∃ name, p = .condition (.verbatim (quoteIdentifier column.1) "=" name) ∧
    binds.get? name = some column.2

end Request

open Request

def Filter.item (f : Filter) : String × Value := (f.field, f.value)

theorem filterConditions_binds (filters : List Filter) (binds : Binds) :
    (filterConditions filters binds).2 = allotted "" (filters.map Filter.item) binds := by
  induction filters generalizing binds with
  | nil => rfl
  | cons f filters ih => exact ih _

theorem filterConditions_restrict (filters : List Filter) (binds : Binds) :
    List.Forall₂ (Restricts (filterConditions filters binds).2) filters
      (filterConditions filters binds).1 := by
  induction filters generalizing binds with
  | nil => exact .nil
  | cons f filters ih =>
    refine .cons ⟨_, rfl, ?_⟩ (ih _)
    rw [filterConditions_binds]
    exact get?_allotted_head lead_empty_isWordText _ _ _ _

/-- Operands without quotes whose placeholders are the given names in turn. -/
structure Places (os : List Operand) (names : List String) : Prop where
  unquoted : ∀ o ∈ os, o.quoted = false
  placeholders : os.filterMap Operand.placeholder? = names

namespace Places

theorem nil : Places [] [] := ⟨by simp, rfl⟩

private theorem name {os : List Operand} {names : List String} (name : String)
    (h : Places os names) :
    Places (⟨.text (namePlaceholder name), false⟩ :: os) (namePlaceholder name :: names) where
  unquoted := List.forall_mem_cons.mpr ⟨rfl, h.unquoted⟩
  placeholders := by
    rw [List.filterMap_cons, Operand.placeholder?_name, h.placeholders]

private theorem null {os : List Operand} {names : List String} (h : Places os names) :
    Places (⟨.text "NULL", false⟩ :: os) names where
  unquoted := List.forall_mem_cons.mpr ⟨rfl, h.unquoted⟩
  placeholders := by
    rw [List.filterMap_cons, Operand.placeholder?_null, h.placeholders]

private theorem append {os ps : List Operand} {names others : List String} (h : Places os names)
    (h' : Places ps others) : Places (os ++ ps) (names ++ others) where
  unquoted := by
    intro o ho
    exact (List.mem_append.mp ho).elim (h.unquoted o) (h'.unquoted o)
  placeholders := by rw [List.filterMap_append, h.placeholders, h'.placeholders]

end Places

private theorem filterConditions_places (filters : List Filter) (binds : Binds) :
    Places (Predicate.all (filterConditions filters binds).1).operands
      (allot "" (filters.map Filter.item) binds) := by
  induction filters generalizing binds with
  | nil => exact .nil
  | cons f filters ih => exact .name _ (ih _)

theorem boundOperands_binds (lead : String) (items : List (String × Value)) (binds : Binds) :
    (boundOperands lead items binds).2 = allotted lead items binds := by
  induction items generalizing binds with
  | nil => rfl
  | cons item items ih => exact ih _

theorem boundOperands_keys (lead : String) (items : List (String × Value)) (binds : Binds) :
    (boundOperands lead items binds).1.map Prod.fst = items.map Prod.fst := by
  induction items generalizing binds with
  | nil => rfl
  | cons item items ih => exact congrArg _ (ih _)

theorem boundOperands_assign {lead : String} (hlead : IsWordText lead)
    (items : List (String × Value)) (binds : Binds) :
    List.Forall₂ (Assigns (boundOperands lead items binds).2) items
      (boundOperands lead items binds).1 := by
  induction items generalizing binds with
  | nil => exact .nil
  | cons item items ih =>
    refine .cons ⟨rfl, _, rfl, ?_⟩ (ih _)
    rw [boundOperands_binds]
    exact get?_allotted_head hlead _ _ _ _

private theorem boundOperands_places (lead : String) (items : List (String × Value))
    (binds : Binds) :
    Places ((boundOperands lead items binds).1.map Prod.snd) (allot lead items binds) := by
  induction items generalizing binds with
  | nil => exact .nil
  | cons item items ih => exact .name _ (ih _)

def filled (items : List (String × Value)) : List (String × Value) :=
  items.filter fun item => !item.2.isNull

theorem matchConditions_binds (items : List (String × Value)) (binds : Binds) :
    (matchConditions items binds).2 = allotted "o_" (filled items) binds := by
  induction items generalizing binds with
  | nil => rfl
  | cons item items ih =>
    obtain ⟨field, value⟩ := item
    cases hn : value.isNull with
    | true => simpa [matchConditions, filled, hn] using ih binds
    | false => simpa [matchConditions, filled, hn, allotted] using ih _

theorem matchConditions_match (items : List (String × Value)) (binds : Binds) :
    List.Forall₂ (Matches (matchConditions items binds).2) items
      (matchConditions items binds).1 := by
  induction items generalizing binds with
  | nil => exact .nil
  | cons item items ih =>
    obtain ⟨field, value⟩ := item
    cases hn : value.isNull with
    | true =>
      simp only [matchConditions, hn, if_true]
      exact .cons (by simp [Matches, hn]) (ih binds)
    | false =>
      simp only [matchConditions, hn, Bool.false_eq_true, if_false]
      refine .cons ?_ (ih _)
      simp only [Matches, hn, Bool.false_eq_true, if_false]
      refine ⟨_, rfl, ?_⟩
      rw [matchConditions_binds]
      exact get?_allotted_head lead_old_isWordText _ _ _ _

theorem matchConditions_flat (items : List (String × Value)) (binds : Binds) :
    ∀ p ∈ (matchConditions items binds).1, ∃ c, p = .condition c := by
  have hmatch := matchConditions_match items binds
  intro p hp
  obtain ⟨column, -, hcolumn⟩ := forall₂_mem_right hmatch p hp
  rw [Matches] at hcolumn
  split at hcolumn
  · exact ⟨_, hcolumn⟩
  · obtain ⟨name, hname, -⟩ := hcolumn
    exact ⟨_, hname⟩

private theorem matchConditions_places (items : List (String × Value)) (binds : Binds) :
    Places (Predicate.all (matchConditions items binds).1).operands
      (allot "o_" (filled items) binds) := by
  induction items generalizing binds with
  | nil => exact .nil
  | cons item items ih =>
    obtain ⟨field, value⟩ := item
    cases hn : value.isNull with
    | true =>
      simp only [matchConditions, filled, hn, if_true, List.filter_cons, Bool.not_true,
        Bool.false_eq_true, if_false]
      exact .null (ih binds)
    | false =>
      simp only [matchConditions, filled, hn, List.filter_cons, Bool.not_false, Bool.false_eq_true,
        if_false, if_true, allot]
      exact .name _ (ih _)

namespace Request

def placeholders (d : Dialect) (r : Request) : List String :=
  (r.statement.operands d).filterMap Operand.placeholder?

/-- The statement of a request holds no value, and its placeholders are the names of the binds. -/
structure Fits (d : Dialect) (r : Request) : Prop where
  parameters : ∀ compiled, r.statement.compile d = .ok compiled → compiled.parameters = []
  text : ∀ compiled, r.statement.compile d = .ok compiled → ∃ texts : List String,
    texts.length = (r.statement.operands d).length + 1 ∧
      compiled.sql = weave texts ((r.statement.operands d).map Operand.text)
  bound : r.placeholders d = r.binds.entries.map Prod.fst
  distinct : (r.placeholders d).Nodup

theorem Fits.of_places {d : Dialect} {r : Request} (names : List String)
    (h : Places (r.statement.operands d) names) (hb : r.binds.entries.map Prod.fst = names) :
    r.Fits d where
  parameters _ hc := (Statement.compile_unquoted hc h.unquoted).1
  text _ hc := (Statement.compile_unquoted hc h.unquoted).2
  bound := h.placeholders.trans hb.symm
  distinct := by
    rw [placeholders, h.placeholders, ← hb]
    exact r.binds.values.distinct

end Request

private theorem names_empty {lead : String} (hlead : IsWordText lead)
    (items : List (String × Value)) :
    (allotted lead items .empty).entries.map Prod.fst = allot lead items .empty := by
  rw [allotted_names hlead]
  rfl

theorem selection_fits (d : Dialect) (table : String) (filters : List Filter)
    (order : List Ordered) : (selection table filters order).Fits d := by
  have hplaces := filterConditions_places filters .empty
  refine .of_places (allot "" (filters.map Filter.item) .empty) ?_ ?_
  · have hoperands : (selection table filters order).statement.operands d =
        Statement.rootOperands (selection table filters order).statement.filter ++ [] := rfl
    rw [hoperands, List.append_nil]
    cases filters with
    | nil => exact .nil
    | cons f filters => exact hplaces
  · have hbinds : (selection table filters order).binds = (filterConditions filters .empty).2 := rfl
    rw [hbinds, filterConditions_binds, names_empty lead_empty_isWordText]

theorem insertion_fits (d : Dialect) (table : String) (record : Record) :
    (insertion table record).Fits d := by
  refine .of_places _ (boundOperands_places "" record.entries .empty) ?_
  have hbinds : (insertion table record).binds = (boundOperands "" record.entries .empty).2 := rfl
  rw [hbinds, boundOperands_binds, names_empty lead_empty_isWordText]

theorem removal_fits (d : Dialect) (table : String) (record : Record) :
    (removal table record).Fits d := by
  refine .of_places _ (matchConditions_places record.entries .empty) ?_
  have hbinds : (removal table record).binds = (matchConditions record.entries .empty).2 := rfl
  rw [hbinds, matchConditions_binds, names_empty lead_old_isWordText]

theorem replacement_sets (table : String) (previous current : Record) :
    (replacement table previous current).statement.sets.entries =
      (boundOperands "n_" current.entries .empty).1 := by
  refine Keyed.entries_ofList _ ?_
  rw [boundOperands_keys]
  exact current.distinct

theorem replacement_fits (d : Dialect) (table : String) (previous current : Record) :
    (replacement table previous current).Fits d := by
  have hsets := boundOperands_places "n_" current.entries .empty
  have hmatch := matchConditions_places previous.entries
    (boundOperands "n_" current.entries .empty).2
  refine .of_places (allot "n_" current.entries .empty ++ allot "o_" (filled previous.entries)
    (boundOperands "n_" current.entries .empty).2) ?_ ?_
  · have hoperands : (replacement table previous current).statement.operands d =
        (replacement table previous current).statement.sets.entries.map Prod.snd ++
          (Predicate.all (matchConditions previous.entries
            (boundOperands "n_" current.entries .empty).2).1).operands := rfl
    rw [hoperands, replacement_sets]
    exact hsets.append hmatch
  · have hbinds : (replacement table previous current).binds =
        (matchConditions previous.entries (boundOperands "n_" current.entries .empty).2).2 := rfl
    rw [hbinds, matchConditions_binds, allotted_names lead_old_isWordText, boundOperands_binds,
      names_empty lead_new_isWordText]

private theorem Request.Assigns.mono {binds binds' : Binds} (h : binds.entries ⊆ binds'.entries)
    {column : String × Value} {assignment : String × Operand}
    (ha : Assigns binds column assignment) :
    Assigns binds' column assignment := by
  obtain ⟨hfield, name, hname, hvalue⟩ := ha
  exact ⟨hfield, name, hname, get?_of_mem (h ((binds.values.get?_eq_some name _).mp hvalue))⟩

private theorem replacement_assigns (table : String) (previous current : Record) :
    List.Forall₂ (Assigns (replacement table previous current).binds) current.entries
      (replacement table previous current).statement.sets.entries := by
  rw [replacement_sets]
  refine (boundOperands_assign lead_new_isWordText current.entries .empty).imp fun _ _ h => ?_
  refine h.mono ?_
  have hbinds : (replacement table previous current).binds =
      (matchConditions previous.entries (boundOperands "n_" current.entries .empty).2).2 := rfl
  rw [hbinds, matchConditions_binds]
  exact entries_subset_allotted lead_old_isWordText _ _

theorem boundOperands_eq_nil (lead : String) (items : List (String × Value)) (binds : Binds) :
    (boundOperands lead items binds).1 = [] ↔ items = [] := by
  cases items <;> simp [boundOperands]

theorem insertion_compiles (d : Dialect) (table : String) (record : Record) :
    (∃ compiled, (insertion table record).statement.compile d = .ok compiled) ↔
      record.entries ≠ [] := by
  have hcolumns : (insertion table record).statement.columns = [] ↔ record.entries = [] :=
    boundOperands_eq_nil "" record.entries .empty
  rw [Statement.compiles_iff]
  constructor
  · exact fun h hempty => h _ (.column rfl rfl (hcolumns.mpr hempty))
  · intro hne e he
    cases he with
    | verb free => cases free
    | table _ _ free => cases free
    | column _ _ free => exact hne (hcolumns.mp free)
    | assignment set => cases set

theorem replacement_compiles (d : Dialect) (table : String) (previous current : Record) :
    (∃ compiled, (replacement table previous current).statement.compile d = .ok compiled) ↔
      current.entries ≠ [] := by
  have hsets : (replacement table previous current).statement.sets.entries = [] ↔
      current.entries = [] := by
    rw [replacement_sets]
    exact boundOperands_eq_nil "n_" current.entries .empty
  rw [Statement.compiles_iff]
  constructor
  · exact fun h hempty => h _ (.assignment rfl rfl (hsets.mpr hempty))
  · intro hne e he
    cases he with
    | verb free => cases free
    | table _ _ free => cases free
    | column set => cases set
    | assignment _ _ free => exact hne (hsets.mp free)

/-- Every request of a gateway fits its binds. A select and a delete always compile, an insert and
an update exactly when they have a column to write. Filters, written columns and the columns of a
before-image each find their own value under their own name. -/
theorem requests_fit (d : Dialect) (table : String) (filters : List Filter)
    (order : List Ordered) (record previous current : Record) :
    ((selection table filters order).Fits d ∧
      (∃ compiled, (selection table filters order).statement.compile d = .ok compiled) ∧
      ∃ conditions, (selection table filters order).statement.filter =
          (if filters = [] then none else some (.all conditions)) ∧
        List.Forall₂ (Restricts (selection table filters order).binds) filters conditions) ∧
    ((insertion table record).Fits d ∧
      ((∃ compiled, (insertion table record).statement.compile d = .ok compiled) ↔
        record.entries ≠ []) ∧
      List.Forall₂ (Assigns (insertion table record).binds) record.entries
        (insertion table record).statement.columns) ∧
    ((replacement table previous current).Fits d ∧
      ((∃ compiled, (replacement table previous current).statement.compile d = .ok compiled) ↔
        current.entries ≠ []) ∧
      List.Forall₂ (Assigns (replacement table previous current).binds) current.entries
        (replacement table previous current).statement.sets.entries ∧
      ∃ conditions, (replacement table previous current).statement.filter =
          some (.all conditions) ∧
        List.Forall₂ (Matches (replacement table previous current).binds) previous.entries
          conditions) ∧
    ((removal table record).Fits d ∧
      (∃ compiled, (removal table record).statement.compile d = .ok compiled) ∧
      ∃ conditions, (removal table record).statement.filter = some (.all conditions) ∧
        List.Forall₂ (Matches (removal table record).binds) record.entries conditions) := by
  refine ⟨⟨selection_fits d table filters order, ⟨_, rfl⟩, _, ?_,
      filterConditions_restrict filters .empty⟩,
    ⟨insertion_fits d table record, insertion_compiles d table record,
      boundOperands_assign lead_empty_isWordText record.entries .empty⟩,
    ⟨replacement_fits d table previous current, replacement_compiles d table previous current,
      replacement_assigns table previous current, _, rfl, matchConditions_match previous.entries _⟩,
    removal_fits d table record, ⟨_, rfl⟩, _, rfl, matchConditions_match record.entries .empty⟩
  cases filters <;> rfl

end RecordGateway
