import RecordGateway.Proofs.Lists
import RecordGateway.Proofs.Reading.Predicate
import RecordGateway.Proofs.Request.Binding
import RecordGateway.Proofs.Statement.Rendering
/-!
# The parts of a write

An update names the binds of its assignments with the lead `n_` and those of the row it looks for
with the lead `o_`.
-/
namespace RecordGateway

private theorem bindName_leads (lead field : String) (binds : Binds) :
    ∃ rest, bindName lead field binds = lead ++ rest := by
  obtain ⟨rest, hname⟩ := bindName_extends lead field binds
  exact ⟨sanitized field ++ rest, by rw [hname, String.append_assoc]⟩

/-- A name depends on the bound names that have its lead, and on no other. -/
theorem bindName_congr {lead : String} {binds others : Binds}
    (h : ∀ rest, isBound binds (lead ++ rest) = isBound others (lead ++ rest)) (field : String) :
    bindName lead field binds = bindName lead field others := by
  have hsame (i : Nat) : isBound binds (nthName (lead ++ sanitized field) i) =
      isBound others (nthName (lead ++ sanitized field) i) := by
    obtain ⟨rest, hrest⟩ := nthName_extends (lead ++ sanitized field) i
    rw [hrest, String.append_assoc, h]
  obtain ⟨m, hm, hname⟩ := bindName_firstFree lead field binds
  obtain ⟨n, hn, hname'⟩ := bindName_firstFree lead field others
  have hm' : FirstFree (lead ++ sanitized field) others m :=
    ⟨fun i hi => (hsame i).symm.trans (hm.passed i hi), (hsame m).symm.trans hm.free⟩
  rw [hname, hname', hm'.unique hn]

/-- No name in the list has the lead. -/
def Clear (lead : String) (entries : List (String × Value)) : Prop :=
  ∀ rest, namePlaceholder (lead ++ rest) ∉ entries.map Prod.fst

private theorem allot_leads {lead name : String} {items : List (String × Value)} {binds : Binds}
    (h : name ∈ allot lead items binds) : ∃ rest, name = namePlaceholder (lead ++ rest) := by
  induction items generalizing binds with
  | nil => cases h
  | cons item items ih =>
    rcases List.mem_cons.mp h with rfl | h
    · obtain ⟨rest, hrest⟩ := bindName_leads lead item.1 binds
      exact ⟨rest, by rw [← hrest]⟩
    · exact ih h

private theorem leads_differ (s t : String) : "o_" ++ s ≠ "n_" ++ t := by
  intro h
  have hlists := congrArg String.toList h
  simp [String.toList_append] at hlists

private theorem assignments_clear (items : List (String × Value)) :
    Clear "o_" (boundOperands "n_" items .empty).2.entries := by
  intro rest hmem
  rw [boundOperands_binds, allotted_names lead_new_isWordText] at hmem
  obtain ⟨other, hother⟩ := allot_leads ((List.mem_append.mp hmem).resolve_left List.not_mem_nil)
  exact leads_differ rest other (String.append_right_inj _ |>.mp hother)

private theorem isBound_behind {lead : String} {front : List (String × Value)}
    (hfront : Clear lead front)
    {binds own : Binds} (h : binds.entries = front ++ own.entries) (rest : String) :
    isBound binds (lead ++ rest) = isBound own (lead ++ rest) := by
  rw [Bool.eq_iff_iff, isBound_iff, isBound_iff, h, List.map_append, List.mem_append]
  exact or_iff_right (hfront rest)

theorem matchConditions_behind {front : List (String × Value)} (hfront : Clear "o_" front)
    (items : List (String × Value)) {binds own : Binds} (h : binds.entries = front ++ own.entries) :
    (matchConditions items binds).1 = (matchConditions items own).1 ∧
      (matchConditions items binds).2.entries = front ++ (matchConditions items own).2.entries := by
  induction items generalizing binds own with
  | nil => exact ⟨rfl, h⟩
  | cons item items ih =>
    obtain ⟨field, value⟩ := item
    cases hn : value.isNull with
    | true =>
      simp only [matchConditions, hn, if_true]
      exact ⟨congrArg _ (ih h).1, (ih h).2⟩
    | false =>
      -- Both binds grow by the same name, so the front stays the only difference.
      have hname := bindName_congr (isBound_behind hfront h) field
      have hnext : (binds.bind (bindName "o_" field binds) value).entries =
          front ++ (own.bind (bindName "o_" field own) value).entries := by
        rw [bind_bindName_entries lead_old_isWordText, bind_bindName_entries lead_old_isWordText, h,
          hname, List.append_assoc]
      simp only [matchConditions, hn, Bool.false_eq_true, if_false]
      obtain ⟨hconditions, hentries⟩ := ih hnext
      rw [hname] at hconditions hentries ⊢
      exact ⟨congrArg _ hconditions, hentries⟩

/-! ## Texts -/

/-- Conditions after their keyword, or nothing where there is no condition. -/
def whereText (conditions : List String) : String :=
  if conditions = [] then "" else " WHERE " ++ String.intercalate " AND " conditions

def matchTexts (record : Record) : List String :=
  (matchConditions record.entries .empty).1.map Predicate.text

def matchBinds (record : Record) : List (String × Value) :=
  (matchConditions record.entries .empty).2.entries

def assignTexts (record : Record) : List String :=
  (boundOperands "n_" record.entries .empty).1.map fun a =>
    quoteIdentifier a.1 ++ " = " ++ a.2.text

def assignBinds (record : Record) : List (String × Value) :=
  (boundOperands "n_" record.entries .empty).2.entries

theorem Operand.text_name (name : String) : Operand.text ⟨.text name, false⟩ = name :=
  String.append_empty

theorem Predicate.text_verbatim (field relation text : String) :
    Predicate.text (.condition (.verbatim field relation text)) =
      field ++ (" " ++ relation ++ " ") ++ text := by
  have htext : Predicate.text (.condition (.verbatim field relation text)) =
      field ++ ((" " ++ relation ++ " ") ++ Operand.text ⟨.text text, false⟩) := rfl
  rw [htext, Operand.text_name]
  exact String.append_assoc.symm

namespace Request

/-- The text asks a column for null, or for the value that is bound to a name. -/
inductive Asks (binds : List (String × Value)) : String × Value → String → Prop where
  | null (field : String) : Asks binds (field, .null) (quoteIdentifier field ++ " IS NULL")
  | equal {field name : String} {value : Value} (present : value ≠ .null)
      (bound : (name, value) ∈ binds) :
      Asks binds (field, value) (quoteIdentifier field ++ " = " ++ name)

/-- The text gives a column the value that is bound to a name. -/
inductive Sets (binds : List (String × Value)) : String × Value → String → Prop where
  | value {field name : String} {value : Value} (bound : (name, value) ∈ binds) :
      Sets binds (field, value) (quoteIdentifier field ++ " = " ++ name)

theorem Asks.mono {binds others : List (String × Value)} (h : binds ⊆ others)
    {column : String × Value} {text : String} (ha : Asks binds column text) :
    Asks others column text := by
  cases ha with
  | null field => exact .null field
  | equal present bound => exact .equal present (h bound)

theorem Sets.mono {binds others : List (String × Value)} (h : binds ⊆ others)
    {column : String × Value} {text : String} (hs : Sets binds column text) :
    Sets others column text := by
  cases hs with
  | value bound => exact .value (h bound)

private theorem Matches.asks {binds : Binds} {column : String × Value} {p : Predicate}
    (h : Matches binds column p) : Asks binds.entries column p.text := by
  obtain ⟨field, value⟩ := column
  by_cases hn : value.isNull
  · obtain rfl : value = .null := by cases value <;> simp_all [Value.isNull]
    obtain rfl : p = _ := h
    rw [Predicate.text_verbatim, String.append_assoc]
    exact .null field
  · rw [Matches, if_neg hn] at h
    obtain ⟨name, rfl, hname⟩ := h
    rw [Predicate.text_verbatim]
    refine .equal ?_ ((binds.values.get?_eq_some name value).mp hname)
    rintro rfl
    exact hn rfl

private theorem Assigns.sets {binds : Binds} {column : String × Value}
    {assignment : String × Operand}
    (h : Assigns binds column assignment) :
    Sets binds.entries column (quoteIdentifier assignment.1 ++ " = " ++ assignment.2.text) := by
  obtain ⟨field, value⟩ := column
  obtain ⟨rfl, name, hoperand, hname⟩ := h
  rw [hoperand, Operand.text_name]
  exact .value ((binds.values.get?_eq_some name value).mp hname)

/-- Nothing is a literal in a request that fits, so both renderings of it are the same text. -/
theorem Fits.compile {d : Dialect} {r : Request} (h : r.Fits d) {t : Template}
    (ht : r.statement.template d = .ok t) : r.statement.compile d = .ok ⟨t.inline, []⟩ := by
  have hcompile : r.statement.compile d = .ok ⟨t.numbered, t.parameters⟩ := by
    simp [Statement.compile, ht, Except.map]
  have hparameters : t.parameters = [] := h.parameters _ hcompile
  have hliterals : t.literals = [] := by
    simpa [Template.parameters] using hparameters
  rw [hcompile, hparameters]
  exact congrArg _ (congrArg (Compiled.mk · []) (t.write_plain _ _ 1 1 hliterals))

end Request

open Request

theorem matchTexts_ask (record : Record) :
    List.Forall₂ (Asks (matchBinds record)) record.entries (matchTexts record) := by
  rw [matchTexts, List.forall₂_map_right_iff]
  exact (matchConditions_match record.entries .empty).imp fun _ _ h => h.asks

theorem assignTexts_set (record : Record) :
    List.Forall₂ (Sets (assignBinds record)) record.entries (assignTexts record) := by
  rw [assignTexts, List.forall₂_map_right_iff]
  exact (boundOperands_assign lead_new_isWordText record.entries .empty).imp fun _ _ h => h.sets

theorem whereText_matchTexts (record : Record) :
    whereText (matchTexts record) =
      if record.entries = [] then ""
      else " WHERE " ++ String.intercalate " AND " (matchTexts record) := by
  have hempty : matchTexts record = [] ↔ record.entries = [] := by
    rw [← List.length_eq_zero_iff, ← (matchTexts_ask record).length_eq, List.length_eq_zero_iff]
  simp only [whereText, hempty]

theorem clause_flat {parts : List Predicate} (h : ∀ p ∈ parts, ∃ c, p = .condition c) :
    (Statement.clause "WHERE" (some (.all parts))).inline =
      whereText (parts.map Predicate.text) := by
  have htemplates : Predicate.partTemplates parts = parts.map Predicate.template := by
    induction parts with
    | nil => rfl
    | cons part parts ih =>
      obtain ⟨hpart, hparts⟩ := List.forall_mem_cons.mp h
      obtain ⟨c, rfl⟩ := hpart
      rw [Predicate.partTemplates, ih hparts]
      rfl
  have htext : (Predicate.all parts).template.inline =
      String.intercalate " AND " (parts.map Predicate.text) := by
    rw [Predicate.all, Predicate.template, htemplates]
    exact Template.inline_intercalate " AND " _ |>.trans (by rw [List.map_map]; rfl)
  cases parts with
  | nil => rfl
  | cons part parts =>
    obtain ⟨c, rfl⟩ := h part List.mem_cons_self
    have hne : (Predicate.all (.condition c :: parts)).template ≠ [] := by
      rw [Ne, Predicate.template_eq_nil]
      simp [Predicate.all, Predicate.conditions, Predicate.partConditions]
    rw [Statement.clause, if_neg (by simpa using hne), Template.inline_text, htext, whereText,
      if_neg (by simp)]
    rfl

theorem removal_compile (d : Dialect) (table : String) (record : Record) :
    (removal table record).statement.compile d =
      .ok ⟨"DELETE FROM " ++ table ++ whereText (matchTexts record), []⟩ := by
  have ht : (removal table record).statement.template d = .ok (.text ("DELETE FROM " ++ table) ::
      Statement.clause "WHERE" (some (.all (matchConditions record.entries .empty).1))) := rfl
  rw [(removal_fits d table record).compile ht, Template.inline_text,
    clause_flat (matchConditions_flat _ _)]
  rfl

theorem matchConditions_assigned (previous current : Record) :
    (matchConditions previous.entries (boundOperands "n_" current.entries .empty).2).1 =
        (matchConditions previous.entries .empty).1 ∧
      (matchConditions previous.entries (boundOperands "n_" current.entries .empty).2).2.entries =
        assignBinds current ++ matchBinds previous :=
  matchConditions_behind (assignments_clear current.entries) previous.entries
    (List.append_nil _).symm

theorem replacement_binds (table : String) (previous current : Record) :
    (replacement table previous current).binds.entries =
      assignBinds current ++ matchBinds previous :=
  (matchConditions_assigned previous current).2

theorem replacement_compile (d : Dialect) (table : String) {previous current : Record}
    (hcurrent : current.entries ≠ []) :
    (replacement table previous current).statement.compile d =
      .ok ⟨"UPDATE " ++ table ++ " SET " ++ String.intercalate ", " (assignTexts current) ++
        whereText (matchTexts previous), []⟩ := by
  have hsets := replacement_sets table previous current
  have hempty : (replacement table previous current).statement.sets.isEmpty = false := by
    rw [Keyed.isEmpty, hsets, List.isEmpty_eq_false_iff, Ne, boundOperands_eq_nil]
    exact hcurrent
  have hconditions := (matchConditions_assigned previous current).1
  have hfilter : (replacement table previous current).statement.filterTemplate =
      Statement.clause "WHERE" (some (.all (matchConditions previous.entries .empty).1)) := by
    rw [← hconditions]
    rfl
  have ht : (replacement table previous current).statement.template d =
      .ok (.text ("UPDATE " ++ table ++ " SET ") ::
        List.intercalate [.text ", "] ((boundOperands "n_" current.entries .empty).1.map
          fun a => .text (quoteIdentifier a.1 ++ " = ") :: a.2.template) ++
        Statement.clause "WHERE" (some (.all (matchConditions previous.entries .empty).1))) := by
    have htable : (replacement table previous current).statement.requireTable = .ok table := rfl
    have htemplate : (replacement table previous current).statement.template d =
        (replacement table previous current).statement.updateTemplate := rfl
    rw [htemplate, Statement.updateTemplate, htable, hempty, hsets, hfilter]
    rfl
  rw [(replacement_fits d table previous current).compile ht, Template.inline_append,
    Template.inline_text, Template.inline_intercalate, List.map_map,
    clause_flat (matchConditions_flat _ _)]
  rfl

end RecordGateway
