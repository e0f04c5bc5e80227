import RecordGateway.Proofs.Store.Requests
import RecordGateway.Proofs.Store.Sentences
/-! # Queries in the texts of requests -/
namespace RecordGateway

/-! ## Names of binds -/

/-- A name that a gateway makes for a bind. -/
def IsBindName (name : String) : Prop :=
  ∃ word, name = namePlaceholder word ∧ IsWordText word ∧ word ≠ ""

theorem IsBindName.read {name : String} (h : IsBindName name) :
    Term.read name = some (.parameter name) := by
  obtain ⟨word, rfl, hword, hne⟩ := h
  exact Term.read_placeholder hword hne

private theorem IsBindName.known {name : String} (h : IsBindName name) (known : String → Bool) :
    Reader.Known known name := ⟨_, h.read, rfl⟩

theorem known_placeholder {word : String} (h : IsWordText word) (known : String → Bool) :
    Reader.Known known (namePlaceholder word) ↔ IsBindName (namePlaceholder word) := by
  refine ⟨fun hknown => ⟨word, rfl, h, ?_⟩, fun hname => hname.known known⟩
  have hcolon : Term.read (namePlaceholder "") = none := by decide
  rintro rfl
  obtain ⟨term, hterm, -⟩ := hknown
  rw [hcolon] at hterm
  cases hterm

private theorem allot_isWordText {lead : String} (hlead : IsWordText lead)
    (items : List (String × Value)) (binds : Binds) :
    ∀ name ∈ allot lead items binds, ∃ word, name = namePlaceholder word ∧ IsWordText word := by
  induction items generalizing binds with
  | nil => simp [allot]
  | cons item items ih =>
    exact List.forall_mem_cons.mpr ⟨⟨_, rfl, bindName_isWordText hlead _ _⟩, ih _⟩

private theorem allot_isBindName {lead : String} (hlead : IsWordText lead)
    {items : List (String × Value)}
    (hne : ∀ item ∈ items, lead ++ sanitized item.1 ≠ "") (binds : Binds) :
    ∀ name ∈ allot lead items binds, IsBindName name := by
  induction items generalizing binds with
  | nil => simp [allot]
  | cons item items ih =>
    obtain ⟨hfirst, hrest⟩ := List.forall_mem_cons.mp hne
    refine List.forall_mem_cons.mpr ⟨⟨_, rfl, bindName_isWordText hlead _ _,
      fun hempty => hfirst ?_⟩,
      ih hrest _⟩
    obtain ⟨rest, hname⟩ := bindName_extends lead item.1 binds
    rw [hname] at hempty
    exact (String.append_eq_empty_iff.mp hempty).1

private theorem lead_ne_empty {lead : String} (hlead : lead ≠ "") (items : List (String × Value)) :
    ∀ item ∈ items, lead ++ sanitized item.1 ≠ "" :=
  fun _ _ hempty => hlead (String.append_eq_empty_iff.mp hempty).1

theorem matchConditions_isBindName (items : List (String × Value)) {binds : Binds}
    (hbinds : ∀ e ∈ binds.entries, IsBindName e.1) :
    ∀ e ∈ (matchConditions items binds).2.entries, IsBindName e.1 := by
  intro e he
  have hname := List.mem_map_of_mem (f := Prod.fst) he
  rw [matchConditions_binds, allotted_names lead_old_isWordText] at hname
  rcases List.mem_append.mp hname with hname | hname
  · obtain ⟨other, hother, heq⟩ := List.mem_map.mp hname
    exact heq ▸ hbinds other hother
  · exact allot_isBindName lead_old_isWordText (lead_ne_empty (by decide) _) _ _ hname

theorem removal_isBindName (table : String) (record : Record) :
    ∀ e ∈ (removal table record).binds.entries, IsBindName e.1 :=
  matchConditions_isBindName record.entries (List.forall_mem_nil _)

theorem replacement_isBindName (table : String) (previous current : Record) :
    ∀ e ∈ (replacement table previous current).binds.entries, IsBindName e.1 := by
  refine matchConditions_isBindName previous.entries fun e he => ?_
  have hname := List.mem_map_of_mem (f := Prod.fst) he
  rw [boundOperands_binds, allotted_names lead_new_isWordText] at hname
  rcases List.mem_append.mp hname with hname | hname
  · cases hname
  · exact allot_isBindName lead_new_isWordText (lead_ne_empty (by decide) _) _ _ hname

theorem filterConditions_isBindName {filters : List Filter} (h : ∀ f ∈ filters, f.field ≠ "") :
    ∀ e ∈ (filterConditions filters .empty).2.entries, IsBindName e.1 := by
  intro e he
  have hname := List.mem_map_of_mem (f := Prod.fst) he
  rw [filterConditions_binds, allotted_names lead_empty_isWordText] at hname
  have hfields : ∀ item ∈ filters.map Filter.item, "" ++ sanitized item.1 ≠ "" := by
    intro item hitem hempty
    obtain ⟨f, hf, rfl⟩ := List.mem_map.mp hitem
    apply h f hf
    have hlength := congrArg String.length hempty
    simpa [sanitized, Filter.item] using hlength
  rcases List.mem_append.mp hname with hname | hname
  · cases hname
  · exact allot_isBindName lead_empty_isWordText hfields _ _ hname

theorem insertion_isWordText (table : String) (record : Record) :
    ∀ e ∈ (insertion table record).binds.entries,
      ∃ word, e.1 = namePlaceholder word ∧ IsWordText word := by
  intro e he
  have hbinds : (insertion table record).binds = allotted "" record.entries .empty :=
    boundOperands_binds "" record.entries .empty
  have hmem := List.mem_map_of_mem (f := Prod.fst) he
  rw [hbinds, allotted_names lead_empty_isWordText] at hmem
  exact allot_isWordText lead_empty_isWordText _ _ _
    ((List.mem_append.mp hmem).resolve_left List.not_mem_nil)

/-! ## Names that a query has -/

private theorem Query.mem_parameterNames {q : Query} {name : String} (hname : IsBindName name)
    (h : name ∈ q.terms) : name ∈ q.parameterNames := by
  refine List.mem_filterMap.mpr ⟨name, h, ?_⟩
  rw [hname.read]
  rfl

theorem Request.Fits.mem_operands {d : Dialect} {r : Request} (hfits : r.Fits d)
    {e : String × Value} (he : e ∈ r.binds.entries) :
    ∃ o ∈ r.statement.operands d, o.value.display = e.1 := by
  have hname : e.1 ∈ r.placeholders d := by
    rw [hfits.bound]
    exact List.mem_map_of_mem he
  obtain ⟨o, ho, hplace⟩ := List.mem_filterMap.mp hname
  unfold Operand.placeholder? at hplace
  split at hplace
  · exact ⟨o, ho, Option.some.inj hplace⟩
  · cases hplace

private theorem Query.mem_filterTerms {parts : List Predicate} {o : Operand}
    (h : o ∈ (Predicate.all parts).operands) :
    o.value.display ∈ filterTerms (Reader.whereFilter parts) := by
  obtain ⟨c, hc, rfl⟩ := List.mem_map.mp h
  cases parts with
  | nil => cases hc
  | cons part parts => exact List.mem_flatMap.mpr ⟨c, hc, by simp⟩

/-! ## Comparisons of requests -/

namespace Request

open Reader

/-- The comparisons of conditions, each of which is known as its field is. -/
structure Compares (texts : List String) (parts : List Predicate) (comparisons : List Comparison) :
    Prop where
  predicates : comparisons.map Comparison.predicate = parts
  plain : ∀ c ∈ comparisons, c.Plain
  known : ∀ known, (∀ c ∈ comparisons, c.Known known) ↔ ∀ text ∈ texts, Known known text

private theorem Compares.cons {texts : List String} {parts : List Predicate}
    {comparisons : List Comparison}
    {c : Comparison} (hplain : c.Plain) (hoperand : ∀ known, Known known c.operand)
    (h : Compares texts parts comparisons) :
    Compares (c.field :: texts) (c.predicate :: parts) (c :: comparisons) where
  predicates := by rw [List.map_cons, h.predicates]
  plain := List.forall_mem_cons.mpr ⟨hplain, h.plain⟩
  known known := by
    rw [List.forall_mem_cons, List.forall_mem_cons, h.known, Comparison.Known,
      and_iff_left (hoperand known)]

private theorem Compares.nil : Compares [] [] [] where
  predicates := rfl
  plain := nofun
  known _ := by simp

private theorem Compares.text {texts : List String} {parts : List Predicate}
    {comparisons : List Comparison} (h : Compares texts parts comparisons) :
    (comparisons.map fun c => c.predicate.text) = parts.map Predicate.text := by
  rw [← h.predicates, List.map_map]
  rfl

private theorem plain_placeholder {field relation name : String} (hfield : IsAtom field)
    (hrelation : relation ∈ comparisonWords) (hname : IsBindName name) :
    Comparison.Plain ⟨field, relation, name⟩ := by
  obtain ⟨word, rfl, hword, -⟩ := hname
  have hcolon {expected : String} {c : Char} {cs : List Char}
      (hexpected : expected.toList = c :: cs)
      (hc : ':'.toUpper ≠ c) : isWord expected (namePlaceholder word) = false := by
    have hlist : namePlaceholder word = String.ofList (':' :: word.toList) := by
      rw [← String.toList_inj]
      simp [namePlaceholder, String.toList_append]
    rw [isWord, beq_eq_false_iff_ne, hlist]
    exact Term.upper_ne (by rw [hexpected]; rfl) hc
  exact ⟨hfield, hrelation, .placeholder hword, hcolon rfl (by decide), hcolon rfl (by decide)⟩

private theorem plain_null {field : String} (hfield : IsAtom field) :
    Comparison.Plain ⟨field, "IS", "NULL"⟩ := by
  have his : "IS" ∈ comparisonWords := by decide
  have hnull : isPlainIdentifier "NULL".toList = true := by decide
  have hplainly : isWord "NOT" "NULL" = false ∧ isWord "DISTINCT" "NULL" = false := by decide
  exact ⟨hfield, his, .plain hnull, hplainly⟩

private theorem known_null (known : String → Bool) : Known known "NULL" := by
  have hread : Term.read "NULL" = some (.constant .null) := by decide
  exact ⟨_, hread, rfl⟩

private theorem matches_compare {binds : Binds} (hnames : ∀ e ∈ binds.entries, IsBindName e.1)
    {entries : List (String × Value)} {parts : List Predicate}
    (h : List.Forall₂ (Matches binds) entries parts) :
    ∃ comparisons, Compares (entries.map fun e => quoteIdentifier e.1) parts comparisons := by
  induction h with
  | nil => exact ⟨[], .nil⟩
  | @cons entry part entries parts hmatch _ ih =>
    obtain ⟨comparisons, hcomparisons⟩ := ih
    have hfield : IsAtom (quoteIdentifier entry.1) := .quoteIdentifier entry.1
    unfold Matches at hmatch
    split at hmatch
    · obtain rfl := hmatch
      exact ⟨_, hcomparisons.cons (plain_null hfield) known_null⟩
    · obtain ⟨name, rfl, hvalue⟩ := hmatch
      have hname := hnames _ ((binds.values.get?_eq_some name _).mp hvalue)
      exact ⟨_, hcomparisons.cons (plain_placeholder hfield (by decide) hname) hname.known⟩

private theorem restricts_compare {binds : Binds} (hnames : ∀ e ∈ binds.entries, IsBindName e.1)
    {filters : List Filter} {parts : List Predicate}
    (h : List.Forall₂ (Restricts binds) filters parts) (hfields : ∀ f ∈ filters, IsAtom f.field)
    (hrelations : ∀ f ∈ filters, f.relation ∈ comparisonWords) :
    ∃ comparisons, Compares (filters.map Filter.field) parts comparisons := by
  induction h with
  | nil => exact ⟨[], .nil⟩
  | @cons f part filters parts hrestrict _ ih =>
    obtain ⟨hfield, hfields⟩ := List.forall_mem_cons.mp hfields
    obtain ⟨hrelation, hrelations⟩ := List.forall_mem_cons.mp hrelations
    obtain ⟨comparisons, hcomparisons⟩ := ih hfields hrelations
    obtain ⟨name, rfl, hvalue⟩ := hrestrict
    have hname := hnames _ ((binds.values.get?_eq_some name _).mp hvalue)
    exact ⟨_, hcomparisons.cons (plain_placeholder hfield hrelation hname) hname.known⟩

/-! ## What is read -/

/-- In the compiled text of a request the query is read, in the scopes in which it is fine and in no
others. It has the name of every bind. -/
structure Reads (r : Request) (fine : Scope → Prop) (query : Query) : Prop where
  compiles : ∃ sql, r.statement.compile .sqlite = .ok ⟨sql, []⟩ ∧
    ∀ scope q, Query.read scope sql = .ok q ↔ fine scope ∧ q = query
  names : fine .all → ∀ e ∈ r.binds.entries, e.1 ∈ query.parameterNames

namespace Reads

variable {r : Request} {fine : Scope → Prop} {query q : Query} (h : r.Reads fine query)
  {store after : Store} {records : List Record}
include h

theorem of_ran (hran : store.Ran r q records after) :
    fine .all ∧ q = query ∧ Refusal.tooDeep query = none := by
  obtain ⟨compiled, hcompile, hunderstand⟩ := hran.understood
  obtain ⟨sql, hsql, hread⟩ := h.compiles
  obtain rfl : compiled = ⟨sql, []⟩ := Except.ok.inj (hcompile.symm.trans hsql)
  obtain ⟨hq, hdeep, -⟩ := Store.understand_eq_ok.mp hunderstand
  obtain ⟨hfine, rfl⟩ := (hread .all q).mp hq
  exact ⟨hfine, rfl, hdeep⟩

/-- A query that is fine is run if it is not too deep and names no column that is unknown. -/
theorem ran (hfine : fine .all) (hdeep : Refusal.tooDeep query = none)
    (hrefusal : ∀ sql, (∀ scope, fine scope → Refusal.unknownColumn sql scope = none) →
      store.refusal sql query = none)
    (hperform : store.perform r.binds.entries query = (.ok records, after)) :
    store.Ran r query records after := by
  obtain ⟨sql, hsql, hread⟩ := h.compiles
  refine ⟨⟨_, hsql, Store.understand_eq_ok.mpr ⟨(hread .all query).mpr ⟨hfine, rfl⟩, hdeep, ?_⟩⟩,
    hperform⟩
  exact hrefusal sql fun scope hscope =>
    Refusal.unknownColumn_of_read ((hread scope query).mpr ⟨hscope, rfl⟩)

theorem refused (hnot : ¬fine .all ∨ Refusal.tooDeep query ≠ none) (store : Store) :
    ∃ e, Gateway.execute Store.connection r store = (.error e, store) := by
  obtain ⟨sql, hsql, hread⟩ := h.compiles
  cases hunderstand : store.understand sql with
  | error cause => exact ⟨_, Store.execute_refused hsql hunderstand⟩
  | ok q =>
    obtain ⟨hq, hdeep, -⟩ := Store.understand_eq_ok.mp hunderstand
    obtain ⟨hfine, rfl⟩ := (hread .all q).mp hq
    exact absurd hdeep (hnot.resolve_left (not_not_intro hfine))

end Reads
end Request

/-- The terms that a write gives to the columns of a record. -/
def givenTerms (lead : String) (record : Record) : List (String × String) :=
  (boundOperands lead record.entries .empty).1.map fun column => (column.1, column.2.text)

theorem givenTerms_keys (lead : String) (record : Record) :
    (givenTerms lead record).map Prod.fst = record.keys := by
  rw [givenTerms, List.map_map]
  exact boundOperands_keys lead record.entries .empty

private theorem givenTerms_ne_nil (lead : String) {record : Record} (h : record.entries ≠ []) :
    givenTerms lead record ≠ [] := by
  intro hnil
  have hkeys := givenTerms_keys lead record
  rw [hnil] at hkeys
  exact h (List.map_eq_nil_iff.mp hkeys.symm)

theorem givenTerms_assign {lead : String} (hlead : IsWordText lead) (record : Record) :
    List.Forall₂ (fun column given => given.1 = column.1 ∧
      (given.2, column.2) ∈ (boundOperands lead record.entries .empty).2.entries)
      record.entries (givenTerms lead record) := by
  rw [givenTerms, List.forall₂_map_right_iff]
  refine (boundOperands_assign hlead record.entries .empty).imp fun column assignment h => ?_
  obtain ⟨hfield, name, hoperand, hname⟩ := h
  rw [hoperand, Operand.text_name]
  exact ⟨hfield, ((boundOperands lead record.entries .empty).2.values.get?_eq_some name _).mp hname⟩

theorem givenTerms_bound {lead : String} (hlead : IsWordText lead) (record : Record) :
    ∀ given ∈ givenTerms lead record, given.2 ∈
      (boundOperands lead record.entries .empty).2.entries.map Prod.fst := by
  intro given hgiven
  obtain ⟨column, -, -, hbound⟩ := forall₂_mem_right (givenTerms_assign hlead record) given hgiven
  exact List.mem_map_of_mem (f := Prod.fst) hbound

theorem mem_givenTerms {lead : String} (hlead : IsWordText lead) {record : Record} {o : Operand}
    (h : o ∈ (boundOperands lead record.entries .empty).1.map Prod.snd) :
    o.value.display ∈ (givenTerms lead record).map Prod.snd := by
  obtain ⟨assignment, hmem, rfl⟩ := List.mem_map.mp h
  obtain ⟨column, -, -, name, hoperand, -⟩ :=
    forall₂_mem_right (boundOperands_assign hlead record.entries .empty) assignment hmem
  have hterm := List.mem_map_of_mem (f := fun a : String × Operand => a.2.text) hmem
  rw [hoperand, Operand.text_name] at hterm
  rw [hoperand, givenTerms, List.map_map]
  exact hterm

section
variable {table name : String}

theorem insertion_given {record : Record} {e : String × Value}
    (he : e ∈ (insertion table record).binds.entries) :
    ∃ given ∈ givenTerms "" record, given.2 = e.1 := by
  obtain ⟨o, ho, hname⟩ := (insertion_fits .sqlite table record).mem_operands he
  have hgiven := mem_givenTerms lead_empty_isWordText ho
  rw [hname] at hgiven
  exact List.mem_map.mp hgiven

theorem insertion_reads (htable : Term.readName table = some name) {record : Record}
    (hrecord : record.entries ≠ []) :
    (insertion table record).Reads
      (fun _ => (∀ e ∈ record.entries, (Term.readName (quoteIdentifier e.1)).isSome) ∧
        ∀ given ∈ givenTerms "" record, IsBindName given.2)
      (.insert name record.keys ((givenTerms "" record).map Prod.snd)) where
  compiles := by
    have hvalues : ((boundOperands "" record.entries .empty).1.map fun column => column.2.text) =
        (givenTerms "" record).map Prod.snd := by
      rw [givenTerms, List.map_map]
      rfl
    have hwords : ∀ value ∈ (givenTerms "" record).map Prod.snd,
        ∃ word, value = namePlaceholder word ∧ IsWordText word := by
      rw [List.forall_mem_map]
      intro given hgiven
      obtain ⟨e, he, hname⟩ := List.mem_map.mp
        (givenTerms_bound lead_empty_isWordText record given hgiven)
      exact hname ▸ insertion_isWordText table record e he
    have hatoms : ∀ value ∈ (givenTerms "" record).map Prod.snd, Reader.IsAtom value := by
      intro value hvalue
      obtain ⟨word, rfl, hword⟩ := hwords value hvalue
      exact .placeholder hword
    have hkeys : record.keys ≠ [] := by simpa [Keyed.keys] using hrecord
    have hterms : (givenTerms "" record).map Prod.snd ≠ [] := by
      simpa using givenTerms_ne_nil "" hrecord
    refine ⟨_, Request.insertion_compile .sqlite table hrecord, fun scope q => ?_⟩
    rw [hvalues, Reader.insertion_read scope htable hkeys hterms hatoms, Keyed.keys,
      List.forall_mem_map, List.forall_mem_map]
    refine and_congr_left' (and_congr_right' (forall₂_congr fun given hgiven => ?_))
    obtain ⟨word, hname, hword⟩ := hwords _ (List.mem_map_of_mem hgiven)
    rw [hname]
    exact known_placeholder hword scope.known
  names hfine e he := by
    obtain ⟨given, hmem, heq⟩ := insertion_given he
    exact Query.mem_parameterNames (heq ▸ hfine.2 given hmem) (heq ▸ List.mem_map_of_mem hmem)

theorem removal_reads (htable : Term.readName table = some name) (record : Record) :
    (removal table record).Reads
      (fun scope => ∀ e ∈ record.entries, Reader.Known scope.known (quoteIdentifier e.1))
      (.delete name (Reader.whereFilter (matchConditions record.entries .empty).1)) where
  compiles := by
    obtain ⟨comparisons, hcompares⟩ := Request.matches_compare (removal_isBindName table record)
      (matchConditions_match record.entries .empty)
    refine ⟨_, removal_compile .sqlite table record, fun scope q => ?_⟩
    have hread := Reader.removal_read scope htable hcompares.plain q
    rw [hcompares.text, hcompares.predicates, hcompares.known, List.forall_mem_map] at hread
    exact hread
  names _ e he := by
    obtain ⟨o, ho, hname⟩ := (removal_fits .sqlite table record).mem_operands he
    refine Query.mem_parameterNames (removal_isBindName table record e he) ?_
    rw [← hname]
    exact Query.mem_filterTerms ho

private theorem replacement_given (table : String) (current : Record) :
    ∀ given ∈ givenTerms "n_" current, IsBindName given.2 := by
  intro given hgiven
  obtain ⟨e, he, hname⟩ := List.mem_map.mp
    (givenTerms_bound lead_new_isWordText current given hgiven)
  refine hname ▸ replacement_isBindName table .empty current e ?_
  rw [replacement_binds]
  exact List.mem_append_left _ he

private theorem given_known {scope : Scope} {current : Record}
    (hgiven : ∀ given ∈ givenTerms "n_" current, IsBindName given.2) :
    (∀ given ∈ givenTerms "n_" current,
      (Term.readName (quoteIdentifier given.1)).isSome ∧ Reader.Known scope.known given.2) ↔
      ∀ e ∈ current.entries, (Term.readName (quoteIdentifier e.1)).isSome := by
  have hkeys : (∀ key ∈ (givenTerms "n_" current).map Prod.fst,
      (Term.readName (quoteIdentifier key)).isSome) ↔
        ∀ key ∈ current.keys, (Term.readName (quoteIdentifier key)).isSome := by
    rw [givenTerms_keys]
  rw [Keyed.keys, List.forall_mem_map, List.forall_mem_map] at hkeys
  rw [← hkeys]
  exact forall₂_congr fun given hmem => and_iff_left ((hgiven given hmem).known scope.known)

private theorem replacement_operands (table : String) (previous current : Record) :
    (replacement table previous current).statement.operands .sqlite =
      (boundOperands "n_" current.entries .empty).1.map Prod.snd ++
        (Predicate.all (matchConditions previous.entries .empty).1).operands := by
  rw [← replacement_sets table previous current, ← (matchConditions_assigned previous current).1]
  rfl

theorem replacement_reads (htable : Term.readName table = some name) (previous : Record)
    {current : Record} (hcurrent : current.entries ≠ []) :
    (replacement table previous current).Reads
      (fun scope => (∀ e ∈ current.entries, (Term.readName (quoteIdentifier e.1)).isSome) ∧
        ∀ e ∈ previous.entries, Reader.Known scope.known (quoteIdentifier e.1))
      (.update name (givenTerms "n_" current)
        (Reader.whereFilter (matchConditions previous.entries .empty).1)) where
  compiles := by
    obtain ⟨comparisons, hcompares⟩ := Request.matches_compare (removal_isBindName table previous)
      (matchConditions_match previous.entries .empty)
    have hgiven := replacement_given table current
    have hatoms : ∀ given ∈ givenTerms "n_" current, Reader.IsAtom given.2 := by
      intro given hmem
      obtain ⟨word, hname, hword, -⟩ := hgiven given hmem
      exact hname ▸ .placeholder hword
    refine ⟨_, replacement_compile .sqlite table hcurrent, fun scope q => ?_⟩
    have hread := Reader.replacement_read scope htable (givenTerms_ne_nil "n_" hcurrent)
      hatoms hcompares.plain q
    have hassigns : ((givenTerms "n_" current).map fun given =>
        quoteIdentifier given.1 ++ " = " ++ given.2) = assignTexts current := by
      rw [givenTerms, List.map_map, assignTexts]
      rfl
    rw [hassigns, hcompares.text, hcompares.predicates, hcompares.known, List.forall_mem_map,
      given_known hgiven] at hread
    exact hread
  names _ e he := by
    obtain ⟨o, ho, hname⟩ := (replacement_fits .sqlite table previous current).mem_operands he
    refine Query.mem_parameterNames (replacement_isBindName table previous current e he) ?_
    rw [← hname]
    rw [replacement_operands] at ho
    rcases List.mem_append.mp ho with ho | ho
    · exact List.mem_append_left _ (mem_givenTerms lead_new_isWordText ho)
    · exact List.mem_append_right _ (Query.mem_filterTerms ho)

end

/-! ## Selections -/

section
variable (table : String) (filters : List Filter) (order : List Ordered)

private theorem selection_template (d : Dialect) :
    (selection table filters order).statement.template d =
    .ok ([.text "SELECT ", .text "*", .text (" FROM " ++ table)] ++
      (selection table filters order).statement.filterTemplate ++
      (selection table filters order).statement.orderTemplate) := by
  have hselect : (selection table filters order).statement.template d =
      .ok (.text "SELECT " :: [.text "*"] ++ .text (" FROM " ++ table) :: [] ++
        (selection table filters order).statement.filterTemplate ++ [] ++ [] ++
        (selection table filters order).statement.orderTemplate ++ []) := rfl
  rw [hselect]
  simp

private theorem orderTemplate_text (s : Statement) :
    s.orderTemplate.inline = Reader.orderText s.order := by
  rw [Statement.orderTemplate, Reader.orderText]
  by_cases hempty : s.order = []
  · rw [if_pos (by simpa using hempty), if_pos hempty]
    rfl
  · have htext (o : Ordered) :
        Template.inline [.term o.field, .text (" " ++ o.direction.text)] = o.text := by
      rw [← String.toList_inj]
      simp [Template.inline, Template.write, Ordered.text, String.toList_append]
    rw [if_neg (by simpa using hempty), if_neg hempty, Template.inline_text,
      Template.inline_intercalate, List.map_map]
    simp only [Function.comp_def, htext]

theorem selection_compile (d : Dialect) :
    (selection table filters order).statement.compile d =
      .ok ⟨"SELECT * FROM " ++ table ++
        ((selection table filters order).statement.filterTemplate.inline ++
          Reader.orderText order), []⟩ := by
  have hlead : (Template.inline [.text "SELECT ", .text "*", .text (" FROM " ++ table)]) =
      "SELECT * FROM " ++ table := by
    rw [← String.toList_inj]
    simp [Template.inline, Template.write, String.toList_append]
  rw [(selection_fits d table filters order).compile (selection_template table filters order d),
    Template.inline_append, Template.inline_append, hlead, orderTemplate_text, String.append_assoc]
  rfl

theorem filterConditions_flat :
    ∀ p ∈ (filterConditions filters .empty).1, ∃ c, p = .condition c := by
  intro p hp
  obtain ⟨f, -, name, rfl, -⟩ := forall₂_mem_right (filterConditions_restrict filters .empty) p hp
  exact ⟨_, rfl⟩

private theorem selection_filterText :
    (selection table filters order).statement.filterTemplate.inline =
    whereText ((filterConditions filters .empty).1.map Predicate.text) := by
  rw [← clause_flat (filterConditions_flat filters)]
  cases filters <;> rfl

theorem selection_resumes : Reader.Resumes
    ((selection table filters order).statement.filterTemplate.inline ++
    Reader.orderText order) := by
  rw [selection_filterText, whereText, Reader.orderText]
  split
  · rw [String.empty_append]
    split
    · exact .inl rfl
    · refine .inr ⟨"ORDER", by decide, "BY " ++ String.intercalate ", "
        (order.map Ordered.text), ?_⟩
      rw [← String.append_assoc]
      rfl
  · refine .inr ⟨"WHERE", by decide, _, String.append_assoc ..⟩

variable {table filters order} {name : String}

theorem selection_reads (htable : Term.readName table = some name)
    (hfilters : ∀ f ∈ filters, isPlainIdentifier f.field.toList = true)
    (hrelations : ∀ f ∈ filters, f.relation ∈ Reader.comparisonWords)
    (horder : ∀ o ∈ order, isPlainIdentifier o.field.toList = true) :
    (selection table filters order).Reads
      (fun scope => (∀ f ∈ filters, Reader.Known scope.known f.field) ∧
        ∀ o ∈ order, Reader.Known scope.known o.field)
      (.select name none ⟨[⟨"*", none⟩],
        Reader.whereFilter (filterConditions filters .empty).1, order, none⟩) := by
  have hfields : ∀ f ∈ filters, f.field ≠ "" := by
    intro f hf hempty
    have hplain := hfilters f hf
    rw [hempty] at hplain
    exact absurd hplain (by decide)
  have hnames := filterConditions_isBindName hfields
  constructor
  · obtain ⟨comparisons, hcompares⟩ := Request.restricts_compare hnames
      (filterConditions_restrict filters .empty) (fun f hf => .plain (hfilters f hf)) hrelations
    refine ⟨_, selection_compile table filters order .sqlite, fun scope q => ?_⟩
    have hread := Reader.selection_read scope htable hcompares.plain
      (fun o ho => .plain (horder o ho)) q
    rw [hcompares.text, hcompares.predicates, hcompares.known, List.forall_mem_map] at hread
    rw [selection_filterText, ← String.append_assoc]
    exact hread
  · intro _ e he
    obtain ⟨o, ho, hname⟩ := (selection_fits .sqlite table filters order).mem_operands he
    refine Query.mem_parameterNames (hnames e he) ?_
    rw [← hname]
    have hoperands : (selection table filters order).statement.operands .sqlite =
        (Predicate.all (filterConditions filters .empty).1).operands := by
      cases filters with
      | nil => rfl
      | cons f filters => exact List.append_nil _
    rw [hoperands] at ho
    exact List.mem_append_left _ (List.mem_append_right _ (Query.mem_filterTerms ho))

end
end RecordGateway
