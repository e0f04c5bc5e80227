import RecordGateway.Proofs.CommandLine.Filter
import RecordGateway.Proofs.Lists
import RecordGateway.Proofs.Statement.Clauses
/-!
# The select command

A select command is read argument by argument: filters, then orderings, then the window.
-/
namespace RecordGateway

namespace SortOrder

theorem ofText_eq_ok {word : String} {direction : SortOrder} :
    ofText word = .ok direction ↔ Text.upper (Text.trim word) = direction.text := by
  unfold ofText
  split
  · next heq =>
    rw [heq]
    cases direction
    · exact iff_of_true rfl rfl
    · exact iff_of_false (fun h => by cases h) (by decide)
  · next heq =>
    rw [heq]
    cases direction
    · exact iff_of_false (fun h => by cases h) (by decide)
    · exact iff_of_true rfl rfl
  · next hasc hdesc =>
    refine iff_of_false (fun h => by cases h) fun h => ?_
    cases direction
    · exact hasc h
    · exact hdesc h

end SortOrder

namespace CommandLine

/-! ## Arguments in turn -/

section
variable {α : Type} {read : String → Except ArgumentError α} {args : List String}

private theorem readAll_eq_mapM : readAll read args = args.mapM read := by
  induction args with
  | nil => rfl
  | cons s rest ih =>
    rw [readAll, List.mapM_cons, ih]
    cases read s with
    | error e => rfl
    | ok x => cases rest.mapM read <;> rfl

private theorem readAll_eq_ok {xs : List α} :
    readAll read args = .ok xs ↔ List.Forall₂ (fun s x => read s = .ok x) args xs := by
  rw [readAll_eq_mapM, mapM_eq_ok]

theorem readAll_eq_error {e : ArgumentError} : readAll read args = .error e ↔
    ∃ before bad after, args = before ++ bad :: after ∧ (∀ s ∈ before, ∃ x, read s = .ok x) ∧
      read bad = .error e := by
  constructor
  · intro h
    induction args with
    | nil => cases h
    | cons s rest ih =>
      rw [readAll] at h
      cases hs : read s with
      | error inner =>
        rw [hs] at h
        cases h
        exact ⟨[], s, rest, rfl, List.forall_mem_nil _, hs⟩
      | ok x =>
        cases hrest : readAll read rest with
        | ok xs =>
          rw [hs, hrest] at h
          cases h
        | error inner =>
          rw [hs, hrest] at h
          cases h
          obtain ⟨before, bad, after, rfl, hgood, hbad⟩ := ih hrest
          exact ⟨s :: before, bad, after, rfl, List.forall_mem_cons.mpr ⟨⟨x, hs⟩, hgood⟩, hbad⟩
  · rintro ⟨before, bad, after, rfl, hgood, hbad⟩
    induction before with
    | nil => rw [List.nil_append, readAll, hbad]
    | cons s before ih =>
      obtain ⟨⟨x, hs⟩, hgood⟩ := List.forall_mem_cons.mp hgood
      rw [List.cons_append, readAll, hs, ih hgood]
      rfl

private theorem readAll_ok_iff :
    (∃ xs, readAll read args = .ok xs) ↔ ∀ s ∈ args, ∃ x, read s = .ok x := by
  constructor
  · rintro ⟨xs, hread⟩ s hs
    obtain ⟨x, -, hx⟩ := forall₂_mem_right (readAll_eq_ok.mp hread).flip s hs
    exact ⟨x, hx⟩
  · intro hgood
    cases hread : readAll read args with
    | ok xs => exact ⟨xs, rfl⟩
    | error e =>
      obtain ⟨before, bad, after, rfl, -, hbad⟩ := readAll_eq_error.mp hread
      obtain ⟨x, hx⟩ := hgood bad (List.mem_append_right _ (List.mem_cons_self ..))
      cases hbad.symm.trans hx

end

/-! ## The arguments of a select -/

def IsFilter (s : String) : Prop := ∃ field relation value, TypedFilter s field relation value

private theorem isFilter_iff {s : String} : IsFilter s ↔ ∃ c, readFilter s = .ok c := by
  constructor
  · rintro ⟨field, relation, value, htyped⟩
    exact ⟨_, htyped.read⟩
  · rintro ⟨c, hread⟩
    obtain ⟨field, relation, value, htyped, -⟩ := readFilter_eq_ok.mp hread
    exact ⟨field, relation, value, htyped⟩

private theorem readFilter_eq_error {s : String} {e : ArgumentError} :
    readFilter s = .error e ↔ ¬IsFilter s ∧ e = .invalidFilter s := by
  rcases readFilter_cases s with ⟨field, relation, value, htyped⟩ | hbad
  · rw [htyped.read]
    exact iff_of_false (fun h => by cases h) fun h => h.1 ⟨field, relation, value, htyped⟩
  · have hnone : ¬IsFilter s := by
      rintro ⟨field, relation, value, htyped⟩
      rw [htyped.read] at hbad
      cases hbad
    rw [hbad, and_iff_right hnone, Except.error.injEq, eq_comm]

/-- An ordering as it is typed, and what it orders by. -/
inductive TypedOrder : String → Ordered → Prop where
  | bare {field : String} (plain : ':' ∉ field.toList) : TypedOrder field ⟨field, .ascending⟩
  | directed {field word : String} {direction : SortOrder} (plain : ':' ∉ field.toList)
      (names : Text.upper (Text.trim word) = direction.text) :
      TypedOrder (field ++ ":" ++ word) ⟨field, direction⟩

/-- An ordering with a word behind its first colon that names no direction. -/
inductive Undirected : String → String → Prop where
  | mk {field word : String} (plain : ':' ∉ field.toList)
      (unknown : ∀ direction : SortOrder, Text.upper (Text.trim word) ≠ direction.text) :
      Undirected (field ++ ":" ++ word) word

private theorem TypedOrder.read {s : String} {o : Ordered} (h : TypedOrder s o) :
    readOrder s = .ok o := by
  cases h with
  | bare hplain => rw [readOrder, Text.cut_eq_none.mpr hplain]
  | @directed field word direction hplain hnames =>
    have hcut : Text.cut ':' (field ++ ":" ++ word) = some (field, word) :=
      Text.cut_eq_some.mpr ⟨rfl, hplain⟩
    simp only [readOrder, hcut, SortOrder.ofText_eq_ok.mpr hnames]

private theorem Undirected.read {s word : String} (h : Undirected s word) :
    readOrder s = .error (.invalidOrder word) := by
  cases h with
  | @mk field word hplain hunknown =>
    have hcut : Text.cut ':' (field ++ ":" ++ word) = some (field, word) :=
      Text.cut_eq_some.mpr ⟨rfl, hplain⟩
    cases hword : SortOrder.ofText word with
    | ok direction => exact absurd (SortOrder.ofText_eq_ok.mp hword) (hunknown direction)
    | error e => simp only [readOrder, hcut, hword]

private theorem typedOrder_or_undirected (s : String) :
    (∃ o, TypedOrder s o) ∨ ∃ word, Undirected s word := by
  cases hcut : Text.cut ':' s with
  | none => exact .inl ⟨_, .bare (Text.cut_eq_none.mp hcut)⟩
  | some parts =>
    obtain ⟨rfl, hplain⟩ := Text.cut_eq_some.mp hcut
    by_cases hnames : ∃ direction : SortOrder, Text.upper (Text.trim parts.2) = direction.text
    · obtain ⟨direction, hnames⟩ := hnames
      exact .inl ⟨_, .directed hplain hnames⟩
    · exact .inr ⟨parts.2, .mk hplain fun direction h => hnames ⟨direction, h⟩⟩

private theorem readOrder_eq_ok {s : String} {o : Ordered} :
    readOrder s = .ok o ↔ TypedOrder s o := by
  refine ⟨fun h => ?_, TypedOrder.read⟩
  rcases typedOrder_or_undirected s with ⟨o', htyped⟩ | ⟨word, hunknown⟩
  · obtain rfl := Except.ok.inj (htyped.read.symm.trans h)
    exact htyped
  · cases hunknown.read.symm.trans h

private theorem readOrder_eq_error {s : String} {e : ArgumentError} :
    readOrder s = .error e ↔ ∃ word, Undirected s word ∧ e = .invalidOrder word := by
  constructor
  · intro h
    rcases typedOrder_or_undirected s with ⟨o, htyped⟩ | ⟨word, hunknown⟩
    · cases htyped.read.symm.trans h
    · exact ⟨word, hunknown, (Except.error.inj (hunknown.read.symm.trans h)).symm⟩
  · rintro ⟨word, hunknown, rfl⟩
    exact hunknown.read

/-- A window as it is typed: two integers around the first comma, with white space around each. -/
inductive TypedWindow : String → Int64 → Int64 → Prop where
  | mk {before after : String} {offset length : Int64} (plain : ',' ∉ before.toList)
      (offset_reads : Numeral (Text.trim before).toList offset.toInt)
      (length_reads : Numeral (Text.trim after).toList length.toInt) :
      TypedWindow (before ++ "," ++ after) offset length

private theorem readWindow_eq_ok {s : String} {offset length : Int64} :
    readWindow s = .ok (offset, length) ↔ TypedWindow s offset length := by
  constructor
  · intro h
    unfold readWindow at h
    split at h
    · cases h
    · next before after hcut =>
      obtain ⟨rfl, hplain⟩ := Text.cut_eq_some.mp hcut
      split at h
      · next hoffset hlength =>
        cases h
        exact .mk hplain (readInt64_eq_some.mp hoffset) (readInt64_eq_some.mp hlength)
      · cases h
  · intro h
    cases h with
    | @mk before after _ _ hplain hoffset hlength =>
      have hcut : Text.cut ',' (before ++ "," ++ after) = some (before, after) :=
        Text.cut_eq_some.mpr ⟨rfl, hplain⟩
      simp only [readWindow, hcut, readInt64_eq_some.mpr hoffset, readInt64_eq_some.mpr hlength]

private theorem readWindow_cases (s : String) :
    (∃ bounds, readWindow s = .ok bounds) ∨ readWindow s = .error (.invalidWindow s) := by
  unfold readWindow
  split
  · exact .inr rfl
  · split
    · exact .inl ⟨_, rfl⟩
    · exact .inr rfl

private theorem readWindow_eq_error {s : String} {e : ArgumentError} : readWindow s = .error e ↔
    (∀ offset length, ¬TypedWindow s offset length) ∧ e = .invalidWindow s := by
  simp only [← readWindow_eq_ok]
  rcases readWindow_cases s with ⟨bounds, hread⟩ | hread
  · rw [hread]
    exact iff_of_false (fun h => by cases h) fun h => h.1 bounds.1 bounds.2 rfl
  · rw [hread, Except.error.injEq, eq_comm]
    exact ⟨fun h => ⟨fun offset length hok => (by cases hok), h⟩, And.right⟩

/-! ## The statement -/

/-- The select from a table with conditions and orderings, and with a window if one is given. -/
def selecting (table : String) (conditions : List Condition) (orderings : List Ordered)
    (limit : Option Limit) : Statement :=
  { Statement.empty with
    kind := some .select
    table := some table
    filter := if conditions.isEmpty then none else some (.all (conditions.map .condition))
    order := orderings
    limit := limit }

private theorem foldl_orderBy (orderings : List Ordered) (s : Statement) :
    orderings.foldl (fun s o => s.orderBy o.field o.direction) s =
      { s with order := s.order ++ orderings } := by
  induction orderings generalizing s with
  | nil => rw [List.foldl_nil, List.append_nil]
  | cons o rest ih =>
    rw [List.foldl_cons, ih, Statement.orderBy, List.append_assoc]
    rfl

section
variable {table : String} {filters order : List String} {limit : Option String}
  {conditions : List Condition} {orderings : List Ordered} {e : ArgumentError}

private theorem selectStatement_bad_filter (h : readAll readFilter filters = .error e) :
    selectStatement table filters order limit = .error e := by
  rw [selectStatement, h]
  rfl

private theorem selectStatement_bad_order (hfilters : readAll readFilter filters = .ok conditions)
    (h : readAll readOrder order = .error e) :
    selectStatement table filters order limit = .error e := by
  rw [selectStatement, hfilters, h]
  rfl

def windowLimit (offset length : Int64) : Limit :=
  ⟨UInt64.ofNat offset.toInt.toNat, UInt64.ofNat length.toInt.toNat⟩

theorem selectStatement_read (hfilters : readAll readFilter filters = .ok conditions)
    (horder : readAll readOrder order = .ok orderings) :
    selectStatement table filters order none = .ok (selecting table conditions orderings none) ∧
    ∀ window, selectStatement table filters order (some window) =
      (readWindow window).bind fun bounds =>
        lift ((Statement.limitTo bounds.1.toInt bounds.2.toInt).made
          (selecting table conditions orderings none)) := by
  have hempty : filters.isEmpty = conditions.isEmpty := by
    cases readAll_eq_ok.mp hfilters with
    | nil => rfl
    | cons => rfl
  have hsource : lift ((Statement.source table).made .empty) =
      .ok (selecting table [] [] none) := rfl
  have hselecting : orderings.foldl (fun s o => s.orderBy o.field o.direction)
      (if conditions.isEmpty then selecting table [] [] none
        else (selecting table [] [] none).restrict (.all (conditions.map .condition))) =
      selecting table conditions orderings none := by
    rw [foldl_orderBy]
    cases conditions <;> rfl
  constructor
  · rw [selectStatement, hsource, hfilters, horder, hempty, ← hselecting]
    rfl
  · intro window
    rw [selectStatement, hsource, hfilters, horder, hempty, ← hselecting]
    rfl

private theorem limitTo_made {offset length : Int64} (hoffset : 0 ≤ offset.toInt)
    (hlength : 0 ≤ length.toInt) :
    (Statement.limitTo offset.toInt length.toInt).made (selecting table conditions orderings none) =
      .ok (selecting table conditions orderings (some (windowLimit offset length))) := by
  have := Int64.toInt_lt offset
  have := Int64.toInt_lt length
  have hrange : (0 ≤ offset.toInt ∧ offset.toInt ≤ Statement.maxBound) ∧
      0 ≤ length.toInt ∧ length.toInt ≤ Statement.maxBound := by
    simp only [Statement.maxBound]
    omega
  rw [Statement.limitTo, if_pos hrange]
  rfl

private theorem limitTo_refused {offset length : Int} (h : offset < 0 ∨ length < 0)
    (s : Statement) :
    (Statement.limitTo offset length).made s = .error (.invalidLimit offset length) := by
  have hrange : ¬((0 ≤ offset ∧ offset ≤ Statement.maxBound) ∧
      0 ≤ length ∧ length ≤ Statement.maxBound) := by
    omega
  rw [Statement.limitTo, if_neg hrange]
  rfl

end

/-! ## The text -/

def listed (keyword separator : String) (parts : List String) : String :=
  if parts.isEmpty then "" else " " ++ keyword ++ " " ++ String.intercalate separator parts

private theorem partTemplates_conditions (conditions : List Condition) :
    Predicate.partTemplates (conditions.map .condition) = conditions.map Condition.template := by
  induction conditions with
  | nil => rfl
  | cons c rest ih =>
    rw [List.map_cons, Predicate.partTemplates, ih]
    rfl

private theorem where_text (conditions : List Condition) :
    Clause.written (Clause.ofRoot "WHERE"
      (if conditions.isEmpty then none else some (.all (conditions.map .condition)))) =
      listed "WHERE" " AND " (conditions.map fun c => (Predicate.condition c).text) := by
  cases conditions with
  | nil => rfl
  | cons c rest =>
    have hbody : (Predicate.all ((c :: rest).map .condition)).conditions ≠ [] :=
      List.cons_ne_nil c _
    have htext : (Predicate.all ((c :: rest).map .condition)).text =
        String.intercalate " AND " ((c :: rest).map fun c => (Predicate.condition c).text) := by
      rw [Predicate.text, Predicate.all, Predicate.template, partTemplates_conditions,
        Template.inline_intercalate, List.map_map]
      rfl
    show Clause.written (Clause.ofRoot "WHERE" (some (.all ((c :: rest).map .condition)))) = _
    rw [Clause.ofRoot, if_neg hbody, Clause.written, Option.elim_some, Clause.text, htext]
    rfl

section
variable (table : String) (conditions : List Condition) (orderings : List Ordered)

private theorem order_text (limit : Option Limit) :
    (selecting table conditions orderings limit).orderTemplate.inline =
      listed "ORDER BY" ", " (orderings.map Ordered.text) := by
  cases orderings with
  | nil => rfl
  | cons o rest =>
    have hpart : (Template.inline ∘ fun o : Ordered =>
        [.term o.field, .text (" " ++ o.direction.text)]) = Ordered.text := by
      funext o
      show o.field ++ (" " ++ o.direction.text ++ "") = o.field ++ " " ++ o.direction.text
      rw [String.append_empty, String.append_assoc]
    show Template.inline (.text " ORDER BY " :: List.intercalate [.text ", "]
      ((o :: rest).map fun o => [.term o.field, .text (" " ++ o.direction.text)])) = _
    rw [Template.inline_text, Template.inline_intercalate, List.map_map, hpart]
    rfl

private theorem selecting_evaluate (limit : Option Limit) (d : Dialect) :
    (selecting table conditions orderings limit).evaluate d =
      .ok ("SELECT * FROM " ++ table ++
        listed "WHERE" " AND " (conditions.map fun c => (Predicate.condition c).text) ++
        listed "ORDER BY" ", " (orderings.map Ordered.text) ++
        (selecting table conditions orderings limit).limitTemplate.inline) := by
  let s := selecting table conditions orderings limit
  have hfills : s.Fills d _ _ _ := Statement.select_fills rfl rfl
  have hevaluate : s.evaluate d = _ := hfills s.joins s.filter s.having
  rw [hevaluate, ← order_text table conditions orderings limit, ← where_text]
  simp only [String.append_assoc]
  rfl

end

private theorem repr_toNat {n : Int} (h : 0 ≤ n) : n.toNat.repr = n.repr := by
  rw [Int.repr_eq_if, if_pos h]

theorem limit_text {offset length : Int64} (hoffset : 0 ≤ offset.toInt) (hlength : 0 ≤ length.toInt)
    (table : String) (conditions : List Condition) (orderings : List Ordered) :
    (selecting table conditions orderings
      (some (windowLimit offset length))).limitTemplate.inline =
      " LIMIT " ++ offset.toInt.repr ++ "," ++ length.toInt.repr := by
  have hsize (i : Int64) : (UInt64.ofNat i.toInt.toNat).toNat = i.toInt.toNat := by
    have := Int64.toInt_lt i
    rw [UInt64.toNat_ofNat_of_lt']
    simp only [UInt64.size]
    omega
  show " LIMIT " ++ (UInt64.ofNat offset.toInt.toNat).toNat.repr ++ "," ++
    (UInt64.ofNat length.toInt.toNat).toNat.repr ++ "" = _
  rw [hsize, hsize, repr_toNat hoffset, repr_toNat hlength, String.append_empty]

/-! ## The command -/

/-- Every filter and every ordering is well formed, and so is a window, which is not negative. -/
structure WellFormed (filters order : List String) (limit : Option String) : Prop where
  filters : ∀ s ∈ filters, IsFilter s
  order : ∀ s ∈ order, ∃ o, TypedOrder s o
  limit : ∀ s ∈ limit, ∃ offset length, TypedWindow s offset length ∧
    0 ≤ offset.toInt ∧ 0 ≤ length.toInt

/-- The error of the first argument at fault: filters come before orderings, and both before the
window. -/
inductive FirstFault (filters order : List String) (limit : Option String) :
    ArgumentError → Prop where
  | filter {before : List String} {bad : String} {after : List String}
      (split : filters = before ++ bad :: after) (good : ∀ s ∈ before, IsFilter s)
      (fault : ¬IsFilter bad) : FirstFault filters order limit (.invalidFilter bad)
  | order {before : List String} {bad word : String} {after : List String}
      (filters_good : ∀ s ∈ filters, IsFilter s) (split : order = before ++ bad :: after)
      (good : ∀ s ∈ before, ∃ o, TypedOrder s o) (fault : Undirected bad word) :
      FirstFault filters order limit (.invalidOrder word)
  | window {bad : String} (filters_good : ∀ s ∈ filters, IsFilter s)
      (order_good : ∀ s ∈ order, ∃ o, TypedOrder s o) (given : limit = some bad)
      (fault : ∀ offset length, ¬TypedWindow bad offset length) :
      FirstFault filters order limit (.invalidWindow bad)
  | negative {window : String} {offset length : Int64} (filters_good : ∀ s ∈ filters, IsFilter s)
      (order_good : ∀ s ∈ order, ∃ o, TypedOrder s o) (given : limit = some window)
      (typed : TypedWindow window offset length) (fault : offset.toInt < 0 ∨ length.toInt < 0) :
      FirstFault filters order limit (.refused (.invalidLimit offset.toInt length.toInt))

/-- The condition that a filter stands for. -/
inductive FilterText : String → String → Prop where
  | mk {s field relation value : String} {v : Value} (typed : TypedFilter s field relation value)
      (passed : PassedAs value v) :
      FilterText s (field ++ " " ++ relation ++ " " ++ Value.inQuotes v.display)

/-- The entry that an ordering stands for. -/
inductive OrderText : String → String → Prop where
  | mk {s : String} {o : Ordered} (typed : TypedOrder s o) :
      OrderText s (o.field ++ " " ++ o.direction.text)

/-- The clause that a window stands for. -/
inductive WindowText : Option String → String → Prop where
  | absent : WindowText none ""
  | given {s : String} {offset length : Int64} (typed : TypedWindow s offset length) :
      WindowText (some s) (" LIMIT " ++ offset.toInt.repr ++ "," ++ length.toInt.repr)

/-- A statement is the select that well-formed arguments stand for. -/
def Selects (table : String) (filters order : List String) (limit : Option String)
    (statement : Statement) : Prop :=
  ∃ conditions entries window, List.Forall₂ FilterText filters conditions ∧
    List.Forall₂ OrderText order entries ∧ WindowText limit window ∧
    ∀ d : Dialect, statement.evaluate d = .ok ("SELECT * FROM " ++ table ++
      listed "WHERE" " AND " conditions ++ listed "ORDER BY" ", " entries ++ window)

section
variable {filters order : List String} {limit : Option String}

private theorem filters_read : (∀ s ∈ filters, IsFilter s) ↔
    ∃ conditions, readAll readFilter filters = .ok conditions := by
  simp only [readAll_ok_iff, isFilter_iff]

private theorem order_read : (∀ s ∈ order, ∃ o, TypedOrder s o) ↔
    ∃ orderings, readAll readOrder order = .ok orderings := by
  simp only [readAll_ok_iff, readOrder_eq_ok]

private theorem filterTexts {conditions : List Condition}
    (h : readAll readFilter filters = .ok conditions) :
    List.Forall₂ FilterText filters (conditions.map fun c => (Predicate.condition c).text) := by
  rw [List.forall₂_map_right_iff]
  refine (readAll_eq_ok.mp h).imp fun s c hread => ?_
  obtain ⟨field, relation, value, htyped, rfl⟩ := readFilter_eq_ok.mp hread
  have hpassed := filterValue_passed value
  rw [quoted_text, hpassed.quotedLiteral]
  exact .mk htyped hpassed

private theorem orderTexts {orderings : List Ordered}
    (h : readAll readOrder order = .ok orderings) :
    List.Forall₂ OrderText order (orderings.map Ordered.text) := by
  rw [List.forall₂_map_right_iff]
  exact (readAll_eq_ok.mp h).imp fun s o hread => .mk (readOrder_eq_ok.mp hread)

private theorem WellFormed.selects (table : String) (h : WellFormed filters order limit) :
    ∃ statement, selectStatement table filters order limit = .ok statement ∧
      Selects table filters order limit statement := by
  obtain ⟨conditions, hfilters⟩ := filters_read.mp h.filters
  obtain ⟨orderings, horder⟩ := order_read.mp h.order
  obtain ⟨hplain, hwindow⟩ := @selectStatement_read table _ _ _ _ hfilters horder
  cases limit with
  | none =>
    refine ⟨_, hplain, _, _, _, filterTexts hfilters, orderTexts horder, .absent, fun d => ?_⟩
    exact selecting_evaluate table conditions orderings none d
  | some window =>
    obtain ⟨offset, length, htyped, hoffset, hlength⟩ := h.limit window rfl
    have hmade := hwindow window
    rw [readWindow_eq_ok.mpr htyped, Except.bind, limitTo_made hoffset hlength] at hmade
    refine ⟨_, hmade, _, _, _, filterTexts hfilters, orderTexts horder, .given htyped, fun d => ?_⟩
    rw [selecting_evaluate, limit_text hoffset hlength]

private theorem FirstFault.refuses (table : String) {e : ArgumentError}
    (h : FirstFault filters order limit e) :
    selectStatement table filters order limit = .error e := by
  cases h with
  | @filter before bad after hsplit hbefore hfault =>
    apply selectStatement_bad_filter
    exact readAll_eq_error.mpr ⟨before, bad, after, hsplit,
      fun s hs => isFilter_iff.mp (hbefore s hs), readFilter_eq_error.mpr ⟨hfault, rfl⟩⟩
  | @order before bad word after hfilters hsplit hbefore hfault =>
    obtain ⟨conditions, hconditions⟩ := filters_read.mp hfilters
    apply selectStatement_bad_order hconditions
    exact readAll_eq_error.mpr ⟨before, bad, after, hsplit,
      fun s hs => (hbefore s hs).imp fun o htyped => htyped.read, hfault.read⟩
  | @window bad hfilters horder hgiven hfault =>
    obtain ⟨conditions, hconditions⟩ := filters_read.mp hfilters
    obtain ⟨orderings, horderings⟩ := order_read.mp horder
    rw [hgiven, (selectStatement_read hconditions horderings).2,
      readWindow_eq_error.mpr ⟨hfault, rfl⟩]
    rfl
  | @negative window offset length hfilters horder hgiven htyped hfault =>
    obtain ⟨conditions, hconditions⟩ := filters_read.mp hfilters
    obtain ⟨orderings, horderings⟩ := order_read.mp horder
    rw [hgiven, (selectStatement_read hconditions horderings).2, readWindow_eq_ok.mpr htyped,
      Except.bind, limitTo_refused hfault]
    rfl

private theorem wellFormed_or_fault (filters order : List String) (limit : Option String) :
    WellFormed filters order limit ∨ ∃ e, FirstFault filters order limit e := by
  cases hfilters : readAll readFilter filters with
  | error e =>
    obtain ⟨before, bad, after, hsplit, hbefore, hbad⟩ := readAll_eq_error.mp hfilters
    obtain ⟨hfault, rfl⟩ := readFilter_eq_error.mp hbad
    exact .inr ⟨_, .filter hsplit (fun s hs => isFilter_iff.mpr (hbefore s hs)) hfault⟩
  | ok conditions =>
    have hgood := filters_read.mpr ⟨conditions, hfilters⟩
    cases horder : readAll readOrder order with
    | error e =>
      obtain ⟨before, bad, after, hsplit, hbefore, hbad⟩ := readAll_eq_error.mp horder
      obtain ⟨word, hfault, rfl⟩ := readOrder_eq_error.mp hbad
      refine .inr ⟨_, .order hgood hsplit (fun s hs => ?_) hfault⟩
      exact (hbefore s hs).imp fun o hread => readOrder_eq_ok.mp hread
    | ok orderings =>
      have hgood' := order_read.mpr ⟨orderings, horder⟩
      cases limit with
      | none => exact .inl ⟨hgood, hgood', fun s hs => by cases hs⟩
      | some window =>
        rcases readWindow_cases window with ⟨⟨offset, length⟩, hread⟩ | hbad
        · have htyped := readWindow_eq_ok.mp hread
          by_cases hnegative : offset.toInt < 0 ∨ length.toInt < 0
          · exact .inr ⟨_, .negative hgood hgood' rfl htyped hnegative⟩
          · refine .inl ⟨hgood, hgood', fun s hs => ?_⟩
            cases hs
            exact ⟨offset, length, htyped, by omega, by omega⟩
        · exact .inr ⟨_, .window hgood hgood' rfl (readWindow_eq_error.mp hbad).1⟩

end

/-- A select command stands for a statement exactly if its arguments are well formed, the statement
is the select that they write down, and otherwise the error is that of the first argument at
fault. -/
theorem select_command_statement (table : String) (filters order : List String)
    (limit : Option String) (printOnly : Bool) :
    ((∃ statement, (Command.select table filters order limit printOnly).statement = .ok statement) ↔
      WellFormed filters order limit) ∧
    (∀ statement,
      (Command.select table filters order limit printOnly).statement = .ok statement →
        Selects table filters order limit statement) ∧
    ∀ e, (Command.select table filters order limit printOnly).statement = .error e ↔
      FirstFault filters order limit e := by
  simp only [Command.statement]
  rcases wellFormed_or_fault filters order limit with hgood | ⟨e, hfault⟩
  · obtain ⟨statement, hstatement, hselects⟩ := hgood.selects table
    refine ⟨iff_of_true ⟨statement, hstatement⟩ hgood, ?text, ?error⟩
    case text =>
      intro statement' h
      obtain rfl := Except.ok.inj (hstatement.symm.trans h)
      exact hselects
    case error =>
      refine fun e => iff_of_false (fun h => ?_) fun h => ?_
      · cases hstatement.symm.trans h
      · cases hstatement.symm.trans (h.refuses table)
  · have herror := hfault.refuses table
    have hnone : ¬∃ statement, selectStatement table filters order limit = .ok statement := by
      rintro ⟨statement, h⟩
      cases herror.symm.trans h
    refine ⟨iff_of_false hnone ?ill, fun statement h => absurd ⟨statement, h⟩ hnone, ?error⟩
    case ill =>
      intro hgood
      obtain ⟨statement, hstatement, -⟩ := hgood.selects table
      exact hnone ⟨statement, hstatement⟩
    case error =>
      refine fun e' => ⟨fun h => ?_, fun h => h.refuses table⟩
      obtain rfl := Except.error.inj (herror.symm.trans h)
      exact hfault

theorem select_command_users :
    (∃ statement, (Command.select "users" ["age:>:30", "name:LIKE:A%"] ["name", "age: dEsc"]
        (some " 0 ,+10") true).statement = .ok statement ∧
      Selects "users" ["age:>:30", "name:LIKE:A%"] ["name", "age: dEsc"] (some " 0 ,+10")
        statement) ∧
    (Command.select "users" ["age:>:30"] ["name:sideways", "age:up"] (some "-1") false).statement =
      .error (.invalidOrder "sideways") := by
  have hage : TypedFilter "age:>:30" "age" ">" "30" :=
    ⟨by decide, by decide, by decide, by decide, by decide⟩
  have hname : TypedFilter "name:LIKE:A%" "name" "LIKE" "A%" :=
    ⟨by decide, by decide, by decide, by decide, by decide⟩
  have hasc : TypedOrder "name" ⟨"name", .ascending⟩ := .bare (by decide)
  have hdesc : TypedOrder "age: dEsc" ⟨"age", .descending⟩ :=
    @TypedOrder.directed "age" " dEsc" .descending (by decide) (by decide)
  have hzero : Numeral (Text.trim " 0 ").toList (0 : Int64).toInt :=
    @Numeral.unsigned ['0'] (by decide) (by decide)
  have hten : Numeral (Text.trim "+10").toList (10 : Int64).toInt :=
    @Numeral.plus ['1', '0'] (by decide) (by decide)
  have hwindow : TypedWindow " 0 ,+10" 0 10 :=
    @TypedWindow.mk " 0 " "+10" 0 10 (by decide) hzero hten
  have hgood : WellFormed ["age:>:30", "name:LIKE:A%"] ["name", "age: dEsc"] (some " 0 ,+10") := by
    refine ⟨?_, ?_, ?_⟩
    · simp only [List.forall_mem_cons]
      exact ⟨⟨_, _, _, hage⟩, ⟨_, _, _, hname⟩, List.forall_mem_nil _⟩
    · simp only [List.forall_mem_cons]
      exact ⟨⟨_, hasc⟩, ⟨_, hdesc⟩, List.forall_mem_nil _⟩
    · intro s hs
      cases hs
      exact ⟨0, 10, hwindow, by decide, by decide⟩
  have hfault : FirstFault ["age:>:30"] ["name:sideways", "age:up"] (some "-1")
      (.invalidOrder "sideways") := by
    have hunknown : Undirected "name:sideways" "sideways" :=
      @Undirected.mk "name" "sideways" (by decide) fun direction => by cases direction <;> decide
    exact @FirstFault.order _ _ _ [] _ _ _ (List.forall_mem_singleton.mpr ⟨_, _, _, hage⟩) rfl
      (List.forall_mem_nil _) hunknown
  obtain ⟨hread, hselects, -⟩ := select_command_statement "users" ["age:>:30", "name:LIKE:A%"]
    ["name", "age: dEsc"] (some " 0 ,+10") true
  obtain ⟨statement, hstatement⟩ := hread.mpr hgood
  exact ⟨⟨statement, hstatement, hselects statement hstatement⟩,
    ((select_command_statement "users" ["age:>:30"] ["name:sideways", "age:up"] (some "-1")
      false).2.2 _).mpr hfault⟩

example : ((Command.select "users" ["age:>:30", "name:LIKE:A%"] ["name:desc"] (some "0,10")
    true).statement.toOption.bind fun s => (s.evaluate .mysql).toOption) =
    some ("SELECT * FROM users WHERE age > '30' AND name LIKE 'A%' " ++
      "ORDER BY name DESC LIMIT 0,10") := by
  decide +kernel

end CommandLine
end RecordGateway
