import RecordGateway.Proofs.Request.Spelling
import RecordGateway.Proofs.Store.Reading
/-! # Texts of requests that are read back -/
namespace RecordGateway

namespace Reader.IsAtom

theorem plain {name : String} (h : isPlainIdentifier name.toList = true) : IsAtom name where
  word := Word.isWord_plain h
  starts := by
    cases hname : name.toList with
    | nil => simp [hname, isPlainIdentifier] at h
    | cons c rest =>
      have hc : isWordStart c = true := (Bool.and_eq_true_iff.mp (hname ▸ h)).1
      exact ⟨c, rest, rfl, Term.wordStart_startsWord hc⟩
  ends c hc := Term.wordChar_not_blank (plainIdentifier_wordChars h c (List.mem_of_getLast? hc))

theorem quoteIdentifier (name : String) : IsAtom (quoteIdentifier name) := by
  by_cases h : (isPlainIdentifier name.toList && !isReserved name) = true
  · rw [RecordGateway.quoteIdentifier, if_pos h]
    exact plain (Bool.and_eq_true_iff.mp h).1
  · refine ⟨Word.isWord_quoteIdentifier name, ⟨'\x60', Text.doubled '\x60' name.toList ++
      ['\x60'], ?_,
      ⟨by decide, by decide, by decide, by decide, by decide, by decide, by decide⟩⟩, ?_⟩
    · rw [RecordGateway.quoteIdentifier, if_neg h, String.toList_ofList]
    · rw [RecordGateway.quoteIdentifier, if_neg h, String.toList_ofList, ← List.cons_append,
        List.getLast?_concat]
      rintro c ⟨⟩
      decide

theorem placeholder {word : String} (h : IsWordText word) : IsAtom (namePlaceholder word) := by
  have hlist : (namePlaceholder word).toList = ':' :: word.toList := by
    simp [namePlaceholder, String.toList_append]
  refine ⟨hlist ▸ Word.isWord_placeholder h, ⟨':', word.toList, hlist,
    ⟨by decide, by decide, by decide, by decide, by decide, by decide, by decide⟩⟩, fun c hc => ?_⟩
  have hmem := List.mem_of_getLast? hc
  rw [hlist] at hmem
  rcases List.mem_cons.mp hmem with rfl | hmem
  · decide
  · exact Term.wordChar_not_blank (h c hmem)

theorem of_readName {text name : String} (h : Term.readName text = some name) :
    IsAtom (Text.trimAscii text) where
  word := Word.isWord_of_readName h
  starts := by
    have hquote : ∀ c ∈ ['\x60', '"', '\'', '['], StartsWord c := by
      simp only [List.forall_mem_cons, List.not_mem_nil, false_implies, implies_true, and_true]
      refine ⟨?_, ?_, ?_, ?_⟩ <;>
        exact ⟨by decide, by decide, by decide, by decide, by decide, by decide, by decide⟩
    unfold Term.readName at h
    split at h
    case h_5 =>
      have hname := Word.isName_of_readPlainName h
      cases hs : (Text.trimAscii text).toList with
      | nil =>
        rw [hs] at hname
        cases hname
      | cons c rest =>
        rw [hs] at hname
        exact ⟨c, rest, rfl, Term.nameStart_startsWord (Bool.and_eq_true_iff.mp hname).1⟩
    all_goals next heq => exact ⟨_, _, heq, hquote _ (by decide)⟩
  ends _ := Text.trimAscii_getLast?

end Reader.IsAtom

private theorem Term.readName_quoteIdentifier (name y : String) :
    readName (quoteIdentifier name) = some y ↔ (readName (quoteIdentifier name)).isSome ∧
      y = name := by
  have hname : readName (quoteIdentifier name) = none ∨
      readName (quoteIdentifier name) = some name := by
    by_cases h : (isPlainIdentifier name.toList && !isReserved name) = true
    · rw [quoteIdentifier, if_pos h]
      exact readName_plain (Bool.and_eq_true_iff.mp h).1
    · rw [quoteIdentifier, if_neg h]
      exact .inr (readName_backticked name)
  rcases hname with h | h <;> rw [h]
  · simp
  · rw [Option.some_inj]
    exact ⟨fun h => ⟨rfl, h.symm⟩, fun h => h.2.symm⟩

private theorem Term.readName_plain_iff {name : String} (h : isPlainIdentifier name.toList = true)
    (y : String) :
    readName name = some y ↔ (readName name).isSome ∧ y = name := by
  rcases readName_plain h with h | h <;> rw [h]
  · simp
  · rw [Option.some_inj]
    exact ⟨fun h => ⟨rfl, h.symm⟩, fun h => h.2.symm⟩

/-! ## Clauses -/

namespace Reader

open Word

private theorem isWord_comparison {word : String} (h : word ∈ comparisonWords) :
    IsWord word.toList := by
  simp only [comparisonWords, List.mem_cons, List.not_mem_nil, or_false] at h
  rcases h with rfl | rfl | rfl | rfl | rfl | rfl | rfl
  case inr.inr.inr.inr.inr.inr => exact isWord_name (by decide)
  all_goals exact isWord_mark (by decide)

private theorem Comparison.Plain.scans {c : Comparison} (h : c.Plain) :
    Scans c.predicate.text c.words := by
  rw [Comparison.predicate, Predicate.text_verbatim]
  exact (isWord_comparison h.relation).joins _ _ _ _ h.field.word.scans h.operand.word.scans

variable {s : String} {words : List String}

private theorem scans_where {comparisons : List Comparison} (h : ∀ c ∈ comparisons, c.Plain)
    (hs : Scans s words) :
    Scans (s ++ whereText (comparisons.map fun c => c.predicate.text))
      (words ++ whereWords comparisons) := by
  cases comparisons with
  | nil => simpa [whereText, whereWords] using hs
  | cons c rest =>
    have hand : IsWord "AND".toList := isWord_name (by decide)
    have hwhere : IsWord "WHERE".toList := isWord_name (by decide)
    have hbody := hand.joins.intercalate (fun c hc => (h c hc).scans) (List.cons_ne_nil c rest)
    have hall := hwhere.joins _ _ _ _ hs hbody
    rw [whereText, if_neg (by simp), ← String.append_assoc]
    rwa [List.append_assoc] at hall

def orderText (order : List Ordered) : String :=
  if order = [] then "" else " ORDER BY " ++ String.intercalate ", " (order.map Ordered.text)

private theorem isWord_direction (direction : SortOrder) : IsWord direction.text.toList := by
  cases direction <;> exact isWord_name (by decide)

private theorem joins_comma : Joins ", " [","] := by
  have hcomma : Joins (String.singleton ',') [String.singleton ','] := joins_mark (by decide)
  exact hcomma.blank

private theorem scans_order {order : List Ordered} (h : ∀ o ∈ order, IsAtom o.field)
    (hs : Scans s words) :
    Scans (s ++ orderText order) (words ++ orderWords order) := by
  cases order with
  | nil => simpa [orderText, orderWords] using hs
  | cons o rest =>
    have hparts : ∀ p ∈ o :: rest, Scans p.text [p.field, p.direction.text] := by
      intro p hp
      exact joins_blank _ _ _ _ (h p hp).word.scans (isWord_direction p.direction).scans
    have horder : IsWord "ORDER".toList := isWord_name (by decide)
    have hby : IsWord "BY".toList := isWord_name (by decide)
    have hbody := joins_comma.intercalate hparts (List.cons_ne_nil o rest)
    have hlead := joins_blank _ _ _ _ hs horder.scans
    have hall := hby.joins _ _ _ _ hlead hbody
    have htext : s ++ " " ++ "ORDER" ++ (" " ++ "BY" ++ " ") = s ++ " ORDER BY " := by
      rw [String.append_assoc, String.append_assoc]
      rfl
    rw [htext, List.append_nil, List.append_assoc, List.append_assoc] at hall
    rwa [orderText, if_neg (by simp), ← String.append_assoc]

/-! ## Statements of comparisons -/

variable (scope : Scope) {table name : String} {comparisons : List Comparison}

theorem removal_read (htable : Term.readName table = some name)
    (hplain : ∀ c ∈ comparisons, c.Plain) (q : Query) :
    Query.read scope ("DELETE FROM " ++ table ++
        whereText (comparisons.map fun c => c.predicate.text)) = .ok q ↔
      (∀ c ∈ comparisons, c.Known scope.known) ∧
        q = .delete name (whereFilter (comparisons.map Comparison.predicate)) := by
  have hdelete : IsWord "DELETE".toList := isWord_name (by decide)
  have hfrom : IsWord "FROM".toList := isWord_name (by decide)
  have htext : "DELETE" ++ (" " ++ "FROM" ++ " ") = "DELETE FROM " := by decide
  have hstart := hfrom.joins _ _ _ _ hdelete.scans (scans_of_readName htable)
  rw [htext] at hstart
  have hname := (Term.readName_trimAscii table).trans htable
  refine read_iff (scans_where hplain hstart) (foreign_of_head (by simp)) ?_ q
  exact delete_tells (.removal hname hplain)

private theorem IsAtom.ne_opening {text : String} (h : IsAtom text) : text ≠ "(" := by
  rintro rfl
  have hopening : isWord "(" "(" = false := h.isWord_eq_false rfl (c := '(') (by decide)
  exact absurd hopening (by decide)

private theorem ne_opening_of_readName {text read : String} (h : Term.readName text = some read) :
    text ≠ "(" := by
  have hopening : Term.readName "(" = none := by decide
  rintro rfl
  rw [hopening] at h
  cases h

private theorem Comparison.Plain.ne_opening {c : Comparison} (h : c.Plain) :
    ∀ w ∈ c.words, w ≠ "(" := by
  have hrelation : ∀ w ∈ comparisonWords, w ≠ "(" := by decide
  simp only [Comparison.words, List.forall_mem_cons]
  exact ⟨h.field.ne_opening, hrelation _ h.relation, h.operand.ne_opening, by simp⟩

private theorem whereWords_ne_opening (h : ∀ c ∈ comparisons, c.Plain) :
    ∀ w ∈ whereWords comparisons, w ≠ "(" := by
  cases comparisons with
  | nil => simp [whereWords]
  | cons c rest =>
    refine List.forall_mem_cons.mpr ⟨by decide, forall_mem_intercalate (by decide) ?_⟩
    rw [List.forall_mem_map]
    exact fun c hc => (h c hc).ne_opening

private theorem orderWords_ne_opening {order : List Ordered} (h : ∀ o ∈ order, IsAtom o.field) :
    ∀ w ∈ orderWords order, w ≠ "(" := by
  cases order with
  | nil => simp [orderWords]
  | cons o rest =>
    have hdirection (direction : SortOrder) : direction.text ≠ "(" := by cases direction <;> decide
    refine List.forall_mem_cons.mpr ⟨by decide, List.forall_mem_cons.mpr ⟨by decide, ?_⟩⟩
    refine forall_mem_intercalate (by decide) ?_
    rw [List.forall_mem_map]
    intro o ho
    simpa using ⟨(h o ho).ne_opening, hdirection o.direction⟩

private theorem scans_selectAll (htable : Term.readName table = some name) :
    Scans ("SELECT * FROM " ++ table) ["SELECT", "*", "FROM", Text.trimAscii table] := by
  have hselect : IsWord "SELECT".toList := isWord_name (by decide)
  have hstar : IsWord "*".toList := isWord_mark (by decide)
  have hfrom : IsWord "FROM".toList := isWord_name (by decide)
  have htext : "SELECT" ++ " " ++ "*" ++ (" " ++ "FROM" ++ " ") = "SELECT * FROM " := by decide
  have hstart := hfrom.joins _ _ _ _ (joins_blank _ _ _ _ hselect.scans hstar.scans)
    (scans_of_readName htable)
  rwa [htext] at hstart

private theorem from_ends (w : String) (h : w = "FROM") : w ∈ Tells.listEnds := h ▸ (by decide)

private theorem star_tells (known : String → Bool) :
    Tells (· = "FROM") (Reader.list "," (Reader.item known)) ["*"] True [⟨"*", none⟩] :=
  .commas_one from_ends .item_star (by simp)

theorem selection_read {order : List Ordered} (htable : Term.readName table = some name)
    (hplain : ∀ c ∈ comparisons, c.Plain) (horder : ∀ o ∈ order, IsAtom o.field) (q : Query) :
    Query.read scope ("SELECT * FROM " ++ table ++
        whereText (comparisons.map fun c => c.predicate.text) ++ orderText order) = .ok q ↔
      ((∀ c ∈ comparisons, c.Known scope.known) ∧ ∀ o ∈ order, Reader.Known scope.known o.field) ∧
        q = .select name none
          ⟨[⟨"*", none⟩], whereFilter (comparisons.map Comparison.predicate), order, none⟩ := by
  have hname := (Term.readName_trimAscii table).trans htable
  have hscans := scans_order horder (scans_where hplain (scans_selectAll htable))
  rw [List.append_assoc] at hscans
  have hopening : "(" ∉ ["SELECT", "*", "FROM", Text.trimAscii table] ++
      (whereWords comparisons ++ orderWords order) := by
    simp only [List.mem_append, not_or]
    refine ⟨by simpa using Ne.symm (ne_opening_of_readName hname),
      fun h => whereWords_ne_opening hplain _ h rfl, fun h => orderWords_ne_opening horder _ h rfl⟩
  have htells := select_tells (.selection (star_tells scope.listed) hname hplain horder)
  rw [read_iff hscans (foreign_of_opening hopening) htells q, true_and]

theorem insertion_read (htable : Term.readName table = some name) {names values : List String}
    (hnames : names ≠ []) (hvalues : values ≠ []) (hatoms : ∀ value ∈ values, IsAtom value)
    (q : Query) :
    Query.read scope (Statement.insertText table names values) = .ok q ↔
      ((∀ name ∈ names, (Term.readName (quoteIdentifier name)).isSome) ∧
        ∀ value ∈ values, Reader.Known scope.known value) ∧ q = .insert name names values := by
  have hname := (Term.readName_trimAscii table).trans htable
  have hinsert : IsWord "INSERT".toList := isWord_name (by decide)
  have hinto : IsWord "INTO".toList := isWord_name (by decide)
  have hnew : IsWord "VALUES".toList := isWord_name (by decide)
  have hcomma : Joins "," [","] := joins_mark (c := ',') (by decide)
  have hcolumnTexts := hcomma.intercalate
    (fun name _ => (isWord_quoteIdentifier name).scans) hnames
  have hvalueTexts := hcomma.intercalate
    (fun value hvalue => (hatoms value hvalue).word.scans) hvalues
  rw [List.map_id'] at hvalueTexts
  have hlead := hinto.joins _ _ _ _ hinsert.scans (scans_of_readName htable)
  have hscans := hnew.joins _ _ _ _ (joins_blank _ _ _ _ hlead hcolumnTexts.parenthesized)
    hvalueTexts.parenthesized
  have htext : "INSERT" ++ (" " ++ "INTO" ++ " ") ++ table ++ " " ++
      ("(" ++ String.intercalate "," (names.map quoteIdentifier) ++ ")") ++
      (" " ++ "VALUES" ++ " ") ++
      ("(" ++ String.intercalate "," values ++ ")") = Statement.insertText table names values := by
    rw [← String.toList_inj]
    simp [Statement.insertText, ColumnList.write, String.toList_append]
  rw [htext] at hscans
  have htells : Tells (fun _ => False) (Reader.insertion scope.known) _ _ _ := .insertion hname
    (fun name _ => Term.readName_quoteIdentifier name) hatoms hnames hvalues
  rw [List.map_id'] at htells
  refine read_iff hscans (foreign_of_head (by simp)) ?_ q
  have hall := insert_tells htells
  simpa using hall

theorem replacement_read (htable : Term.readName table = some name) {sets : List (String × String)}
    (hsets : sets ≠ []) (hatoms : ∀ s ∈ sets, IsAtom s.2) (hplain : ∀ c ∈ comparisons, c.Plain)
    (q : Query) :
    Query.read scope ("UPDATE " ++ table ++ " SET " ++
        String.intercalate ", " (sets.map fun s => quoteIdentifier s.1 ++ " = " ++ s.2) ++
        whereText (comparisons.map fun c => c.predicate.text)) = .ok q ↔
      ((∀ s ∈ sets, (Term.readName (quoteIdentifier s.1)).isSome ∧ Reader.Known scope.known s.2) ∧
        ∀ c ∈ comparisons, c.Known scope.known) ∧
        q = .update name sets (whereFilter (comparisons.map Comparison.predicate)) := by
  have hname := (Term.readName_trimAscii table).trans htable
  have hupdate : IsWord "UPDATE".toList := isWord_name (by decide)
  have hset : IsWord "SET".toList := isWord_name (by decide)
  have hequal : IsWord "=".toList := isWord_mark (by decide)
  have hparts : ∀ s ∈ sets, Scans (quoteIdentifier s.1 ++ " = " ++ s.2)
      [quoteIdentifier s.1, "=", s.2] := by
    intro s hs
    exact hequal.joins _ _ _ _ (isWord_quoteIdentifier s.1).scans (hatoms s hs).word.scans
  have hlead := joins_blank _ _ _ _ hupdate.scans (scans_of_readName htable)
  have hscans := scans_where hplain
    (hset.joins _ _ _ _ hlead (joins_comma.intercalate hparts hsets))
  have htext : "UPDATE" ++ " " ++ table ++ (" " ++ "SET" ++ " ") =
      "UPDATE " ++ table ++ " SET " := by
    rw [← String.toList_inj]
    simp [String.toList_append]
  rw [htext] at hscans
  have htells : Tells (fun _ => False) (Reader.replacement scope.known)
      (Text.trimAscii table :: "SET" :: (List.intercalate [","]
        (sets.map fun s => [quoteIdentifier s.1, "=", s.2]) ++ whereWords comparisons))
      ((∀ s ∈ sets, (Term.readName (quoteIdentifier s.1)).isSome ∧ Reader.Known scope.known s.2) ∧
        ∀ c ∈ comparisons, c.Known scope.known)
      (.update name (sets.map fun s => (s.1, s.2))
        (whereFilter (comparisons.map Comparison.predicate))) :=
    .replacement hname (fun s _ => Term.readName_quoteIdentifier s.1) hatoms hsets hplain
  have hpairs : (sets.map fun s : String × String => (s.1, s.2)) = sets := List.map_id' sets
  rw [hpairs] at htells
  refine read_iff hscans (foreign_of_head (by simp)) ?_ q
  have hall := update_tells htells
  simpa using hall

/-! ## Select lists -/

def itemText (entry : String × String) : String :=
  if entry.1 = entry.2 then entry.2 else entry.2 ++ " AS " ++ entry.1

def itemWords (entry : String × String) : List String :=
  if entry.1 = entry.2 then [Text.trimAscii entry.2] else [Text.trimAscii entry.2, "AS", entry.1]

def readItem (entry : String × String) : Item :=
  ⟨Text.trimAscii entry.2, if entry.1 = entry.2 then none else some entry.1⟩

/-- An expression that is a name, under an alias that is a plain one. -/
structure Labels (entry : String × String) : Prop where
  label : isPlainIdentifier entry.1.toList = true
  expression : (Term.readName entry.2).isSome

/-- The expression is read, and the alias if it is written. -/
def KnownItem (known : String → Bool) (entry : String × String) : Prop :=
  Known known (Text.trimAscii entry.2) ∧ (entry.1 ≠ entry.2 → (Term.readName entry.1).isSome)

namespace Labels

variable {entry : String × String} (h : Labels entry)
include h

private theorem atom : IsAtom (Text.trimAscii entry.2) := by
  obtain ⟨name, hname⟩ := Option.isSome_iff_exists.mp h.expression
  exact .of_readName hname

private theorem scans : Scans (itemText entry) (itemWords entry) := by
  obtain ⟨name, hname⟩ := Option.isSome_iff_exists.mp h.expression
  unfold itemText itemWords
  split
  · exact scans_of_readName hname
  · have has : IsWord "AS".toList := isWord_name (by decide)
    exact has.joins _ _ _ _ (scans_of_readName hname) (isWord_plain h.label).scans

private theorem item {follow : String → Prop} {known : String → Bool}
    (hfollow : ∀ w, follow w → w ≠ "." ∧ isWord "AS" w = false) :
    Tells follow (Reader.item known) (itemWords entry) (KnownItem known entry)
    (readItem entry) := by
  unfold itemWords readItem KnownItem
  split
  · next heq => exact (Tells.item_bare h.atom hfollow).of_iff (by simp [heq])
  · next hne =>
    exact (Tells.item_named h.atom (Term.readName_plain_iff h.label)).of_iff (by simp [hne])

private theorem ne_opening : ∀ w ∈ itemWords entry, w ≠ "(" := by
  have hlabel : entry.1 ≠ "(" := (IsAtom.plain h.label).ne_opening
  have has : "AS" ≠ "(" := by decide
  unfold itemWords
  split <;> simp only [List.forall_mem_cons]
  · exact ⟨h.atom.ne_opening, List.forall_mem_nil _⟩
  · exact ⟨h.atom.ne_opening, has, hlabel, List.forall_mem_nil _⟩

end Labels

theorem list_read (htable : Term.readName table = some name) {entries : List (String × String)}
    (hentries : entries ≠ []) (hlabels : ∀ e ∈ entries, Labels e) (q : Query) :
    Query.read scope ("SELECT " ++ String.intercalate ", " (entries.map itemText) ++ " FROM " ++
        table) = .ok q ↔
      (∀ e ∈ entries, KnownItem scope.listed e) ∧
        q = .select name none ⟨entries.map readItem, none, [], none⟩ := by
  have hname := (Term.readName_trimAscii table).trans htable
  have hselect : IsWord "SELECT".toList := isWord_name (by decide)
  have hfrom : IsWord "FROM".toList := isWord_name (by decide)
  have hlist := joins_comma.intercalate (fun e he => (hlabels e he).scans) hentries
  have hscans := hfrom.joins _ _ _ _ (joins_blank _ _ _ _ hselect.scans hlist)
    (scans_of_readName htable)
  have htext : "SELECT" ++ " " ++ String.intercalate ", " (entries.map itemText) ++
      (" " ++ "FROM" ++ " ") ++ table =
        "SELECT " ++ String.intercalate ", " (entries.map itemText) ++ " FROM " ++ table := by
    rw [← String.toList_inj]
    simp [String.toList_append]
  rw [htext] at hscans
  have hopening : "(" ∉ ["SELECT"] ++ [] ++ List.intercalate [","]
      (entries.map itemWords) ++ ["FROM"] ++
      [Text.trimAscii table] := by
    have hwords : ∀ w ∈ List.intercalate [","] (entries.map itemWords), w ≠ "(" := by
      refine forall_mem_intercalate (by decide) ?_
      rw [List.forall_mem_map]
      exact fun e he => (hlabels e he).ne_opening
    simp only [List.mem_append, not_or]
    refine ⟨⟨⟨by decide, fun h => hwords _ h rfl⟩, by decide⟩, ?_⟩
    simpa using Ne.symm (ne_opening_of_readName hname)
  have hitems : Tells (· = "FROM") (Reader.list "," (Reader.item scope.listed))
      (List.intercalate [","] (entries.map itemWords)) (∀ e ∈ entries, KnownItem scope.listed e)
      (entries.map readItem) := by
    refine .commas from_ends (fun e he => (hlabels e he).item ?_) hentries fun e _ => ?_
    · rintro w (rfl | rfl) <;> decide
    · unfold itemWords
      split <;> simp
  have hplain : ∀ c ∈ ([] : List Comparison), c.Plain := nofun
  have hfields : ∀ o ∈ ([] : List Ordered), IsAtom o.field := nofun
  have htells := select_tells (.selection hitems hname hplain hfields)
  rw [read_iff hscans (foreign_of_opening hopening)
    (by simpa [whereWords, orderWords] using htells) q]
  simp [whereFilter]

/-! ## Selections of anything -/

/-- The text starts with a word that ends the name of a table, unless it is empty. -/
def Resumes (rest : String) : Prop :=
  rest = "" ∨ ∃ lead ∈ ["WHERE", "ORDER"], ∃ more, rest = " " ++ lead ++ " " ++ more

private theorem Resumes.scan {rest : String} (h : Resumes rest) :
    Apart rest.toList ∧
      ∀ w ∈ (Word.scan 0 rest.toList).head?, w.text = "WHERE" ∨ w.text = "ORDER" := by
  rcases h with rfl | ⟨lead, hlead, more, rfl⟩
  · exact ⟨.nil, by simp [scan_nil]⟩
  · have hname : Term.isName lead.toList = true := by
      revert lead
      decide
    have hlist : (" " ++ lead ++ " " ++ more).toList =
        ' ' :: (lead.toList ++ ' ' :: more.toList) := by
      simp [String.toList_append]
    have hword := isWord_name hname (' ' :: more.toList) (.cons (by decide) _)
    rw [hlist]
    refine ⟨.cons (by decide) _, fun w hw => ?_⟩
    rw [scan_blank (by decide), hword] at hw
    obtain rfl := Option.some.inj hw
    simpa using hlead

theorem source_read (htable : Term.readName table = some name) {rest : String}
    (hrest : Resumes rest)
    {q : Query} (h : Query.read scope ("SELECT * FROM " ++ table ++ rest) = .ok q) :
    ∃ filter order window, q = .select name none ⟨[⟨"*", none⟩], filter, order, window⟩ := by
  have hname := (Term.readName_trimAscii table).trans htable
  obtain ⟨hapart, hfollow⟩ := hrest.scan
  obtain ⟨found, hscan, hwords⟩ := scans_selectAll htable rest.toList hapart
  rw [← String.toList_append] at hscan
  generalize Word.scan 0 rest.toList = left at hscan hfollow
  have hforeign : Foreign ((found ++ left).map Word.text) := by
    rw [List.map_append, hwords]
    exact foreign_of_source (ne_opening_of_readName hname) _
  rw [read_eq_ok (by rwa [hscan]), hscan] at h
  obtain ⟨verb, source, rfl, hverb, hsource⟩ := List.map_eq_cons_iff.mp hwords
  have hend : ∀ w, w = "WHERE" ∨ w = "ORDER" → isWord "AS" w = false ∧ Term.readName w = none := by
    rintro w (rfl | rfl) <;> decide
  have hverbs : Tells (fun _ => True) Reader.verb ["SELECT"] True "SELECT" := verb_tells (by decide)
  have hfirst : [verb].map Word.text = ["SELECT"] := congrArg ([·]) hverb
  have hselecting : Reader.selection scope (source ++ left) = .ok (q, []) :=
    hverbs.of_bind hfirst (fun _ _ => trivial) h
  have hclauses := (Tells.source (star_tells scope.listed) hname hend).of_bind
    hsource hfollow hselecting
  obtain ⟨filter, afterFilter, -, hclauses⟩ := bind_eq_ok.mp hclauses
  obtain ⟨order, afterOrder, -, hclauses⟩ := bind_eq_ok.mp hclauses
  obtain ⟨window, last, -, hclauses⟩ := bind_eq_ok.mp hclauses
  cases hclauses
  exact ⟨filter, order, window, rfl⟩
end Reader
end RecordGateway
