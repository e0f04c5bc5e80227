import RecordGateway.Toml
/-!
# Documents of texts

What a TOML document with texts under bare keys is read as: at the top of it, and in tables with
headers.
-/
namespace RecordGateway.Toml

/-- A key that stands without quotes. -/
def IsBareKey (key : String) : Prop := key ≠ "" ∧ key.toList.all isBareKeyChar = true

/-- A text that stands between single quotes as it is. -/
def IsLiteral (s : String) : Prop := ∀ c ∈ s.toList, isPlain c = true ∧ c ≠ '\''

/-- Texts under distinct bare keys. -/
structure IsTexts (entries : List (String × String)) : Prop where
  distinct : (entries.map Prod.fst).Nodup
  keys : ∀ e ∈ entries, IsBareKey e.1
  texts : ∀ e ∈ entries, IsLiteral e.2

/-- The headers of tables with what stands under them. -/
abbrev Sections := List (String × List (String × String))

def line (e : String × String) : List Char :=
  e.1.toList ++ ' ' :: '=' :: ' ' :: '\'' :: (e.2.toList ++ ['\'', '\n'])

def header (name : String) : List Char := '[' :: (name.toList ++ [']', '\n'])

/-- A document with entries at its top and then tables of entries. -/
def document (entries : List (String × String)) (tables : Sections) : List Char :=
  entries.flatMap line ++ tables.flatMap fun t => header t.1 ++ t.2.flatMap line

def texts (entries : List (String × String)) : List (String × Configuration) :=
  entries.map fun e => (e.1, .value (.text e.2))

/-- Every text is read as it stands between its quotes, under its key and in the order of the
document. -/
structure DocumentRules (read : String → Option (List (String × Configuration))) : Prop where
  document {entries : List (String × String)} {tables : Sections} :
    IsTexts entries → (∀ t ∈ tables, IsBareKey t.1 ∧ IsTexts t.2) →
      (entries.map Prod.fst ++ tables.map Prod.fst).Nodup →
        read (String.ofList (document entries tables)) =
          some (texts entries ++ tables.map fun t => (t.1, .table (texts t.2)))

/-! ## Characters -/

private theorem isBareKeyChar_ne {c d : Char} (h : isBareKeyChar c = true)
    (hd : isBareKeyChar d = false) : c ≠ d := by
  rintro rfl
  rw [h] at hd
  cases hd

private theorem bare_head {key : String} (h : IsBareKey key) :
    ∃ c cs, key.toList = c :: cs ∧ isBareKeyChar c = true := by
  cases hkey : key.toList with
  | nil => exact absurd (String.toList_eq_nil_iff.mp hkey) h.1
  | cons c cs =>
    have hall := List.all_eq_true.mp h.2
    rw [hkey] at hall
    exact ⟨c, cs, rfl, hall c (List.mem_cons_self ..)⟩

private theorem skipSpace_bare {key : String} (h : IsBareKey key) (rest : List Char) :
    skipSpace (key.toList ++ rest) = key.toList ++ rest := by
  obtain ⟨c, cs, hkey, hc⟩ := bare_head h
  have hspace : isSpace c = false := by
    rw [isSpace, Bool.or_eq_false_iff, beq_eq_false_iff_ne, beq_eq_false_iff_ne]
    exact ⟨isBareKeyChar_ne hc (by decide), isBareKeyChar_ne hc (by decide)⟩
  rw [hkey, List.cons_append, skipSpace, List.dropWhile_cons_of_neg (by rw [hspace]; decide)]

private theorem readKeyPart_bare {key : String} (h : IsBareKey key) {rest : List Char}
    (hrest : rest.head?.all fun c => !isBareKeyChar c) :
    readKeyPart (key.toList ++ rest) = some (key, rest) := by
  have hall := List.all_eq_true.mp h.2
  have htake : (key.toList ++ rest).takeWhile isBareKeyChar = key.toList := by
    rw [List.takeWhile_append_of_pos hall]
    cases rest with
    | nil => simp
    | cons c rest =>
      have hc : isBareKeyChar c = false := by simpa using hrest
      rw [List.takeWhile_cons_of_neg (by rw [hc]; decide), List.append_nil]
  have hdrop : (key.toList ++ rest).dropWhile isBareKeyChar = rest := by
    rw [List.dropWhile_append_of_pos hall]
    cases rest with
    | nil => rfl
    | cons c rest =>
      have hc : isBareKeyChar c = false := by simpa using hrest
      rw [List.dropWhile_cons_of_neg (by rw [hc]; decide)]
  obtain ⟨c, cs, hkey, -⟩ := bare_head h
  have hname : String.ofList (c :: cs) = key := by rw [← hkey, String.ofList_toList]
  rw [readKeyPart, htake, hdrop, hkey]
  exact congrArg (fun part => some (part, rest)) hname

private theorem key_bare {name : String} (h : IsBareKey name) {gap rest : List Char} {c : Char}
    (hgap : gap.head?.all fun c => !isBareKeyChar c) (hskip : skipSpace gap = c :: rest)
    (hc : c ≠ '.') : key (name.toList ++ gap) = some ([name], c :: rest) := by
  rw [key, depthLimit, readKey, skipSpace_bare h, readKeyPart_bare h hgap]
  simp only [Option.bind_eq_bind, Option.bind_some, hskip]
  split
  · next heq => exact absurd (List.cons.inj heq).1 hc
  · rfl

/-! ## Lines -/

private theorem readLiteral_append {cs : List Char}
    (h : ∀ c ∈ cs, isPlain c = true ∧ c ≠ '\'') (rest : List Char) :
    readLiteral (cs ++ '\'' :: rest) = some (cs, rest) := by
  induction cs with
  | nil => rfl
  | cons c cs ih =>
    obtain ⟨⟨hplain, hquote⟩, hrest⟩ := List.forall_mem_cons.mp h
    rw [List.cons_append, readLiteral, if_pos hplain, ih hrest]
    · rfl
    · exact hquote

private theorem readValue_literal {s : String} (h : IsLiteral s) (depth : Nat) (rest : List Char) :
    readValue depth ('\'' :: (s.toList ++ '\'' :: '\n' :: rest)) =
      some (.value (.text s), '\n' :: rest) := by
  have hquoted : readQuoted ('\'' :: (s.toList ++ '\'' :: '\n' :: rest)) =
      some (s.toList, '\n' :: rest) := readLiteral_append h _
  have hstring : readString ('\'' :: (s.toList ++ '\'' :: '\n' :: rest)) =
      some (s.toList, '\n' :: rest) := by
    unfold readString
    split
    · next heq => cases heq
    · next more heq =>
      -- A text that is empty is followed by the end of its line, not by a third quote.
      cases hs : s.toList with
      | nil =>
        rw [hs] at heq
        cases heq
      | cons c cs =>
        rw [hs] at heq
        have hc := (h c (hs ▸ List.mem_cons_self ..)).2
        exact absurd (List.cons.inj (List.cons.inj heq).2).1 hc
    · exact hquoted
  rw [readValue, hstring, Option.map_some]
  simp only [String.ofList_toList]

private theorem readLines_bare (fuel : Nat) (path : List String) (nodes : Nodes) {key : String}
    (h : IsBareKey key) (rest : List Char) :
    readLines (fuel + 1) path nodes (key.toList ++ rest) = (do
      let ((name, c), rest) ← readPair (readValue (depthLimit - 1)) (key.toList ++ rest)
      let nodes ← assignUnder path name c nodes
      readLines fuel path nodes (← endLine rest)) := by
  obtain ⟨c, cs, hkey, hc⟩ := bare_head h
  rw [readLines, skipSpace_bare h, hkey, List.cons_append]
  split
  · next heq => cases heq
  · next heq => exact absurd (List.cons.inj heq).1 (isBareKeyChar_ne hc (by decide))
  · next heq => exact absurd (List.cons.inj heq).1 (isBareKeyChar_ne hc (by decide))
  · next heq => exact absurd (List.cons.inj heq).1 (isBareKeyChar_ne hc (by decide))
  · rfl

private theorem readLines_line (fuel : Nat) (path : List String) (nodes : Nodes)
    {e : String × String} (hkey : IsBareKey e.1) (htext : IsLiteral e.2) (rest : List Char) :
    readLines (fuel + 1) path nodes (line e ++ rest) =
      (assignUnder path [e.1] (.value (.text e.2)) nodes).bind fun nodes =>
        readLines fuel path nodes rest := by
  have hline : line e ++ rest =
      e.1.toList ++ ' ' :: '=' :: ' ' :: '\'' :: (e.2.toList ++ '\'' :: '\n' :: rest) := by
    simp [line]
  have hread : key (e.1.toList ++
      ' ' :: '=' :: ' ' :: '\'' :: (e.2.toList ++ '\'' :: '\n' :: rest)) =
      some ([e.1], '=' :: ' ' :: '\'' :: (e.2.toList ++ '\'' :: '\n' :: rest)) :=
    key_bare hkey rfl rfl (by decide)
  have hpair : readPair (readValue (depthLimit - 1))
      (e.1.toList ++ ' ' :: '=' :: ' ' :: '\'' :: (e.2.toList ++ '\'' :: '\n' :: rest)) =
        some (([e.1], .value (.text e.2)), '\n' :: rest) := by
    have hspace : skipSpace (' ' :: '\'' :: (e.2.toList ++ '\'' :: '\n' :: rest)) =
        '\'' :: (e.2.toList ++ '\'' :: '\n' :: rest) := rfl
    rw [readPair, hread]
    simp only [Option.bind_eq_bind, Option.bind_some, hspace, readValue_literal htext]
    rfl
  rw [hline, readLines_bare fuel path nodes hkey, hpair]
  rfl

private theorem readLines_header (fuel : Nat) (path : List String) (nodes : Nodes) {name : String}
    (h : IsBareKey name) (rest : List Char) :
    readLines (fuel + 1) path nodes (header name ++ rest) =
      (declareTable [name] nodes).bind fun nodes => readLines fuel [name] nodes rest := by
  have hread : key (name.toList ++ ']' :: '\n' :: rest) = some ([name], ']' :: '\n' :: rest) :=
    key_bare h rfl rfl (by decide)
  have hheader : readHeader nodes (name.toList ++ ']' :: '\n' :: rest) =
      (declareTable [name] nodes).map fun nodes => (([name], nodes), rest) := by
    obtain ⟨c, cs, hname, hc⟩ := bare_head h
    unfold readHeader
    split
    · next heq =>
      rw [hname] at heq
      exact absurd (List.cons.inj heq).1 (isBareKeyChar_ne hc (by decide))
    · rw [hread]
      simp only [Option.bind_eq_bind, Option.bind_some]
      cases declareTable [name] nodes <;> rfl
  have hlist : header name ++ rest = '[' :: (name.toList ++ ']' :: '\n' :: rest) := by
    simp [header]
  have hskip : skipSpace ('[' :: (name.toList ++ ']' :: '\n' :: rest)) =
      '[' :: (name.toList ++ ']' :: '\n' :: rest) := rfl
  rw [hlist, readLines, hskip]
  simp only [hheader]
  cases declareTable [name] nodes <;> rfl

/-! ## Tables under construction -/

private theorem entryAt_none {α : Type} {entries : List (String × α)} {key : String}
    (h : key ∉ entries.map Prod.fst) : entryAt key entries = none := by
  induction entries with
  | nil => rfl
  | cons e entries ih =>
    rw [List.map_cons, List.mem_cons, not_or] at h
    rw [entryAt, if_neg (Ne.symm h.1), ih h.2]

private theorem putEntry_append {α : Type} {entries : List (String × α)} {key : String}
    (h : key ∉ entries.map Prod.fst) (x : α) (rest : List (String × α)) :
    putEntry key x (entries ++ rest) = entries ++ putEntry key x rest := by
  induction entries with
  | nil => rfl
  | cons e entries ih =>
    rw [List.map_cons, List.mem_cons, not_or] at h
    rw [List.cons_append, putEntry, if_neg (Ne.symm h.1), ih h.2, List.cons_append]

private theorem entryAt_append {α : Type} {entries : List (String × α)} {key : String}
    (h : key ∉ entries.map Prod.fst) (rest : List (String × α)) :
    entryAt key (entries ++ rest) = entryAt key rest := by
  induction entries with
  | nil => rfl
  | cons e entries ih =>
    rw [List.map_cons, List.mem_cons, not_or] at h
    rw [List.cons_append, entryAt, if_neg (Ne.symm h.1), ih h.2]

private theorem assign_new {nodes : Nodes} {key : String} (h : key ∉ nodes.map Prod.fst)
    (c : Configuration) : assign [key] c .declared nodes = some (nodes ++ [(key, .leaf c)]) := by
  have hput := putEntry_append h (Node.leaf c) []
  rw [List.append_nil] at hput
  have hdefine : define false key c .declared nodes = some (putEntry key (.leaf c) nodes) := by
    rw [define, entryAt_none h]
    rfl
  exact hdefine.trans (congrArg some hput)

private theorem declareTable_new {nodes : Nodes} {name : String} (h : name ∉ nodes.map Prod.fst) :
    declareTable [name] nodes = some (nodes ++ [(name, .table .declared [])]) := by
  have hput := putEntry_append h (Node.table .declared []) []
  rw [List.append_nil, putEntry] at hput
  simp only [declareTable, splitLast, List.dropLast_singleton, alter, List.getLastD_cons,
    List.getLastD_nil, entryAt_none h, hput]

private theorem assignUnder_last {before inner : Nodes} {name key : String}
    (hname : name ∉ before.map Prod.fst) (hkey : key ∉ inner.map Prod.fst) (c : Configuration) :
    assignUnder [name] [key] c (before ++ [(name, .table .declared inner)]) =
      some (before ++ [(name, .table .declared (inner ++ [(key, .leaf c)]))]) := by
  have hput := putEntry_append hname (Node.table .declared (inner ++ [(key, .leaf c)]))
    [(name, .table .declared inner)]
  have hlast : putEntry name (Node.table .declared (inner ++ [(key, .leaf c)]))
      [(name, .table .declared inner)] = [(name, .table .declared (inner ++ [(key, .leaf c)]))] :=
    if_pos rfl
  have hentry : entryAt name (before ++ [(name, Node.table .declared inner)]) =
      some (.table .declared inner) := by
    rw [entryAt_append hname, entryAt, if_pos rfl]
  rw [hlast] at hput
  simp only [assignUnder, alter, hentry, assign_new hkey, Option.map_some, hput]
  rfl

/-! ## Runs of lines -/

def leaves (entries : List (String × String)) : Nodes :=
  entries.map fun e => (e.1, .leaf (.value (.text e.2)))

private theorem leaves_keys (entries : List (String × String)) :
    (leaves entries).map Prod.fst = entries.map Prod.fst := by
  rw [leaves, List.map_map]
  rfl

private theorem readLines_lines (path : List String) (opened : Nodes → Nodes)
    (hopened : ∀ {inner : Nodes} {key : String}, key ∉ inner.map Prod.fst → ∀ c,
      assignUnder path [key] c (opened inner) = some (opened (inner ++ [(key, .leaf c)])))
    {entries : List (String × String)} (hkeys : ∀ e ∈ entries, IsBareKey e.1)
    (htexts : ∀ e ∈ entries, IsLiteral e.2) (inner : Nodes)
    (hnodup : (inner.map Prod.fst ++ entries.map Prod.fst).Nodup) (fuel : Nat) (rest : List Char) :
    readLines (entries.length + fuel) path (opened inner) (entries.flatMap line ++ rest) =
      readLines fuel path (opened (inner ++ leaves entries)) rest := by
  induction entries generalizing inner with
  | nil => simp [leaves]
  | cons e entries ih =>
    obtain ⟨hkey, hkeys⟩ := List.forall_mem_cons.mp hkeys
    obtain ⟨htext, htexts⟩ := List.forall_mem_cons.mp htexts
    have hnew : e.1 ∉ inner.map Prod.fst := by
      rw [List.map_cons] at hnodup
      exact fun hmem => (List.nodup_append.mp hnodup).2.2 _ hmem _ (List.mem_cons_self ..) rfl
    have hnodup' : ((inner ++ leaves [e]).map Prod.fst ++ entries.map Prod.fst).Nodup := by
      rwa [List.map_append, List.append_assoc]
    have hleaves : inner ++ leaves [e] ++ leaves entries = inner ++ leaves (e :: entries) := by
      rw [List.append_assoc]
      rfl
    rw [List.flatMap_cons, List.append_assoc, List.length_cons, Nat.add_right_comm,
      readLines_line _ _ _ hkey htext, hopened hnew, Option.bind_some, ← hleaves]
    exact ih hkeys htexts _ hnodup'

def tableNodes (tables : Sections) : Nodes :=
  tables.map fun t => (t.1, .table .declared (leaves t.2))

/-- One for each header and one for each entry. -/
private def lineCount : Sections → Nat
  | [] => 0
  | t :: tables => t.2.length + 1 + lineCount tables

def tableLines (tables : Sections) : List Char :=
  tables.flatMap fun t => header t.1 ++ t.2.flatMap line

private theorem readLines_tables {tables : Sections}
    (htables : ∀ t ∈ tables, IsBareKey t.1 ∧ IsTexts t.2) {nodes : Nodes}
    (hnodup : (nodes.map Prod.fst ++ tables.map Prod.fst).Nodup) (path : List String) (fuel : Nat) :
    readLines (lineCount tables + (fuel + 1)) path nodes
      (tableLines tables) = some (nodes ++ tableNodes tables) := by
  induction tables generalizing nodes path with
  | nil => simp [tableLines, tableNodes, readLines, skipSpace]
  | cons t tables ih =>
    obtain ⟨⟨hname, htexts⟩, htables⟩ := List.forall_mem_cons.mp htables
    have hnew : t.1 ∉ nodes.map Prod.fst := by
      rw [List.map_cons] at hnodup
      exact fun hmem => (List.nodup_append.mp hnodup).2.2 _ hmem _ (List.mem_cons_self ..) rfl
    have hnodup' : ((nodes ++ tableNodes [t]).map Prod.fst ++ tables.map Prod.fst).Nodup := by
      rwa [List.map_append, List.append_assoc]
    have hnodes : nodes ++ tableNodes [t] ++ tableNodes tables =
        nodes ++ tableNodes (t :: tables) := by
      rw [List.append_assoc]
      rfl
    have hlines : tableLines (t :: tables) =
        header t.1 ++ (t.2.flatMap line ++ tableLines tables) := List.append_assoc ..
    have hfuel : lineCount (t :: tables) + (fuel + 1) =
        t.2.length + (lineCount tables + (fuel + 1)) + 1 := by
      rw [lineCount]
      omega
    have hopened := readLines_lines [t.1] (fun inner => nodes ++ [(t.1, .table .declared inner)])
      (fun hkey c => assignUnder_last hnew hkey c) htexts.keys htexts.texts [] htexts.distinct
      (lineCount tables + (fuel + 1)) (tableLines tables)
    rw [hlines, hfuel, readLines_header _ _ _ hname, declareTable_new hnew, Option.bind_some,
      ← hnodes]
    exact hopened.trans (ih htables hnodup' [t.1])

/-! ## Documents -/

private theorem length_lines (entries : List (String × String)) :
    entries.length ≤ (entries.flatMap line).length := by
  induction entries with
  | nil => exact Nat.le_refl _
  | cons e entries ih =>
    rw [List.flatMap_cons, List.length_cons, List.length_append]
    simp only [line, List.length_append, List.length_cons]
    omega

private theorem length_tables (tables : Sections) :
    lineCount tables ≤ (tableLines tables).length := by
  induction tables with
  | nil => exact Nat.le_refl _
  | cons t tables ih =>
    have hlines := length_lines t.2
    rw [lineCount, tableLines, List.flatMap_cons, List.length_append, List.length_append, header,
      List.length_cons]
    rw [tableLines] at ih
    omega

private theorem readLines_document {entries : List (String × String)}
    {tables : Sections} (hentries : IsTexts entries)
    (htables : ∀ t ∈ tables, IsBareKey t.1 ∧ IsTexts t.2)
    (hnodup : (entries.map Prod.fst ++ tables.map Prod.fst).Nodup) :
    readLines ((document entries tables).length + 1) [] [] (document entries tables) =
      some (leaves entries ++ tableNodes tables) := by
  have hfuel : entries.length + (lineCount tables + 1) ≤
      (document entries tables).length + 1 := by
    have hlines := length_lines entries
    have htablelines := length_tables tables
    rw [document, List.length_append]
    rw [tableLines] at htablelines
    omega
  obtain ⟨fuel, hfuel⟩ := Nat.exists_eq_add_of_le hfuel
  have hsum : entries.length + (lineCount tables + 1) + fuel =
      entries.length + (lineCount tables + (fuel + 1)) := by omega
  have hkeys : ((leaves entries).map Prod.fst ++ tables.map Prod.fst).Nodup := by
    rwa [leaves_keys]
  have htop := readLines_lines [] id (fun hkey c => assign_new hkey c) hentries.keys
    hentries.texts [] hentries.distinct
    (lineCount tables + (fuel + 1)) (tableLines tables)
  rw [hfuel, hsum]
  exact htop.trans (readLines_tables htables hkeys [] fuel)

private theorem finished_leaves (entries : List (String × String)) :
    finishedEntries (leaves entries) = texts entries := by
  induction entries with
  | nil => rfl
  | cons e entries ih =>
    have htail := congrArg ((e.1, Configuration.value (.text e.2)) :: ·) ih
    exact htail

private theorem finished_append (nodes more : Nodes) :
    finishedEntries (nodes ++ more) = finishedEntries nodes ++ finishedEntries more := by
  induction nodes with
  | nil => rfl
  | cons node nodes ih =>
    rw [List.cons_append, finishedEntries, finishedEntries, ih, List.cons_append]

private theorem finished_tables (tables : Sections) :
    finishedEntries (tableNodes tables) = tables.map fun t => (t.1, .table (texts t.2)) := by
  induction tables with
  | nil => rfl
  | cons t tables ih =>
    have hhead : tableNodes (t :: tables) =
        (t.1, .table .declared (leaves t.2)) :: tableNodes tables := rfl
    rw [hhead, finishedEntries, Node.finished, finished_leaves, ih, List.map_cons]

private theorem ne_momentKey {key : String} (h : IsBareKey key) : key ≠ momentKey := by
  rintro rfl
  exact absurd h.2 (by decide)

private theorem settle_entries {entries : List (String × Configuration)}
    (h : ∀ e ∈ entries, e.1 ≠ momentKey ∧ settle e.2 = some e.2) :
    settle (.table entries) = some (.table entries) ∧ settleEntries entries = some entries := by
  induction entries with
  | nil => exact ⟨by rw [settle], by rw [settleEntries]⟩
  | cons e entries ih =>
    obtain ⟨⟨hkey, hsettle⟩, hrest⟩ := List.forall_mem_cons.mp h
    obtain ⟨key, c⟩ := e
    have hentries : settleEntries ((key, c) :: entries) = some ((key, c) :: entries) := by
      rw [settleEntries, hsettle, (ih hrest).2]
    refine ⟨?_, hentries⟩
    rw [settle.eq_def]
    simp only [if_neg hkey, hsettle, (ih hrest).2]

private theorem settle_texts {entries : List (String × String)}
    (h : ∀ e ∈ entries, IsBareKey e.1) :
    ∀ e ∈ texts entries, e.1 ≠ momentKey ∧ settle e.2 = some e.2 := by
  intro e he
  obtain ⟨e, hmem, rfl⟩ := List.mem_map.mp he
  exact ⟨ne_momentKey (h e hmem), by rw [settle]⟩

private theorem settle_document {entries : List (String × String)}
    {tables : Sections} (hentries : IsTexts entries)
    (htables : ∀ t ∈ tables, IsBareKey t.1 ∧ IsTexts t.2) :
    settle (.table (texts entries ++ tables.map fun t => (t.1, .table (texts t.2)))) =
      some (.table (texts entries ++ tables.map fun t => (t.1, .table (texts t.2)))) := by
  refine (settle_entries fun e he => ?_).1
  rcases List.mem_append.mp he with he | he
  · exact settle_texts hentries.keys e he
  · obtain ⟨t, ht, rfl⟩ := List.mem_map.mp he
    have htexts := settle_entries (settle_texts (htables t ht).2.keys)
    exact ⟨ne_momentKey (htables t ht).1, htexts.1⟩

private theorem uniform_eq {cs : List Char} (h : '\r' ∉ cs) : uniform cs = cs := by
  induction cs with
  | nil => rfl
  | cons c cs ih =>
    rw [List.mem_cons, not_or] at h
    rw [uniform, ih h.2]
    exact fun _ heq => absurd heq.symm h.1

private theorem line_return {e : String × String} (hkey : IsBareKey e.1) (htext : IsLiteral e.2) :
    '\r' ∉ line e := by
  have hbare : '\r' ∉ e.1.toList := fun hmem =>
    absurd (List.all_eq_true.mp hkey.2 _ hmem) (by decide)
  have hplain : '\r' ∉ e.2.toList := fun hmem => absurd (htext _ hmem).1 (by decide)
  simp [line, hbare, hplain]

private theorem lines_return {entries : List (String × String)} (h : IsTexts entries) :
    '\r' ∉ entries.flatMap line := by
  intro hmem
  obtain ⟨e, he, hline⟩ := List.mem_flatMap.mp hmem
  exact line_return (h.keys e he) (h.texts e he) hline

private theorem document_return {entries : List (String × String)}
    {tables : Sections} (hentries : IsTexts entries)
    (htables : ∀ t ∈ tables, IsBareKey t.1 ∧ IsTexts t.2) :
    '\r' ∉ document entries tables := by
  rw [document, List.mem_append, not_or]
  refine ⟨lines_return hentries, fun hmem => ?_⟩
  obtain ⟨t, ht, hmem⟩ := List.mem_flatMap.mp hmem
  have hbare : '\r' ∉ t.1.toList := fun hmem =>
    absurd (List.all_eq_true.mp (htables t ht).1.2 _ hmem) (by decide)
  rcases List.mem_append.mp hmem with hmem | hmem
  · simp [header, hbare] at hmem
  · exact lines_return (htables t ht).2 hmem

private theorem document_mark {entries : List (String × String)}
    {tables : Sections} (hentries : IsTexts entries) :
    dropMark (document entries tables) = document entries tables := by
  unfold dropMark
  split
  · next rest heq =>
    exfalso
    cases entries with
    | nil =>
      cases tables with
      | nil => cases heq
      | cons t tables => cases heq
    | cons e entries =>
      obtain ⟨c, cs, hkey, hc⟩ := bare_head (hentries.keys e (List.mem_cons_self ..))
      rw [document, List.flatMap_cons, line, hkey] at heq
      exact absurd (List.cons.inj heq).1 (isBareKeyChar_ne hc (by decide))
  · rfl

theorem documentRules : DocumentRules read where
  document {entries tables} hentries htables hnodup := by
    have hlines := readLines_document hentries htables hnodup
    rw [read, String.toList_ofList, uniform_eq (document_return hentries htables),
      document_mark hentries]
    simp only [hlines, Option.bind_some, finished_append, finished_leaves, finished_tables,
      settle_document hentries htables]

end RecordGateway.Toml
