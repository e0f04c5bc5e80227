import RecordGateway.Proofs.Configuration.Documents
import RecordGateway.Proofs.Configuration.Layers
import RecordGateway.Proofs.Number.Integer
import RecordGateway.Settings
/-!
# Sources of settings

A setting comes from the last environment variable that leads to it, else from the configuration
file, else it has its default, and no source of one setting has a part in another.
-/
namespace RecordGateway

namespace Configuration

/-! ## Texts -/

/-- How the text of a variable comes back from the value that it is read as. -/
inductive Shown (s : String) : String → Prop where
  | truth (word : Text.lower s = "true" ∨ Text.lower s = "false") : Shown s (Text.lower s)
  | integer {i : Int64} (reads : Numeral s.toList i.toInt) : Shown s i.toInt.repr
  | real {x : Binary64} (unread : ∀ i : Int64, ¬Numeral s.toList i.toInt)
      (reads : readBinary64 s.toList = some x) : Shown s x.text
  | text (word : Text.lower s ≠ "true" ∧ Text.lower s ≠ "false")
      (unread : ∀ i : Int64, ¬Numeral s.toList i.toInt) (unread' : readBinary64 s.toList = none) :
      Shown s s

private theorem text?_variableValue (s : String) :
    ∃ t, text? (.value (variableValue s)) = some t ∧ Shown s t := by
  by_cases hword : ∀ b : Bool, Text.lower s ≠ toString b
  · have hwords : Text.lower s ≠ "true" ∧ Text.lower s ≠ "false" := ⟨hword true, hword false⟩
    cases hread : readInt64 s.toList with
    | some i =>
      have hnumeral := readInt64_eq_some.mp hread
      rw [variableRules.integer hword hnumeral]
      exact ⟨_, textRules.integer i, .integer hnumeral⟩
    | none =>
      have hunread := readInt64_eq_none.mp hread
      cases hreal : readBinary64 s.toList with
      | some x =>
        rw [variableRules.real hword hunread hreal]
        exact ⟨_, textRules.real x, .real hunread hreal⟩
      | none =>
        rw [variableRules.text hword hunread hreal]
        exact ⟨_, textRules.text s, .text hwords hunread hreal⟩
  · push Not at hword
    obtain ⟨b, hb⟩ := hword
    rw [variableRules.truth b hb]
    refine ⟨_, textRules.truth b, ?_⟩
    rw [← hb]
    cases b with
    | true => exact .truth (.inl hb)
    | false => exact .truth (.inr hb)

/-- Where a text setting comes from: from the last variable laid at its place, else from what
stands there, else it has its default. -/
inductive Chosen (default : String) (old : Option Configuration) (vs : Placed) : String → Prop where
  | variable {before : Placed} {s t : String} (last : vs = before ++ [([], s)])
      (shown : Shown s t) : Chosen default old vs t
  | given {t : String} (unlaid : vs = []) (stands : old = some (.value (.text t))) :
      Chosen default old vs t
  | default (unlaid : vs = []) (absent : old = none) : Chosen default old vs default

private theorem chosen {default t : String} {old : Option Configuration} {vs : Placed}
    (hold : ∀ c ∈ old, c.IsText)
    (h : orDefault text? default (lay old vs) = some t) : Chosen default old vs t := by
  rcases List.eq_nil_or_concat vs with rfl | ⟨before, ⟨rest, s⟩, rfl⟩
  · cases old with
    | none =>
      obtain rfl := Option.some.inj h
      exact .default rfl rfl
    | some c =>
      obtain ⟨s, rfl⟩ := hold c rfl
      obtain rfl := Option.some.inj h
      exact .given rfl rfl
  · rw [List.concat_eq_append] at h ⊢
    rw [lay_snoc] at h
    cases rest with
    | nil =>
      rw [layerRules.value] at h
      obtain ⟨t', hread, hshown⟩ := text?_variableValue s
      obtain rfl := Option.some.inj (hread.symm.trans h)
      exact .variable rfl hshown
    | cons step rest =>
      have hnone : text? (put (.value (variableValue s)) (step :: rest)
          ((lay old before).getD empty)) = none := by
        cases step with
        | key name =>
          obtain ⟨entries, heq⟩ := layerRules.table _ name rest _
          rw [heq, textRules.table]
        | place index =>
          obtain ⟨items, heq⟩ := layerRules.list _ index rest _
          rw [heq, textRules.list]
      cases hnone.symm.trans h

/-! ## Names that lead to a setting -/

/-- What stands at the end of a row of names. -/
def standing : List String → Configuration → Option Configuration
  | [], c => some c
  | name :: names, c => (c.get? name).bind (standing names)

/-- The variables whose paths lead through a row of names, with what is left of their paths. -/
def leading (names : List String) (environment : List (String × String)) : Placed :=
  names.foldl (fun vs name => under name vs) (placed environment)

private theorem leading_append (names : List String) (before after : List (String × String)) :
    leading names (before ++ after) = leading names before ++ leading names after := by
  have hfold : ∀ vs ws : Placed, names.foldl (fun vs name => under name vs) (vs ++ ws) =
      names.foldl (fun vs name => under name vs) vs ++
        names.foldl (fun vs name => under name vs) ws := by
    induction names with
    | nil => exact fun _ _ => rfl
    | cons name names ih =>
      intro vs ws
      rw [List.foldl_cons, under, List.filterMap_append]
      exact ih (under name vs) (under name ws)
  rw [leading, placed, List.filterMap_append]
  exact hfold (placed before) (placed after)

def ofFile? : Option String → Option Configuration
  | none => some empty
  | some text => (Toml.read text).map empty.merge

/-- The file has the database as a table, if at all, and the environment addresses what is in it by
names: neither the database as a whole nor a place in it. -/
structure DatabaseByName (f : Configuration) (environment : List (String × String)) : Prop where
  file : ∀ c ∈ f.get? "database", c.IsTable
  environment : ByName (under "database" (placed environment))

section
variable {f : Configuration} {environment : List (String × String)}

private theorem get?_merge (name : String) : (f.merge (ofEnvironment environment)).get? name =
    lay (f.get? name) (under name (placed environment)) := by
  have hlay := get?_lay (placed_byName environment) name (some f)
  rwa [lay_merge] at hlay

private theorem standing_single (name : String) (c : Configuration) :
    standing [name] c = c.get? name := by
  show (c.get? name).bind some = _
  cases c.get? name <;> rfl

private theorem standing_pair (first second : String) (c : Configuration) :
    standing [first, second] c = (c.get? first).bind (·.get? second) := by
  show (c.get? first).bind (standing [second]) = _
  congr 1
  funext d
  exact standing_single second d

/-- The database is a table after the environment was merged in, too. -/
theorem DatabaseByName.merged (h : DatabaseByName f environment) :
    ∀ c ∈ (f.merge (ofEnvironment environment)).get? "database", c.IsTable := by
  rw [get?_merge]
  exact lay_isTable h.environment h.file

private theorem standing_database (h : DatabaseByName f environment) (name : String) :
    standing ["database", name] (f.merge (ofEnvironment environment)) =
      lay (standing ["database", name] f) (leading ["database", name] environment) := by
  rw [standing_pair, standing_pair, get?_merge, get?_lay h.environment]
  rfl

private theorem standing_top (name : String) :
    standing [name] (f.merge (ofEnvironment environment)) =
      lay (standing [name] f) (leading [name] environment) := by
  rw [standing_single, standing_single, get?_merge]
  rfl

end

end Configuration

/-! ## Settings -/

inductive Setting where
  | path
  | dialect
  | createIfMissing
  | logFilter
deriving DecidableEq

namespace Setting

def names : Setting → List String
  | path => ["database", "path"]
  | dialect => ["database", "dialect"]
  | createIfMissing => ["database", "create_if_missing"]
  | logFilter => ["log_filter"]

/-- The environment variable that supplies the setting. -/
def variableName : Setting → String
  | path => "TABLEGATE__DATABASE__PATH"
  | dialect => "TABLEGATE__DATABASE__DIALECT"
  | createIfMissing => "TABLEGATE__DATABASE__CREATE_IF_MISSING"
  | logFilter => "TABLEGATE__LOG_FILTER"

def Carrier : Setting → Type
  | path => String
  | dialect => Dialect
  | createIfMissing => Bool
  | logFilter => String

def read : (k : Setting) → Option Configuration → Option k.Carrier
  | path => Configuration.orDefault Configuration.text? ":memory:"
  | dialect => Configuration.orDefault Configuration.dialect? .sqlite
  | createIfMissing => Configuration.orDefault Configuration.flag? true
  | logFilter => Configuration.orDefault Configuration.text? "warn"

def of (settings : Settings) : (k : Setting) → k.Carrier
  | path => settings.database.path
  | dialect => settings.database.dialect
  | createIfMissing => settings.database.createIfMissing
  | logFilter => settings.logFilter

/-- A variable leads to its setting and to no other. -/
theorem leading_variable (k k' : Setting) (s : String) :
    Configuration.leading k'.names [(k.variableName, s)] = if k = k' then [([], s)] else [] := by
  cases k <;> cases k' <;> rfl

end Setting

namespace DatabaseSettings

private theorem ofParts_eq_some {path dialect createIfMissing : Option Configuration}
    {database : DatabaseSettings} (h : ofParts path dialect createIfMissing = some database) :
    Setting.path.read path = some database.path ∧
      Setting.dialect.read dialect = some database.dialect ∧
      Setting.createIfMissing.read createIfMissing = some database.createIfMissing := by
  obtain ⟨_, hpath, h⟩ := Option.bind_eq_some_iff.mp h
  obtain ⟨_, hdialect, h⟩ := Option.bind_eq_some_iff.mp h
  obtain ⟨_, hcreate, h⟩ := Option.bind_eq_some_iff.mp h
  obtain rfl := Option.some.inj h
  exact ⟨hpath, hdialect, hcreate⟩

end DatabaseSettings

namespace Settings

open RecordGateway.Configuration

variable {c f : Configuration} {settings : Settings}

theorem ofConfiguration_read (htable : ∀ d ∈ c.get? "database", d.IsTable)
    (h : ofConfiguration c = some settings) (k : Setting) :
    k.read (standing k.names c) = some (k.of settings) := by
  obtain ⟨database, hdatabase, h⟩ := Option.bind_eq_some_iff.mp h
  obtain ⟨logFilter, hlog, h⟩ := Option.bind_eq_some_iff.mp h
  obtain rfl := Option.some.inj h
  have hparts : Setting.path.read ((c.get? "database").bind (·.get? "path")) = some database.path ∧
      Setting.dialect.read ((c.get? "database").bind (·.get? "dialect")) = some database.dialect ∧
      Setting.createIfMissing.read ((c.get? "database").bind (·.get? "create_if_missing")) =
        some database.createIfMissing := by
    cases hd : c.get? "database" with
    | none =>
      rw [hd] at hdatabase
      obtain rfl := Option.some.inj hdatabase
      exact ⟨rfl, rfl, rfl⟩
    | some d =>
      obtain ⟨entries, rfl⟩ := htable d hd
      rw [hd] at hdatabase
      exact DatabaseSettings.ofParts_eq_some hdatabase
  cases k with
  | path => exact (congrArg _ (standing_pair ..)).trans hparts.1
  | dialect => exact (congrArg _ (standing_pair ..)).trans hparts.2.1
  | createIfMissing => exact (congrArg _ (standing_pair ..)).trans hparts.2.2
  | logFilter => exact (congrArg _ (standing_single ..)).trans hlog

private theorem load_eq_ok {file : Option String} {environment : List (String × String)}
    (hfile : ofFile? file = some f) (h : load file environment = .ok settings) :
    ofConfiguration (f.merge (ofEnvironment environment)) = some settings := by
  have hsources {entries : List (String × Configuration)}
      (h : ofSources entries environment = .ok settings) :
      ofConfiguration ((empty.merge entries).merge
        (ofEnvironment environment)) = some settings := by
    unfold ofSources at h
    split at h
    · next hread =>
      obtain rfl := Except.ok.inj h
      exact hread
    · cases h
  unfold load at h
  cases file with
  | none =>
    obtain rfl := Option.some.inj hfile
    exact hsources h
  | some text =>
    obtain ⟨entries, hentries, rfl⟩ := Option.map_eq_some_iff.mp hfile
    simp only [hentries] at h
    exact hsources h

/-- A setting is read from what stands at its names in the file, with the variables that lead to it
laid over that. -/
theorem load_read {file : Option String} {environment : List (String × String)}
    (hfile : ofFile? file = some f) (hload : load file environment = .ok settings)
    (hnames : DatabaseByName f environment) (k : Setting) :
    k.read (lay (standing k.names f)
      (leading k.names environment)) = some (k.of settings) := by
  have hread := ofConfiguration_read hnames.merged (load_eq_ok hfile hload) k
  cases k with
  | path => rwa [Setting.names, standing_database hnames] at hread
  | dialect => rwa [Setting.names, standing_database hnames] at hread
  | createIfMissing => rwa [Setting.names, standing_database hnames] at hread
  | logFilter => rwa [Setting.names, standing_top] at hread

/-- The two text settings come from the last variable that leads to them, read as the plainest value
and printed, else from the file, else they have their defaults. A variable leads to its own setting
and to no other, and a setting is the same whatever else the file and the environment supply. -/
theorem load_chosen {file : Option String} {environment : List (String × String)}
    (hfile : ofFile? file = some f) (hload : load file environment = .ok settings)
    (hnames : DatabaseByName f environment)
    (hpath : ∀ c ∈ standing Setting.path.names f, c.IsText)
    (hlog : ∀ c ∈ standing Setting.logFilter.names f, c.IsText) :
    Chosen ":memory:" (standing Setting.path.names f)
      (leading Setting.path.names environment) settings.database.path ∧
    Chosen "warn" (standing Setting.logFilter.names f)
      (leading Setting.logFilter.names environment) settings.logFilter ∧
    (∀ (k k' : Setting) (s : String) (before after : List (String × String)),
      leading k'.names (before ++ (k.variableName, s) :: after) =
        leading k'.names before ++ (if k = k' then [([], s)] else []) ++
          leading k'.names after) ∧
    ∀ file' f' environment' settings', ofFile? file' = some f' →
      load file' environment' = .ok settings' → DatabaseByName f' environment' →
        ∀ k : Setting, standing k.names f' = standing k.names f →
          leading k.names environment' = leading k.names environment →
            k.of settings' = k.of settings := by
  have hread := load_read hfile hload hnames
  refine ⟨chosen hpath (hread .path), chosen hlog (hread .logFilter),
    ?added, ?same⟩
  case added =>
    intro k k' s before after
    rw [List.append_cons, leading_append, leading_append, k.leading_variable]
  case same =>
    intro file' f' environment' settings' hfile' hload' hnames' k hs hl
    have hread' := load_read hfile' hload' hnames' k
    rw [hs, hl] at hread'
    exact Option.some.inj (hread'.symm.trans (hread k))

/-- A file that names a database, and an environment with a flag and a log filter. -/
theorem load_chosen_named : ∃ f, ofFile? (some "[database]\npath = \"app.db\"") = some f ∧
    load (some "[database]\npath = \"app.db\"") [("TABLEGATE__DATABASE__CREATE_IF_MISSING", "off"),
        ("TABLEGATE__LOG_FILTER", "007")] = .ok ⟨⟨"app.db", .sqlite, false⟩, "7"⟩ ∧
      Chosen ":memory:" (standing Setting.path.names f) [] "app.db" ∧
      Chosen "warn" (standing Setting.logFilter.names f) [([], "007")] "7" := by
  let text := "[database]\npath = \"app.db\""
  have hfile : ofFile? (some text) = some ((ofFile? (some text)).getD empty) := by
    have hsome : (ofFile? (some text)).isSome := by decide +kernel
    obtain ⟨f, hf⟩ := Option.isSome_iff_exists.mp hsome
    rw [hf, Option.getD_some]
  have hload : load (some text)
      [("TABLEGATE__DATABASE__CREATE_IF_MISSING", "off"), ("TABLEGATE__LOG_FILTER", "007")] =
        .ok ⟨⟨"app.db", .sqlite, false⟩, "7"⟩ := by decide +kernel
  have hnames : DatabaseByName ((ofFile? (some text)).getD empty)
      [("TABLEGATE__DATABASE__CREATE_IF_MISSING", "off"), ("TABLEGATE__LOG_FILTER", "007")] := by
    refine ⟨by decide +kernel, ?_⟩
    show ByName [([.key "create_if_missing"], "off")]
    intro v hv
    cases List.mem_singleton.mp hv
    exact ⟨_, _, rfl⟩
  have hpath : ∀ c ∈ standing Setting.path.names ((ofFile? (some text)).getD empty), c.IsText := by
    decide +kernel
  have hlog : ∀ c ∈ standing Setting.logFilter.names ((ofFile? (some text)).getD empty),
      c.IsText := by
    decide +kernel
  have hchosen := load_chosen hfile hload hnames hpath hlog
  exact ⟨_, hfile, hload, hchosen.1, hchosen.2.1⟩

/-- The text of a variable is not always what the setting becomes. A database may also be given by
position, and a variable may take the place of the whole database of the file. -/
theorem load_beyond_names :
    (¬∀ s settings, load (some "") [(Setting.path.variableName, s)] = .ok settings →
      settings.database.path = s) ∧
    load (some "database = [\"app.db\"]") [] = .ok ⟨⟨"app.db", .sqlite, true⟩, "warn"⟩ ∧
    load (some "[database]\npath = \"app.db\"") [("TABLEGATE__DATABASE", ""),
      ("TABLEGATE__DATABASE__DIALECT", "sqlite")] = .ok ⟨⟨":memory:", .sqlite, true⟩, "warn"⟩ := by
  refine ⟨fun h => ?_, by decide +kernel, by decide +kernel⟩
  have hload : load (some "") [(Setting.path.variableName, "+5")] =
      .ok ⟨⟨"5", .sqlite, true⟩, "warn"⟩ := by
    decide +kernel
  exact absurd (h _ _ hload) (by decide)

/-- A file of a log filter and a database with a path. -/
def namedDocument (path filter : String) : String :=
  String.ofList (Toml.document [("log_filter", filter)] [("database", [("path", path)])])

private theorem read_namedDocument {path filter : String} (hpath : Toml.IsLiteral path)
    (hfilter : Toml.IsLiteral filter) : Toml.read (namedDocument path filter) =
      some [("log_filter", .value (.text filter)),
        ("database", .table [("path", .value (.text path))])] := by
  have hkeys : Toml.IsBareKey "log_filter" ∧ Toml.IsBareKey "database" ∧ Toml.IsBareKey "path" :=
    ⟨⟨by decide, by decide⟩, ⟨by decide, by decide⟩, ⟨by decide, by decide⟩⟩
  have htop : Toml.IsTexts [("log_filter", filter)] :=
    ⟨by simp, List.forall_mem_singleton.mpr hkeys.1, List.forall_mem_singleton.mpr hfilter⟩
  have hinner : Toml.IsTexts [("path", path)] :=
    ⟨by simp, List.forall_mem_singleton.mpr hkeys.2.2, List.forall_mem_singleton.mpr hpath⟩
  have hdistinct : ["log_filter", "database"].Nodup := by decide
  exact Toml.documentRules.document htop (List.forall_mem_singleton.mpr ⟨hkeys.2.1, hinner⟩)
    hdistinct

/-- The texts of a file become the settings as they stand there. -/
theorem load_document {path filter : String} (hpath : Toml.IsLiteral path)
    (hfilter : Toml.IsLiteral filter) :
    load (some (namedDocument path filter)) [] = .ok ⟨⟨path, .sqlite, true⟩, filter⟩ := by
  have htop : Configuration.path "log_filter" = [.key "log_filter"] := by decide
  have htable : Configuration.path "database" = [.key "database"] := by decide
  have hlower : Text.lower "log_filter" = "log_filter" ∧ Text.lower "database" = "database" ∧
      Text.lower "path" = "path" := by decide
  have hmerge : empty.merge [("log_filter", .value (.text filter)),
      ("database", .table [("path", .value (.text path))])] =
        .table [("log_filter", .value (.text filter)),
          ("database", .table [("path", .value (.text path))])] := by
    simp [merge, put, htop, htable, hlower, overlay, overlayEntries, entries, empty, putEntry,
      entryAt]
  rw [load]
  simp only [read_namedDocument hpath hfilter, ofSources, hmerge]
  rfl

end Settings
end RecordGateway
