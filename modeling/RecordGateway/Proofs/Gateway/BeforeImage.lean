import RecordGateway.Proofs.Lists
import RecordGateway.Proofs.Session.Snapshots
import RecordGateway.Proofs.Session.States
import RecordGateway.Proofs.Store.Rewriting
/-!
# Rows found by their before-images

An object that was read from the store and is updated before any other statement runs: its update
finds a row that reads as the object exactly if every type that was asked for is faithful to the
cell it was read from.
-/
namespace RecordGateway

/-- Reading asks a record for the columns, and writing lists what was read under them. -/
def Mapping.Extracts {M : Type} (m : Mapping M) (columns : List (String × ColumnType)) : Prop :=
  ∀ record model, m.read record = .ok model →
    readColumns record columns .empty = .ok (m.write model)

private theorem Mapping.ofColumns_extracts (columns : List (String × ColumnType)) :
    (ofColumns columns).Extracts columns := fun _ _ h => h

namespace Gateway

section
variable {σ η M : Type} (c : Connection σ η) (m : Mapping M)

/-- A read of the gateway gave the object. -/
inductive Gives (g : Gateway M) (s : Shared σ) : Gateway M → Shared σ → Tracked M → Prop where
  | all {filters : List Filter} {order : List Ordered} {found : List (Tracked M)} {g' : Gateway M}
      {s' : Shared σ} {object : Tracked M}
      (read : g.findAll c m filters order s = (.ok found, g', s'))
      (given : object ∈ found) : Gives g s g' s' object
  | one {filters : List Filter} {order : List Ordered} {g' : Gateway M} {s' : Shared σ}
      {object : Tracked M} (read : g.findOne c m filters order s = (.ok (some object), g', s')) :
      Gives g s g' s' object

variable {c m}

private theorem mem_track {models : List M} {first : Token} {entry : Token × M}
    (h : entry ∈ track models first) : entry.2 ∈ models := by
  rw [← track_models models first]
  exact List.mem_map_of_mem h

theorem Gives.hydrated {g g' : Gateway M} {s s' : Shared σ} {object : Tracked M}
    (h : Gives c m g s g' s' object) : ∃ filters order taken models,
      (∀ records : List Record, taken records ⊆ records) ∧
      g.hydration c m taken filters order s.connection = .ok models ∧
      (g', s') = kept g s models (fetchAll c (selection g.table filters order) s.connection).2 ∧
      ∃ entry ∈ track models s.nextToken, object = attached entry := by
  cases h with
  | @all filters order found _ _ _ read given =>
    rw [findAll_eq] at read
    split at read
    · cases read
    · next models hmodels =>
      obtain ⟨hfound, hkept⟩ := Prod.mk.inj read
      obtain rfl := Except.ok.inj hfound
      obtain ⟨entry, hentry, rfl⟩ := List.mem_map.mp given
      exact ⟨filters, order, id, models, fun _ => List.Subset.refl _, hmodels, hkept.symm, entry,
        hentry, rfl⟩
  | @one filters order _ _ _ read =>
    rw [findOne_eq] at read
    split at read
    · cases read
    · next models hmodels =>
      obtain ⟨hfound, hkept⟩ := Prod.mk.inj read
      obtain ⟨entry, hentry, rfl⟩ := Option.map_eq_some_iff.mp (Except.ok.inj hfound)
      exact ⟨filters, order, List.take 1, models, fun _ => List.take_subset _ _, hmodels,
        hkept.symm, entry, List.mem_of_mem_head? hentry, rfl⟩

/-- No token of the gateway is to be drawn again. -/
def Drawn (g : Gateway M) (s : Shared σ) : Prop :=
  ∀ token ∈ g.snapshots.map Prod.fst, token < s.nextToken

theorem Gives.before {g g' : Gateway M} {s s' : Shared σ} {object : Tracked M}
    (h : Gives c m g s g' s' object) (hdrawn : g.Drawn s) :
    g'.table = g.table ∧ ∀ edited, g'.before? ⟨object.token, edited⟩ = some object.model := by
  obtain ⟨filters, order, taken, models, -, -, hkept, entry, hentry, rfl⟩ := h.hydrated
  obtain ⟨rfl, -⟩ := Prod.mk.inj hkept
  refine ⟨rfl, fun edited => ?_⟩
  have hnew : ∀ token ∈ (track models s.nextToken).map Prod.fst, s.nextToken ≤ token := by
    rw [track_tokens]
    exact fun token htoken => (List.mem_range'_1.mp htoken).1
  have hold : g.snapshots.lookup entry.1 = none := by
    rw [List.lookup_eq_none_iff]
    intro other hother
    have hlt := hdrawn other.1 (List.mem_map_of_mem hother)
    have hge := hnew entry.1 (List.mem_map_of_mem hentry)
    exact bne_iff_ne.mpr (Nat.ne_of_gt (Nat.lt_of_lt_of_le hlt hge))
  have hfound :
      Gateway.before? ⟨g.table, track models s.nextToken⟩ (attached entry) = some entry.2 := by
    refine (Session.before?_eq_some ?_ _ _).mpr ⟨entry.1, rfl, hentry⟩
    rw [track_tokens]
    exact List.nodup_range'
  simp only [before?, attached, Option.bind_some] at hfound ⊢
  rw [List.lookup_append, hold, Option.none_or, hfound]

end

/-- A read from a sound store changes nothing there, and the object that it gives was read of a
row of the table. -/
theorem Gives.of_row {M : Type} {m : Mapping M} {g g' : Gateway M} {s s' : Shared Store}
    {object : Tracked M} (h : Gives Store.connection m g s g' s' object)
    (hsound : s.connection.Sound) {name : String} (htable : Term.readName g.table = some name) :
    s'.connection = s.connection ∧ ∃ t, s.connection.table? name = some t ∧
      ∃ row ∈ t.rows, m.read (t.record row) = .ok object.model := by
  obtain ⟨filters, order, taken, models, htaken, hhydration, hkept, entry, hentry, rfl⟩ :=
    h.hydrated
  obtain ⟨-, rfl⟩ := Prod.mk.inj hkept
  unfold hydration at hhydration
  cases hfetch : fetchAll Store.connection (selection g.table filters order) s.connection with
  | mk result after =>
    rw [hfetch] at hhydration
    cases result with
    | error e => cases hhydration
    | ok records =>
      obtain ⟨query, hran⟩ :=
        Store.fetchAll_ran (selection_fits .sqlite g.table filters order) hfetch
      obtain ⟨hafter, t, ht, hrows⟩ := hran.selected hsound htable
      obtain ⟨record, hrecord, hread⟩ :=
        forall₂_mem_right (mapM_eq_ok.mp hhydration) entry.2 (mem_track hentry)
      obtain ⟨row, hrow, rfl⟩ := hrows record (htaken records hrecord)
      exact ⟨hafter, t, ht, row, hrow, hread⟩

/-- What an update does to a table, when the object was read of it as `before` and is `current`
now. The query is the one that the store reads in the text sent; the answer is that the update is
done, however many rows have passed the WHERE clause. -/
structure Updates {M : Type} (m : Mapping M) (columns : List (String × ColumnType))
    (table : String) (before current : M) (query : Query) (t t' : Table) (answer : Bool)
    (changes : Nat) : Prop where
  answered : answer = true
  sent : ∃ compiled,
    (replacement table (m.write before) (m.write current)).statement.compile .sqlite =
    .ok compiled ∧ Query.read .all compiled.sql = .ok query
  counted : changes = (t.rows.filter (Store.meets t
    (replacement table (m.write before) (m.write current)).binds.entries query.filter)).length
  /-- A row that reads as the object is there. -/
  present : ∃ row ∈ t.rows, m.read (t.record row) = .ok before
  /-- Such a row is found exactly if every type is faithful to its cell. -/
  found : ∀ row ∈ t.rows, m.read (t.record row) = .ok before →
    (Store.meets t (replacement table (m.write before) (m.write current)).binds.entries
      query.filter row ↔ t.Faithful columns row)
  rewritten : ∀ row ∈ t.rows,
    if Store.meets t (replacement table (m.write before) (m.write current)).binds.entries
        query.filter row then
      ∃ row' ∈ t'.rows, t.Rewrites (m.write current) row row'
    else row ∈ t'.rows

/-- An object that was read from the store is updated before any other statement runs, whatever
its fields have become. -/
theorem update_after_read {M : Type} {m : Mapping M} {columns : List (String × ColumnType)}
    (hextracts : m.Extracts columns) (hclock : ∀ column ∈ columns, Term.asksClock column.1 = false)
    {g g' : Gateway M} {name : String} (htable : Term.readName g.table = some name)
    {s s' : Shared Store} (hsound : s.connection.Sound) (hdrawn : g.Drawn s)
    {object : Tracked M} (hread : Gives Store.connection m g s g' s' object) {current : M}
    {answer : Bool} {after : Store}
    (hupdate : g'.update Store.connection m ⟨object.token, current⟩ s'.connection =
      (.ok answer, after)) :
    ∃ query t t', s.connection.table? name = some t ∧ after.table? name = some t' ∧
      Updates m columns g.table object.model current query t t' answer after.changes := by
  obtain ⟨hsame, hbefore⟩ := hread.before hdrawn
  obtain ⟨hstore, t, ht, hrow⟩ := hread.of_row hsound htable
  rw [update_known _ _ _ _ _ (hbefore current), hstore, hsame] at hupdate
  cases hexecute : execute Store.connection
      (replacement g.table (m.write object.model) (m.write current)) s.connection with
  | mk result last =>
    rw [hexecute] at hupdate
    cases result with
    | error e => cases hupdate
    | ok count =>
      cases hupdate
      obtain ⟨⟨query, hran⟩, -⟩ := Store.execute_ran
        (replacement_fits .sqlite g.table (m.write object.model) (m.write current)) hexecute
      obtain ⟨compiled, hcompile, hunderstand⟩ := hran.understood
      obtain ⟨t₁, ht₁, hcount, t', ht', hrewritten⟩ := hran.updated_rows hsound htable
      obtain rfl : t₁ = t := Option.some.inj (ht₁.symm.trans ht)
      exact ⟨query, t₁, t', ht₁, ht',
        { answered := rfl
          sent := ⟨compiled, hcompile, (Store.understand_eq_ok.mp hunderstand).1⟩
          counted := hcount
          present := hrow
          found := fun row hrow hmodel => Store.finds_read htable hran
            (hsound.table? ht₁) hrow hclock
            (hextracts _ _ hmodel)
          rewritten := hrewritten }⟩

end Gateway

/-- Whatever a session over a sound store has done, its store is sound and no token of its
gateways is to be drawn again. -/
theorem Session.runAll_ready {M : Type} (m : Nat → Mapping M) {store : Store} (hsound : store.Sound)
    (tables : List String) (commands : List (Command M)) :
    ((start store tables).runAll Store.connection m commands).shared.connection.Sound ∧
      ∀ g ∈ ((start store tables).runAll Store.connection m commands).gateways,
        g.Drawn ((start store tables).runAll Store.connection m commands).shared :=
  ⟨Store.connection_keeps.runAll m hsound commands,
    (runAll_wellTracked Store.connection m (start_wellTracked store tables) commands).drawn⟩

namespace Gateway

/-! ## A truth value that was stored as a number -/

/-- A row with the number one under `k` and a number for the truth value under `v`. -/
def flagStore (v : Int64) : Store :=
  ⟨[⟨"flags", [⟨"k", "INT", false⟩, ⟨"v", "BOOL", false⟩], none, [⟨1, [.integer 1, .integer v]⟩]⟩],
    [], 1, 1⟩

def flagColumns : List (String × ColumnType) := [("k", .int64), ("v", .boolean)]

def flag (k : Int64) (v : Bool) : Record := .ofList [("k", .integer k), ("v", .boolean v)]

/-- The gateway over the table, after it has read the row. -/
def flagGateway : Gateway Record := ⟨"flags", [(1, flag 1 true)]⟩

private theorem flagStore_sound (v : Int64) : (flagStore v).Sound := by
  have hnames : (List.map (fun c : Column => Text.lower c.name)
      [⟨"k", "INT", false⟩, ⟨"v", "BOOL", false⟩]).Nodup := by decide
  have hk : (Column.affinity ⟨"k", "INT", false⟩).isNumeric = true := by decide
  have hv : (Column.affinity ⟨"v", "BOOL", false⟩).isNumeric = true := by decide
  intro t ht
  obtain rfl := List.mem_singleton.mp ht
  refine ⟨?_, by simp, by simp, ?_⟩
  · exact hnames
  intro row hrow
  obtain rfl := List.mem_singleton.mp hrow
  refine ⟨rfl, fun c cell hmem => ?_⟩
  rcases List.mem_cons.mp hmem with heq | hmem
  · obtain ⟨rfl, rfl⟩ := Prod.mk.inj heq
    exact Affinity.keeps_integer hk 1
  · obtain ⟨rfl, rfl⟩ := Prod.mk.inj (List.mem_singleton.mp hmem)
    exact Affinity.keeps_integer hv v

private theorem gives_flag {v : Int64}
    (h : fetchAll Store.connection (selection "flags" [] []) (flagStore v) =
      (.ok [.ofList [("k", .integer 1), ("v", .integer v)]], flagStore v))
    (hread : (Mapping.ofColumns flagColumns).read (.ofList [("k", .integer 1), ("v", .integer v)]) =
      .ok (flag 1 true)) :
    Gives Store.connection (.ofColumns flagColumns) (overTable "flags") ⟨flagStore v, 1⟩
      flagGateway ⟨flagStore v, 2⟩ ⟨some 1, flag 1 true⟩ := by
  have hfind : findOne Store.connection (.ofColumns flagColumns) (overTable "flags") [] []
      ⟨flagStore v, 1⟩ = (.ok (some ⟨some 1, flag 1 true⟩), flagGateway, ⟨flagStore v, 2⟩) := by
    rw [findOne]
    simp only [overTable, h, hread]
    rfl
  exact .one hfind

private theorem update_flag {v : Int64} {count : Nat} {after : Store}
    (h : execute Store.connection (replacement "flags" (flag 1 true) (flag 2 true)) (flagStore v) =
      (.ok count, after)) :
    flagGateway.update Store.connection (.ofColumns flagColumns) ⟨some 1, flag 2 true⟩
    (flagStore v) =
      (.ok true, after) := by
  have hbefore : flagGateway.before? ⟨some 1, flag 2 true⟩ = some (flag 1 true) := rfl
  rw [update_known _ _ _ _ _ hbefore]
  have hexecute : execute Store.connection (replacement flagGateway.table
      ((Mapping.ofColumns flagColumns).write (flag 1 true))
      ((Mapping.ofColumns flagColumns).write (flag 2 true))) (flagStore v) = (.ok count, after) := h
  rw [hexecute]
  rfl

/-- The truth value of the row is one: the row is found and rewritten. -/
theorem update_after_read_flag : ∃ query t t', (flagStore 1).table? "flags" = some t ∧
    Store.table? ⟨[⟨"flags", [⟨"k", "INT", false⟩, ⟨"v", "BOOL", false⟩], none,
      [⟨1, [.integer 2, .integer 1]⟩]⟩], [], 1, 1⟩ "flags" = some t' ∧
    Updates (.ofColumns flagColumns) flagColumns "flags" (flag 1 true) (flag 2 true) query t t' true
      1 :=
  update_after_read (Mapping.ofColumns_extracts flagColumns) (by decide)
    (g := overTable "flags") (by decide) (s := ⟨flagStore 1, 1⟩) (flagStore_sound 1)
    (by simp [Drawn, overTable])
    (gives_flag (eq_ok (by decide +kernel) (by decide +kernel)) rfl)
    (update_flag (eq_ok (a := 1) (by decide +kernel) (by decide +kernel)))

/-- The truth value of the row is five: the object is read as true, its update does not find the
row and answers that it is done. -/
theorem update_loses_flag :
    Gives Store.connection (.ofColumns flagColumns) (overTable "flags") ⟨flagStore 5, 1⟩
      flagGateway ⟨flagStore 5, 2⟩ ⟨some 1, flag 1 true⟩ ∧
    flagGateway.update Store.connection (.ofColumns flagColumns) ⟨some 1, flag 2 true⟩
    (flagStore 5) =
      (.ok true, { flagStore 5 with changes := 0 }) :=
  ⟨gives_flag (eq_ok (by decide +kernel) (by decide +kernel)) rfl,
    update_flag (eq_ok (a := 0) (by decide +kernel) (by decide +kernel))⟩

end Gateway
end RecordGateway
