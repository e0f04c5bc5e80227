import RecordGateway.Proofs.Connection.Calls
import RecordGateway.Proofs.Store.Inserting
import RecordGateway.Proofs.Store.Removing
/-!
# Models that are created and deleted

A delete takes the rows that agree with a model in every column.
-/
namespace RecordGateway

private theorem Table.Agrees.alike {t u : Table} (h : t.Alike u) {row : Row}
    {entry : String × Value} :
    u.Agrees row entry ↔ t.Agrees row entry := by
  rw [h.eq_withRows]
  rfl

namespace Gateway

variable {M : Type} (g : Gateway M) (m : Mapping M) (model : M)

theorem delete_clears {store : Store} {name : String} {t : Table} (hsound : t.Sound)
    (htable : Term.readName g.table = some name) (ht : store.table? name = some t)
    (hnames : (m.write model).Names t)
    (hfew : (m.write model).entries.length < Refusal.maxDepth) :
    ∃ count deleted left, g.delete Store.connection m model store = (.ok count, deleted) ∧
      deleted.table? name = some left ∧ (m.write model).Clears t left count := by
  have hleft : (store.withTable ((m.write model).left t)).table? name =
    some ((m.write model).left t) :=
    Store.withTable_table? ht rfl
  rw [delete, hnames.execute htable ht hfew]
  exact ⟨_, _, _, rfl, hleft, hnames.clears hsound⟩

/-- What a delete of a record does to a table with a row that the record was created as. -/
structure TakesBack (record : Record) (t left : Table) (row : Row) (count : Nat) : Prop where
  clears : record.Clears t left count
  taken : (∀ e ∈ record.entries, e.2.isNaN = false) → 1 ≤ count ∧ row ∉ left.rows
  missed : (∃ e ∈ record.entries, e.2.isNaN = true) → count = 0 ∧ left.rows = t.rows

private theorem TakesBack.of_clears {record : Record} {t u left : Table} {count : Nat}
    {id : Int64} (h : record.Clears u left count) (hsound : u.Sound) (halike : t.Alike u)
    (huntyped : t.Untyped) (hover : record.Over t) (hrow : record.row t id ∈ u.rows) :
    TakesBack record u left (record.row t id) count := by
  refine ⟨h, fun hnumbers => h.taken hrow fun e he => ?_,
    fun hnan => h.missed hsound fun row hagrees => ?_⟩
  · rw [Table.Agrees.alike halike, hover.row_agrees huntyped he]
    exact hnumbers e he
  · -- No cell of any row matches a NaN.
    obtain ⟨e, he, hnan⟩ := hnan
    obtain ⟨a, cell, -, hmatches⟩ := hagrees e he
    rw [hmatches.not_nan] at hnan
    cases hnan

/-- A record of which a delete can be made: it has fewer columns than an expression has levels, and
none of them is written as a word by which an expression of its own starts. -/
structure Deletable (record : Record) : Prop where
  opens : ∀ e ∈ record.entries, Term.opens (quoteIdentifier e.1) = false
  few : record.entries.length < Refusal.maxDepth

/-- A record that was inserted and of which no delete can be made is not deleted. -/
theorem removal_refused_of_inserted {store after created : Store} {table name : String}
    (htable : Term.readName table = some name) {record : Record} {query : Query} {t : Table}
    (hran : store.Ran (insertion table record) query [] after) (hover : record.Over t)
    (h : ¬Deletable record) :
    ∃ e, execute Store.connection (removal table record) created = (.error e, created) := by
  apply removal_refused htable
  by_cases hopens : ∀ e ∈ record.entries, Term.opens (quoteIdentifier e.1) = false
  · refine .inr ⟨⟨t, fun e he => ⟨?_, hover.columns e he⟩⟩, ?_⟩
    · exact hran.inserted_names htable he (hover.clock e he) (hopens e he)
    · exact Nat.not_lt.mp fun hfew => h ⟨hopens, hfew⟩
  · push Not at hopens
    obtain ⟨e, he, hopen⟩ := hopens
    have hname := (hran.inserted htable).1 e he
    exact .inl ⟨e, he, (Term.read_eq_none_iff hname).mpr (Bool.not_eq_false _ ▸ hopen)⟩

/-- Where columns keep what they are given, a model that was created and is deleted at once takes
the rows that agree with it in every column, and with them its own, unless it has a NaN: then no
row agrees, and its own stays. -/
theorem delete_after_create {store created : Store} (hsound : store.Sound) {name : String}
    {t : Table}
    (htable : Term.readName g.table = some name) (ht : store.table? name = some t)
    (huntyped : t.Untyped) (hover : (m.write model).Over t) {id : Int64}
    (hcreate : g.create Store.connection m model store = (.ok id, created)) :
    ∃ row t', created.table? name = some t' ∧ row.id = id ∧ id ∉ t.rows.map Row.id ∧
      t'.rows.Perm (row :: t.rows) ∧
      (Deletable (m.write model) → ∃ count deleted left,
        g.delete Store.connection m model created = (.ok count, deleted) ∧
          deleted.table? name = some left ∧ TakesBack (m.write model) t' left row count) ∧
      (¬Deletable (m.write model) →
        ∃ e, g.delete Store.connection m model created = (.error e, created)) := by
  unfold create at hcreate
  split at hcreate
  · cases hcreate
  · next count after hexecute =>
    obtain ⟨hid, rfl⟩ := Prod.mk.inj hcreate
    obtain rfl : after.lastRowId = id := Except.ok.inj hid
    obtain ⟨⟨query, hran⟩, -⟩ :=
      Store.execute_ran (insertion_fits .sqlite g.table (m.write model)) hexecute
    obtain ⟨t₁, t', ht₁, ht', halike, hperm, hfree⟩ := hran.inserted_row htable
    obtain rfl : t₁ = t := Option.some.inj (ht₁.symm.trans ht)
    have hafter : after.Sound := by
      have hperform := Store.perform_sound hsound
        (insertion g.table (m.write model)).binds.entries query
      rwa [hran.performed] at hperform
    refine ⟨_, t', ht', rfl, hfree, hperm, fun hdeletable => ?_, fun hnot => ?_⟩
    · have hrow : (m.write model).row t₁ after.lastRowId ∈ t'.rows :=
        hperm.mem_iff.mpr (List.mem_cons_self ..)
      have hnames : (m.write model).Names t' := by
        intro e he
        refine ⟨hran.inserted_names htable he (hover.clock e he) (hdeletable.opens e he), ?_⟩
        rw [Table.HasColumn, halike.columns]
        exact hover.columns e he
      obtain ⟨count, deleted, left, hdelete, hleft, hclears⟩ :=
        delete_clears g m model (hafter.table? ht') htable ht' hnames hdeletable.few
      exact ⟨count, deleted, left, hdelete, hleft,
        TakesBack.of_clears hclears (hafter.table? ht') halike huntyped hover hrow⟩
    · obtain ⟨e, hexecute⟩ := removal_refused_of_inserted htable hran hover hnot
      rw [delete, hexecute]
      exact ⟨_, rfl⟩

/-- A table of two columns without types. -/
def untypedTable (rows : List Row) : Table :=
  ⟨"kv", [⟨"k", "", false⟩, ⟨"v", "", false⟩], none, rows⟩

def untypedStore (rows : List Row) (last : Int64) (changes : Nat) : Store :=
  ⟨[untypedTable rows], [], last, changes⟩

private theorem untypedTable_untyped (rows : List Row) : (untypedTable rows).Untyped := by
  have haffinity : ∀ c ∈ (untypedTable []).columns, c.affinity = .blob := by decide
  exact ⟨haffinity, rfl⟩

def blankFlag : Record := .ofList [("k", .null), ("v", .boolean true)]

def unnumbered : Record := .ofList [("k", .text "a"), ("v", .real ⟨0x7FF8000000000000⟩)]

/-- The row of a null and a truth value is taken back, beside one that has the null only. -/
theorem delete_after_create_flag : ∃ row t' count deleted left,
    (untypedStore [⟨1, [.null, .integer 0]⟩, ⟨2, [.null, .integer 1]⟩] 2 1).table? "kv" = some t' ∧
    t'.rows.Perm [row, ⟨1, [.null, .integer 0]⟩] ∧
    (overTable "kv").delete Store.connection .identity blankFlag
      (untypedStore [⟨1, [.null, .integer 0]⟩, ⟨2, [.null, .integer 1]⟩] 2 1) =
        (.ok count, deleted) ∧
    deleted.table? "kv" = some left ∧ TakesBack blankFlag t' left row count := by
  have hname : Term.readName (overTable (M := Record) "kv").table = some "kv" := by decide
  have htable : (untypedStore [⟨1, [.null, .integer 0]⟩] 1 1).table? "kv" =
      some (untypedTable [⟨1, [.null, .integer 0]⟩]) := by decide
  have hsound : (untypedStore [⟨1, [.null, .integer 0]⟩] 1 1).Sound := by
    intro t ht
    obtain rfl := List.mem_singleton.mp ht
    exact (untypedTable_untyped _).sound (by decide) (by decide) (by decide)
  have hover : blankFlag.Over (untypedTable [⟨1, [.null, .integer 0]⟩]) :=
    ⟨by decide, by decide, by decide⟩
  have hcreate : (overTable "kv").create Store.connection .identity blankFlag
      (untypedStore [⟨1, [.null, .integer 0]⟩] 1 1) =
        (.ok 2, untypedStore [⟨1, [.null, .integer 0]⟩, ⟨2, [.null, .integer 1]⟩] 2 1) :=
    eq_ok (by decide +kernel) (by decide +kernel)
  obtain ⟨row, t', ht', -, -, hperm, htaken, -⟩ :=
    delete_after_create (overTable "kv") .identity blankFlag hsound hname htable
      (untypedTable_untyped _) hover hcreate
  obtain ⟨count, deleted, left, hdelete, hleft, htakes⟩ := htaken ⟨by decide, by decide⟩
  exact ⟨row, t', count, deleted, left, ht', hperm, hdelete, hleft, htakes⟩

/-- A row with a NaN is created, and the delete of the same record does not find it. -/
theorem delete_misses_nan :
    (overTable "kv").create Store.connection .identity unnumbered (untypedStore [] 0 0) =
      (.ok 1, untypedStore [⟨1, [Store.textCell "a", .null]⟩] 1 1) ∧
    (overTable "kv").delete Store.connection .identity unnumbered
        (untypedStore [⟨1, [Store.textCell "a", .null]⟩] 1 1) =
      (.ok 0, untypedStore [⟨1, [Store.textCell "a", .null]⟩] 1 0) :=
  ⟨eq_ok (by decide +kernel) (by decide +kernel), eq_ok (by decide +kernel) (by decide +kernel)⟩

end Gateway
end RecordGateway
