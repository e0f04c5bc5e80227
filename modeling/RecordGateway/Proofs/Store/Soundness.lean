import RecordGateway.Proofs.Store.Tables
import RecordGateway.Store
/-!
# Sound stores

A store is sound if its tables are. No cell that a statement computes or is given is a NaN, so
whatever runs, a sound store stays sound.
-/
namespace RecordGateway

theorem Text.sameName_iff {s t : String} : Text.sameName s t = true ↔ Text.lower s = Text.lower t :=
  beq_iff_eq

/-! ## Settled cells -/

private theorem Cell.settle_settle (cell : Cell) : cell.settle.settle = cell.settle := by
  cases cell with
  | real x => cases h : x.isNaN <;> simp [settle, h]
  | null => rfl
  | integer i => rfl
  | text bytes => rfl
  | blob bytes => rfl

namespace Affinity

private theorem leadingNumber_settled (bytes : Bytes) :
    (∃ i, leadingNumber bytes = .integer i) ∨
      ∃ x, leadingNumber bytes = .real x ∧ x.isNaN = false := by
  simp only [leadingNumber]
  split
  · exact .inl ⟨_, rfl⟩
  · cases Decimal.read? (numberPart ((Bytes.toText bytes).toList.dropWhile Text.isAsciiBlank)) with
    | none => exact .inl ⟨0, rfl⟩
    | some d => exact .inr ⟨d.nearby, rfl, Decimal.nearby_not_nan d⟩

private theorem negated_settled {cell : Cell} (h : cell.settle = cell) :
    (negated cell).settle = negated cell := by
  have hinteger (i : Int64) : (negated.negatedInteger i).settle = negated.negatedInteger i := by
    unfold negated.negatedInteger
    split
    · exact Cell.settled_real.mpr (Binary64.ofInt_not_nan _)
    · rfl
  have hreal {x : Binary64} (hx : x.isNaN = false) :
      (negated.negatedReal x).settle = negated.negatedReal x := by
    refine Cell.settled_real.mpr ?_
    split
    · exact Binary64.ofInt_not_nan _
    · exact Binary64.neg_not_nan hx
  have hnumber (bytes : Bytes) :
      (negated.negatedNumber bytes).settle = negated.negatedNumber bytes := by
    unfold negated.negatedNumber
    rcases leadingNumber_settled bytes with ⟨i, hi⟩ | ⟨x, hx, hnan⟩
    · rw [hi]; exact hinteger i
    · rw [hx]; exact hreal hnan
  cases cell with
  | null => rfl
  | integer i => exact hinteger i
  | real x => exact hreal (Cell.settled_real.mp h)
  | text bytes => exact hnumber bytes
  | blob bytes => exact hnumber bytes

end Affinity

def Term.Settled : Term → Prop
  | .column _ => True
  | .columnOr _ otherwise => otherwise.settle = otherwise
  | .parameter _ => True
  | .constant cell => cell.settle = cell
  | .signed _ term => term.Settled

namespace Term

private theorem readNumber_settled {cs : List Char} {cell : Cell} (h : readNumber cs = some cell) :
    cell.settle = cell := by
  unfold readNumber at h
  split at h
  · obtain rfl := Option.some.inj h
    rfl
  · obtain ⟨d, -, rfl⟩ := Option.map_eq_some_iff.mp h
    exact Cell.settled_real.mpr (Decimal.nearby_not_nan d)

private theorem readColumn_settled {word : String} {term : Term} (h : readColumn word = some term) :
    term.Settled := by
  unfold readColumn at h
  split at h
  · obtain rfl := Option.some.inj h
    trivial
  · split at h
    · obtain rfl := Option.some.inj h
      trivial
    · cases h
  · cases h

private theorem readWord_settled {cs : List Char} {term : Term} (h : readWord cs = some term) :
    term.Settled := by
  unfold readWord at h
  simp only at h
  split at h
  · obtain rfl := Option.some.inj h
    rfl
  · obtain rfl := Option.some.inj h
    rfl
  · obtain rfl := Option.some.inj h
    rfl
  · split at h
    · obtain rfl := Option.some.inj h
      rfl
    · split at h
      · cases h
      · exact readColumn_settled h

private theorem readUnsigned_settled {cs : List Char} {term : Term}
    (h : readUnsigned cs = some term) :
    term.Settled := by
  unfold readUnsigned at h
  split at h
  · cases h
  · split at h
    · obtain rfl := Option.some.inj h
      trivial
    · cases h
  · obtain ⟨cs, -, rfl⟩ := Option.map_eq_some_iff.mp h
    rfl
  · obtain ⟨cs, -, rfl⟩ := Option.map_eq_some_iff.mp h
    rfl
  · split at h
    · obtain ⟨cs, -, hbytes⟩ := Option.bind_eq_some_iff.mp h
      obtain ⟨bytes, -, rfl⟩ := Option.map_eq_some_iff.mp hbytes
      rfl
    · split at h
      · obtain ⟨cell, hcell, rfl⟩ := Option.map_eq_some_iff.mp h
        exact readNumber_settled hcell
      · exact readWord_settled h

private theorem read_settled {s : String} {term : Term} (h : read s = some term) :
    term.Settled := by
  have hsigned (signs : List Bool) {inner : Term} (hinner : inner.Settled) :
      (signs.foldr signed inner).Settled := by
    induction signs with
    | nil => exact hinner
    | cons sign signs ih => exact ih
  unfold read at h
  simp only at h
  split at h
  · next cell hcell =>
    obtain rfl := Option.some.inj h
    exact readNumber_settled hcell
  · generalize takeSigns _ = taken at h
    obtain ⟨signs, body⟩ := taken
    obtain ⟨inner, hinner, rfl⟩ := Option.map_eq_some_iff.mp h
    exact hsigned signs (readUnsigned_settled hinner)

end Term

def Frame.Settled (frame : Frame) : Prop := ∀ e ∈ frame, e.2.2.settle = e.2.2

private theorem Frame.Settled.find? {frame : Frame} (h : frame.Settled) {name : String}
    {entry : Affinity × Cell} (hentry : frame.find? name = some entry) :
    entry.2.settle = entry.2 := by
  obtain ⟨e, he, rfl⟩ := Option.map_eq_some_iff.mp hentry
  exact h e (List.mem_of_find?_eq_some he)

private theorem Term.eval_settled {parameters : Assignment} {frame : Frame} (hframe : frame.Settled)
    {term : Term} (hterm : term.Settled) :
    (term.eval parameters frame).2.settle = (term.eval parameters frame).2 := by
  induction term with
  | column name =>
    rw [eval]
    cases hfind : frame.find? name with
    | none => rfl
    | some entry => exact hframe.find? hfind
  | columnOr name otherwise =>
    rw [eval]
    cases hfind : frame.find? name with
    | none => exact hterm
    | some entry => exact hframe.find? hfind
  | parameter name => exact Cell.settle_settle _
  | constant cell => exact hterm
  | signed minus term ih =>
    have hinner := ih hterm
    cases minus with
    | false => exact hinner
    | true => exact Affinity.negated_settled hinner

private theorem evalText_settled {frame : Frame} (hframe : frame.Settled) (parameters : Assignment)
    (s : String) : (evalText parameters frame s).2.settle = (evalText parameters frame s).2 := by
  unfold evalText
  split
  · next term hterm => exact Term.eval_settled hframe (Term.read_settled hterm)
  · rfl

/-! ## Writes -/

namespace Table

private theorem frame_settled {t : Table} {row : Row} (h : t.Fits row) : (t.frame row).Settled := by
  have hown : Frame.Settled ((t.columns.zip row.cells).map
      (fun e => (e.1.name, e.1.affinity, e.2)) ++
      idNames.map fun name => (name, .integer, .integer row.id)) := by
    intro e he
    rcases List.mem_append.mp he with he | he
    · obtain ⟨⟨c, cell⟩, hmem, rfl⟩ := List.mem_map.mp he
      exact (h.kept c cell hmem).settled
    · obtain ⟨name, -, rfl⟩ := List.mem_map.mp he
      rfl
  intro e he
  rcases List.mem_append.mp he with he | he
  · exact hown e he
  · obtain ⟨own, hmem, rfl⟩ := List.mem_map.mp he
    exact hown own hmem

end Table

namespace Store

private theorem termCells_settled {frame : Frame} (hframe : frame.Settled) (parameters : Assignment)
    (given : List (String × String)) :
    ∀ e ∈ termCells parameters frame given, e.2.settle = e.2 := by
  rw [termCells, List.forall_mem_map]
  exact fun e _ => evalText_settled hframe parameters e.2

private theorem firstCell_mem {given : List (String × Cell)} {name : String} {cell : Cell}
    (h : firstCell given name = some cell) : ∃ e ∈ given, e.2 = cell := by
  obtain ⟨e, he, rfl⟩ := Option.map_eq_some_iff.mp h
  exact ⟨e, List.mem_of_find?_eq_some he, rfl⟩

private theorem insert_sound {t t' : Table} (hsound : t.Sound) {parameters : Assignment}
    {columns values : List String} {id : Int64}
    (h : insert t parameters columns values = .ok (id, t')) : t'.Sound ∧ t.Alike t' := by
  have hempty : Frame.Settled [] := by simp [Frame.Settled]
  have hgiven := termCells_settled hempty parameters (columns.zip values)
  refine Table.insert_sound hsound (by simp) (fun cell hcell => ?_) h
  obtain ⟨c, -, rfl⟩ := List.mem_map.mp hcell
  cases hfirst : firstCell (termCells parameters [] (columns.zip values)) c.name with
  | none => rfl
  | some cell =>
    obtain ⟨e, he, rfl⟩ := firstCell_mem hfirst
    exact hgiven e he

section
variable {t t' : Table} {parameters : Assignment} {sets : List (String × String)}

private theorem assign_sound (hsound : t.Sound) {row : Row} (hrow : t.Fits row)
    (h : assign parameters sets t row = .ok t') : t'.Sound ∧ t.Alike t' := by
  have hgiven := termCells_settled (Table.frame_settled hrow) parameters sets
  refine Table.replace_sound hsound (by simp [hrow.width]) (fun cell hcell => ?_) h
  obtain ⟨⟨c, old⟩, hmem, rfl⟩ := List.mem_map.mp hcell
  cases hlast : lastCell (termCells parameters (t.frame row) sets) c.name with
  | none => simpa [hlast] using (hrow.kept c old hmem).settled
  | some cell =>
    obtain ⟨e, he, rfl⟩ := firstCell_mem hlast
    simpa [hlast] using hgiven e (List.mem_reverse.mp he)

theorem assigns_sound (rows : List Row) {t t' : Table} (hsound : t.Sound)
    (hrows : ∀ row ∈ rows, t.Fits row) (h : rows.foldlM (assign parameters sets) t = .ok t') :
    t'.Sound ∧ t.Alike t' := by
  induction rows generalizing t with
  | nil =>
    obtain rfl : t = t' := Except.ok.inj h
    exact ⟨hsound, .refl t⟩
  | cons row rows ih =>
    obtain ⟨hrow, hrows⟩ := List.forall_mem_cons.mp hrows
    rw [List.foldlM_cons] at h
    obtain ⟨next, hassign, h⟩ := except_bind_eq_ok.mp h
    obtain ⟨hnext, halike⟩ := assign_sound hsound hrow hassign
    obtain ⟨hlast, hothers⟩ := ih hnext (fun r hr => (hrows r hr).alike halike) h
    exact ⟨hlast, halike.trans hothers⟩

variable {filter : Option Predicate} {count : Nat}

theorem update_eq_ok (h : update t parameters sets filter = .ok (count, t')) :
    ∃ rows, rows = t.rows.filter (meets t parameters filter) ∧ count = rows.length ∧
      rows.foldlM (assign parameters sets) t = .ok t' := by
  unfold update at h
  simp only at h
  cases hfold : (t.rows.filter (meets t parameters filter)).foldlM (assign parameters sets) t with
  | error violation => rw [hfold] at h; cases h
  | ok changed =>
    rw [hfold] at h
    obtain ⟨rfl, rfl⟩ := Prod.mk.inj (Except.ok.inj h)
    exact ⟨_, rfl, rfl, hfold⟩

private theorem update_sound (hsound : t.Sound)
    (h : update t parameters sets filter = .ok (count, t')) :
    t'.Sound ∧ t.Alike t' := by
  obtain ⟨rows, rfl, -, hfold⟩ := update_eq_ok h
  exact assigns_sound _ hsound (fun row hrow => hsound.rows row (List.mem_filter.mp hrow).1) hfold

private theorem delete_sound (hsound : t.Sound) (parameters : Assignment)
    (filter : Option Predicate) :
    (delete t parameters filter).2.Sound ∧ t.Alike (delete t parameters filter).2 := by
  have hleft : (t.rows.partition (meets t parameters filter)).2.Sublist t.rows := by
    rw [List.partition_eq_filter_filter]
    exact List.filter_sublist
  exact ⟨hsound.withRows ((hleft.map Row.id).nodup hsound.ids)
    fun row hrow => hsound.rows row (hleft.subset hrow), .withRows t _⟩

end

/-! ## Statements -/

def Sound (store : Store) : Prop := ∀ t ∈ store.tables, t.Sound

theorem empty_isSound : empty.Sound := by simp [Sound, empty]

theorem Sound.table? {store : Store} (h : store.Sound) {name : String} {t : Table}
    (ht : store.table? name = some t) : t.Sound := h t (List.mem_of_find?_eq_some ht)

private theorem Sound.withTable {store : Store} (h : store.Sound) {t : Table} (ht : t.Sound) :
    (store.withTable t).Sound := by
  intro t' ht'
  obtain ⟨old, hold, rfl⟩ := List.mem_map.mp ht'
  split
  · exact ht
  · exact h old hold

private theorem table?_name {store : Store} {name : String} {t : Table}
    (h : store.table? name = some t) :
    Text.lower t.name = Text.lower name := by
  have hfound := List.find?_some h
  exact Text.sameName_iff.mp hfound

theorem withTable_table? {store : Store} {t t' : Table} {name : String}
    (ht : store.table? name = some t) (hname : t'.name = t.name) :
    (store.withTable t').table? name = some t' := by
  have hlower : Text.lower t'.name = Text.lower name := by rw [hname, table?_name ht]
  have hself : Text.sameName t.name t'.name = true := Text.sameName_iff.mpr (by rw [hname])
  have hsame (old : Table) : Text.sameName
      (if Text.sameName old.name t'.name then t' else old).name name =
        Text.sameName old.name name := by
    split
    · next hold =>
      rw [Bool.eq_iff_iff, Text.sameName_iff, Text.sameName_iff, hlower,
        (Text.sameName_iff.mp hold).trans hlower]
    · rfl
  rw [table?] at ht
  simp only [table?, withTable, List.find?_map, Function.comp_def, hsame, ht, Option.map_some,
    hself, if_true]

private theorem written_sound {store : Store} (h : store.Sound) {t : Table}
    {outcome : Except Table.Violation Store}
    (houtcome : ∀ after, outcome = .ok after → after.Sound) :
    (store.written t outcome).2.Sound := by
  unfold written
  split
  · next after => exact houtcome after rfl
  · exact h

theorem onTable_eq {store : Store} {name : String} {t : Table} (ht : store.table? name = some t)
    (use : Table → Except String (List Record) × Store) : store.onTable name use = use t := by
  rw [onTable, ht]

private theorem onTable_sound {store : Store} (h : store.Sound) (name : String)
    {use : Table → Except String (List Record) × Store}
    (huse : ∀ t, t.Sound → (use t).2.Sound) : (store.onTable name use).2.Sound := by
  unfold onTable
  split
  · next t ht => exact huse t (h.table? ht)
  · exact h

/-- No query unsettles a store. -/
theorem perform_sound {store : Store} (h : store.Sound) (parameters : Assignment) (q : Query) :
    (store.perform parameters q).2.Sound := by
  cases q with
  | select name renamed q =>
    refine onTable_sound h name fun t _ => ?_
    split <;> exact h
  | insert name columns values =>
    refine onTable_sound h name fun t ht => written_sound h fun after hafter => ?_
    cases hinsert : insert t parameters columns values with
    | error violation => rw [hinsert] at hafter; cases hafter
    | ok done =>
      rw [hinsert] at hafter
      obtain rfl := Except.ok.inj hafter
      exact h.withTable (insert_sound ht hinsert).1
  | update name sets filter =>
    refine onTable_sound h name fun t ht => written_sound h fun after hafter => ?_
    cases hupdate : update t parameters sets filter with
    | error violation => rw [hupdate] at hafter; cases hafter
    | ok done =>
      rw [hupdate] at hafter
      obtain rfl := Except.ok.inj hafter
      exact h.withTable (update_sound ht hupdate).1
  | delete name filter =>
    exact onTable_sound h name fun t ht => h.withTable (delete_sound ht parameters filter).1
  | tables pattern =>
    simp only [perform]
    split <;> exact h
  | columns table filter => exact h
  | indexes table filter => exact h

/-! ## Connections -/

theorem prepare_unchanged (s : Statement) (store : Store) : (prepare s store).2 = store := by
  unfold prepare
  split
  · rfl
  · split <;> rfl

theorem run_sound {store : Store} (h : store.Sound) (handle : Handle) (binds : Binds) :
    (run handle binds store).2.Sound := by
  unfold run
  simp only
  split
  · exact h
  · exact perform_sound h _ _

theorem execute_unchanged (handle : Handle) (binds : Binds) (store : Store) :
    (execute handle binds store).2 = (run handle binds store).2 := by
  unfold execute
  split <;> next hrun => rw [hrun]

end Store
end RecordGateway
