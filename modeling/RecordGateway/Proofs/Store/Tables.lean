import Mathlib.Data.List.Forall2
import RecordGateway.Proofs.Lists
import RecordGateway.Proofs.Store.Cells
import RecordGateway.Store
/-!
# Sound tables

The columns of a sound table have distinct names, its rows have distinct ids and one cell for each
column, and every cell is one that its column keeps.
-/
namespace RecordGateway

namespace Table

/-- A row has a cell for each column, which the column keeps. -/
structure Fits (t : Table) (row : Row) : Prop where
  width : row.cells.length = t.columns.length
  kept : ∀ c cell, (c, cell) ∈ t.columns.zip row.cells → c.affinity.Keeps cell

structure Sound (t : Table) : Prop where
  names : (t.columns.map fun c => Text.lower c.name).Nodup
  key : ∀ i, t.key = some i → ∃ c, t.columns[i]? = some c ∧ c.affinity = .integer
  ids : (t.rows.map Row.id).Nodup
  rows : ∀ row ∈ t.rows, t.Fits row

theorem place_perm (row : Row) (rows : List Row) : (row.place rows).Perm (row :: rows) := by
  induction rows with
  | nil => exact .refl _
  | cons r rest ih =>
    rw [Row.place]
    split
    · exact .refl _
    · exact (ih.cons r).trans (.swap row r rest)

theorem put_eq_ok {t t' : Table} {id : Int64} {cells : List Cell} (h : t.put id cells = .ok t') :
    t' = { t with rows := Row.place ⟨id, t.withId id cells⟩ t.rows } ∧ id ∉ t.rows.map Row.id := by
  unfold put at h
  split at h
  · cases h
  · split at h
    · cases h
    · next hfree =>
      refine ⟨(Except.ok.inj h).symm, fun hmem => hfree ?_⟩
      obtain ⟨r, hr, hid⟩ := List.mem_map.mp hmem
      exact List.any_eq_true.mpr ⟨r, hr, beq_iff_eq.mpr hid⟩

private theorem withId_fits {t : Table} (hsound : t.Sound) {row : Row} (h : t.Fits row)
    (id : Int64) :
    t.Fits ⟨row.id, t.withId id row.cells⟩ := by
  unfold withId
  cases hk : t.key with
  | none => exact h
  | some i =>
    refine ⟨by simpa using h.width, fun c cell hmem => ?_⟩
    obtain ⟨j, hj⟩ := List.mem_iff_getElem?.mp hmem
    obtain ⟨hc, hcell⟩ := List.getElem?_zip_eq_some.mp hj
    rw [List.getElem?_set] at hcell
    split at hcell
    · next hij =>
      subst hij
      obtain ⟨key, hkey, haffinity⟩ := hsound.key i hk
      obtain rfl : key = c := Option.some.inj (hkey.symm.trans hc)
      split at hcell
      · obtain rfl := Option.some.inj hcell
        rw [haffinity]
        exact ⟨rfl, Affinity.numeric_meet rfl _⟩
      · cases hcell
    · exact h.kept c cell (List.mem_iff_getElem?.mpr ⟨j, List.getElem?_zip_eq_some.mpr ⟨hc, hcell⟩⟩)

theorem settled_fits (t : Table) (id : Int64) {cells : List Cell}
    (hwidth : cells.length = t.columns.length) (hcells : ∀ cell ∈ cells, cell.settle = cell) :
    t.Fits ⟨id, t.settled cells⟩ := by
  refine ⟨by simp [settled, hwidth], fun c cell hmem => ?_⟩
  obtain ⟨i, hi⟩ := List.mem_iff_getElem?.mp hmem
  obtain ⟨hc, hcell⟩ := List.getElem?_zip_eq_some.mp hi
  obtain ⟨c', old, hpair, rfl⟩ : ∃ c' old, (t.columns.zip cells)[i]? = some (c', old) ∧
      c'.affinity.apply old = cell := by
    simpa [settled] using hcell
  obtain ⟨hc', hold⟩ := List.getElem?_zip_eq_some.mp hpair
  obtain rfl : c' = c := Option.some.inj (hc'.symm.trans hc)
  exact Affinity.apply_keeps _ (hcells old (List.mem_of_getElem? hold))

/-- Tables with the same columns and the same key. -/
structure Alike (t t' : Table) : Prop where
  name : t'.name = t.name
  columns : t'.columns = t.columns
  key : t'.key = t.key

theorem Alike.refl (t : Table) : t.Alike t := ⟨rfl, rfl, rfl⟩

theorem Alike.withRows (t : Table) (rows : List Row) : t.Alike { t with rows := rows } :=
  ⟨rfl, rfl, rfl⟩

theorem Alike.trans {t u v : Table} (h : t.Alike u) (h' : u.Alike v) : t.Alike v :=
  ⟨h'.name.trans h.name, h'.columns.trans h.columns, h'.key.trans h.key⟩

theorem Fits.alike {t t' : Table} (h : t.Alike t') {row : Row} (hrow : t.Fits row) :
    t'.Fits row := by
  refine ⟨?_, ?_⟩
  · rw [h.columns]; exact hrow.width
  · rw [h.columns]; exact hrow.kept

theorem Sound.withRows {t : Table} (h : t.Sound) {rows : List Row}
    (ids : (rows.map Row.id).Nodup) (hrows : ∀ row ∈ rows, t.Fits row) :
    Sound { t with rows := rows } :=
  ⟨h.names, h.key, ids, fun row hrow => (hrows row hrow).alike (.withRows t rows)⟩

private theorem put_sound {t t' : Table} (hsound : t.Sound) {id : Int64} {cells : List Cell}
    (hcells : t.Fits ⟨id, cells⟩) (h : t.put id cells = .ok t') : t'.Sound ∧ t.Alike t' := by
  obtain ⟨rfl, hfree⟩ := put_eq_ok h
  have hperm := place_perm ⟨id, t.withId id cells⟩ t.rows
  refine ⟨hsound.withRows ?_ fun row hrow => ?_, rfl, rfl, rfl⟩
  · rw [(hperm.map Row.id).nodup_iff]
    exact List.nodup_cons.mpr ⟨hfree, hsound.ids⟩
  · rcases List.mem_cons.mp (hperm.mem_iff.mp hrow) with rfl | hrow
    · exact withId_fits hsound hcells id
    · exact hsound.rows row hrow

theorem insert_eq_ok {t t' : Table} {id : Cell} {cells : List Cell} {got : Int64}
    (h : t.insert id cells = .ok (got, t')) :
    t.put got (t.withId got (t.settled cells)) = .ok t' := by
  unfold insert at h
  obtain ⟨asked, -, h⟩ := except_bind_eq_ok.mp h
  cases hnew : asked.or t.nextId with
  | none =>
    rw [hnew] at h
    cases hmissing : t.missing? (t.settled cells) <;> simp only [hmissing] at h <;> cases h
  | some new =>
    rw [hnew] at h
    obtain ⟨after, hput, h⟩ := except_bind_eq_ok.mp h
    obtain ⟨rfl, rfl⟩ := Prod.mk.inj (Except.ok.inj h)
    exact hput

theorem insert_sound {t t' : Table} (hsound : t.Sound) {id : Cell} {cells : List Cell} {got : Int64}
    (hwidth : cells.length = t.columns.length) (hcells : ∀ cell ∈ cells, cell.settle = cell)
    (h : t.insert id cells = .ok (got, t')) : t'.Sound ∧ t.Alike t' :=
  put_sound hsound (withId_fits hsound (settled_fits t got hwidth hcells) got) (insert_eq_ok h)

theorem replace_eq_ok {t t' : Table} {old : Row} {id : Cell} {cells : List Cell}
    (h : t.replace old id cells = .ok t') : ∃ new, requestedId id = .ok (some new) ∧
      { t with rows := t.rows.filter fun r => r.id != old.id }.put new
        (t.withId new (t.settled cells)) = .ok t' := by
  unfold replace at h
  obtain ⟨asked, hid, h⟩ := except_bind_eq_ok.mp h
  cases asked with
  | none => cases h
  | some new => exact ⟨new, hid, h⟩

theorem replace_sound {t t' : Table} (hsound : t.Sound) {old : Row} {id : Cell} {cells : List Cell}
    (hwidth : cells.length = t.columns.length) (hcells : ∀ cell ∈ cells, cell.settle = cell)
    (h : t.replace old id cells = .ok t') : t'.Sound ∧ t.Alike t' := by
  obtain ⟨new, -, hput⟩ := replace_eq_ok h
  have hothers : Sound { t with rows := t.rows.filter fun r => r.id != old.id } := by
    refine hsound.withRows ?_ fun row hrow => hsound.rows row (List.mem_filter.mp hrow).1
    exact (List.filter_sublist.map Row.id).nodup hsound.ids
  have hfits := withId_fits hsound (settled_fits t new hwidth hcells) new
  obtain ⟨hafter, halike⟩ := put_sound hothers (hfits.alike (.withRows t _)) hput
  exact ⟨hafter, (Alike.withRows t _).trans halike⟩

/-- The row that settled cells make, whose id stands in the key column too. -/
def image (t : Table) (id : Int64) (cells : List Cell) : Row :=
  ⟨id, t.withId id (t.withId id (t.settled cells))⟩

/-- Replacing a row puts its image in its place and leaves all rows with other ids. No other row
had the id of the image. -/
theorem replace_rows {t t' : Table} {old : Row} {id : Cell} {cells : List Cell}
    (h : t.replace old id cells = .ok t') : ∃ new, requestedId id = .ok (some new) ∧
      (∀ r, r ∈ t'.rows ↔ r = t.image new cells ∨ r ∈ t.rows ∧ r.id ≠ old.id) ∧
      ∀ r ∈ t.rows, r.id ≠ old.id → r.id ≠ new := by
  obtain ⟨new, hid, hput⟩ := replace_eq_ok h
  obtain ⟨rfl, hfree⟩ := put_eq_ok hput
  refine ⟨new, hid, fun r => ?_, fun r hr hne hnew => hfree ?_⟩
  · rw [(place_perm _ _).mem_iff, List.mem_cons, List.mem_filter, bne_iff_ne]
    rfl
  · exact List.mem_map.mpr ⟨r, List.mem_filter.mpr ⟨hr, bne_iff_ne.mpr hne⟩, hnew⟩

end Table
end RecordGateway
