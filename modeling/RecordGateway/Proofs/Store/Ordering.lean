import RecordGateway.Proofs.Store.Selections
/-!
# The order of selected rows

Cells are ordered by their class, numbers by value, and texts and blobs by their bytes.
-/
namespace RecordGateway

theorem mergeSort_ordered {α : Type} (cmp : α → α → Ordering) [Std.TransCmp cmp] (xs : List α) :
    (xs.mergeSort fun a b => cmp a b != .gt).Pairwise fun a b => cmp a b ≠ .gt := by
  have hle (a b : α) : (cmp a b != .gt) = (cmp a b).isLE := by cases cmp a b <;> rfl
  have htrans (a b c : α) : (cmp a b != .gt) = true → (cmp b c != .gt) = true →
      (cmp a c != .gt) = true := by
    simp only [hle]
    exact Std.TransCmp.isLE_trans
  have htotal (a b : α) : (cmp a b != .gt || cmp b a != .gt) = true := by
    have hswap : cmp b a = (cmp a b).swap := Std.OrientedCmp.eq_swap
    rw [hswap]
    cases cmp a b <;> rfl
  exact (List.pairwise_mergeSort htrans htotal xs).imp fun h => bne_iff_ne.mp h

def SortOrder.directed : SortOrder → Ordering → Ordering
  | .ascending, o => o
  | .descending, o => o.swap

private theorem SortOrder.directed_transCmp {α : Type} (cmp : α → α → Ordering) [Std.TransCmp cmp]
    (direction : SortOrder) : Std.TransCmp fun a b => direction.directed (cmp a b) := by
  cases direction with
  | ascending => exact inferInstanceAs (Std.TransCmp cmp)
  | descending =>
    have hswap : (fun a b => SortOrder.descending.directed (cmp a b)) = fun a b => cmp b a := by
      funext a b
      exact Std.OrientedCmp.eq_swap.symm
    rw [hswap]
    infer_instance

namespace Selection

section
variable (t : Table) (parameters : Assignment) (items : List Item)

theorem compareBy_nil (a b : Frame) : compareBy t parameters items [] a b = .eq := by
  rw [compareBy]

theorem compareBy_cons (o : Ordered) (order : List Ordered) :
    compareBy t parameters items (o :: order) =
      compareLex (fun a b => o.direction.directed
        ((orderCell t parameters items a o.field).compare (orderCell t parameters items b o.field)))
        (compareBy t parameters items order) := by
  funext a b
  rw [compareBy, compareLex]
  cases o.direction <;> rfl

instance compareBy_transCmp (order : List Ordered) :
    Std.TransCmp (compareBy t parameters items order) := by
  induction order with
  | nil =>
    exact
      { eq_swap := by simp [compareBy_nil]
        isLE_trans := by simp [compareBy_nil] }
  | cons o order ih =>
    have hcell := transCmp_on Cell.compare fun frame => orderCell t parameters items frame o.field
    have hfirst := o.direction.directed_transCmp fun a b =>
      (orderCell t parameters items a o.field).compare (orderCell t parameters items b o.field)
    rw [compareBy_cons]
    infer_instance

end

theorem frames_ordered {t : Table} {q : Selection} (hwindow : q.window = none)
    (indexes : List Index) (parameters : Assignment) :
    ∃ rows : List Row, frames t indexes parameters q = rows.map t.frame ∧
      rows.Perm (t.rows.filter fun row =>
        passes parameters q.filter (filterFrame parameters q.items (t.frame row))) ∧
      rows.Pairwise fun a b =>
        compareBy t parameters q.items q.order (t.frame a) (t.frame b) ≠ .gt := by
  let pass (row : Row) : Bool :=
    passes parameters q.filter (filterFrame parameters q.items (t.frame row))
  let cmp (a b : Row) : Ordering := compareBy t parameters q.items q.order (t.frame a) (t.frame b)
  generalize hfound : (foundRows t indexes parameters q).filter pass = found
  have hperm : found.Perm (t.rows.filter pass) := by
    rw [← hfound]
    exact (foundRows_perm _ _ _ _).filter pass
  have hpassing : ((foundRows t indexes parameters q).map t.frame).filter
      (fun frame => passes parameters q.filter (filterFrame parameters q.items frame)) =
      found.map t.frame := by
    rw [List.filter_map, ← hfound]
    rfl
  have hframes : frames t indexes parameters q =
      if q.order.isEmpty then found.map t.frame
      else (found.map t.frame).mergeSort fun a b =>
        compareBy t parameters q.items q.order a b != .gt := by
    rw [frames, hwindow]
    simp only [hpassing, cut]
  cases horder : q.order with
  | nil =>
    refine ⟨found, by rw [hframes, horder]; rfl, hperm, ?_⟩
    exact List.pairwise_of_forall fun a b => by simp [compareBy_nil]
  | cons o order =>
    have hcmp : Std.TransCmp cmp := transCmp_on (compareBy t parameters q.items q.order) t.frame
    have hsorted : ((found.map t.frame).mergeSort fun a b =>
        compareBy t parameters q.items q.order a b != .gt) =
        (found.mergeSort fun a b => cmp a b != .gt).map t.frame :=
      (List.map_mergeSort (f := t.frame) fun _ _ _ _ => rfl).symm
    refine ⟨found.mergeSort fun a b => cmp a b != .gt, ?_,
      (List.mergeSort_perm _ _).trans hperm, ?_⟩
    · rw [hframes, hsorted, horder]
      rfl
    · rw [← horder]
      exact mergeSort_ordered cmp found

end Selection
end RecordGateway
