import RecordGateway.Store.Search.Way
/-!
# The order of a search

The rows of a table in the order in which the way taken for a filter meets them.
Rows that it does not meet do not pass the filter; they are kept at the end, so
that arranging is a permutation (`arrange_perm`).
-/
namespace RecordGateway.Search

def compareAlong (position : Nat) (a b : Row) : Ordering :=
  ((a.cells.getD position .null).compare (b.cells.getD position .null)).then
    (compare a.id.toInt b.id.toInt)

def along (position : Nat) (rows : List Row) : List Row :=
  rows.mergeSort fun a b => compareAlong position a b != .gt

def bringForward : List Row → List Row → List Row
  | [], rows => rows
  | r :: listed, rows =>
    if r ∈ rows then r :: bringForward listed (rows.erase r) else bringForward listed rows

/-- The rows in the order of a search for the parts. The branches of a choice are searches of
their own, each together with the parts beside the choice; the fuel bounds their nesting. -/
def arrange (test : Row → Condition → Bool) : Nat → Aim → List Part → List Row → List Row
  | fuel, a, parts, rows =>
    let (way, backwards) := Way.choose a parts
    let met :=
      match way.walk, fuel with
      | .byId, _ => rows
      | .along position, _ => along position rows
      | .throughBranches _ _, 0 => rows
      | .throughBranches branches besides, fuel + 1 =>
        bringForward (branches.flatMap fun branch =>
          let searched := branch ++ besides.filter Part.isUsable
          (arrange test fuel { a with order := [] } searched rows).filter fun row =>
            Part.allHold (fun r => test row r.condition) (branch ++ besides)) rows
    if backwards then met.reverse else met

theorem bringForward_perm (listed rows : List Row) : (bringForward listed rows).Perm rows := by
  induction listed generalizing rows with
  | nil => exact .refl _
  | cons r listed ih =>
    simp only [bringForward]
    split
    · next h => exact ((ih _).cons r).trans (List.perm_cons_erase h).symm
    · exact ih rows

theorem arrange_perm (test : Row → Condition → Bool) (fuel : Nat) (a : Aim) (parts : List Part)
    (rows : List Row) : (arrange test fuel a parts rows).Perm rows := by
  have backwards (b : Bool) {met : List Row} (h : met.Perm rows) :
      (if b then met.reverse else met).Perm rows := by
    cases b
    · exact h
    · exact met.reverse_perm.trans h
  unfold arrange
  refine backwards _ ?_
  split
  · exact .refl _
  · exact List.mergeSort_perm _ _
  · exact .refl _
  · exact bringForward_perm _ _

end RecordGateway.Search
