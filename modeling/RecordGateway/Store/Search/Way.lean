import RecordGateway.Statement
import RecordGateway.Store.Search.Part
import RecordGateway.Store.Search.Weight
/-!
# Ways through a table

The ways in which a selection can go through the rows of its table: all of them
by id or along an index, or those that the filter bounds, or the branches of a
choice one after another. Each has an estimate of its cost and of the rows it
gives, which knows the filter but not the rows. The cheapest way is taken.
-/
namespace RecordGateway

structure ColumnIndex where
  position : Nat
  width : Weight
deriving DecidableEq

structure Aim where
  width : Weight
  indexes : List ColumnIndex
  needed : List Place
  /-- The columns that order the result; an ordering by anything else has none. -/
  order : List (Option Place × SortOrder)
  fields : Nat
  limit : Option Nat

inductive Walk where
  | byId
  | along (position : Nat)
  /-- By branches, with the parts that hold besides. -/
  | throughBranches (branches : List (List Part)) (besides : List Part)

structure Way where
  walk : Walk
  single : Bool
  sequence : List Place
  cost : Weight
  rows : Weight

namespace Way

/-- A table that was never analysed is taken to have 2 ^ 20 rows, of which ten share a value of an
indexed column. -/
def allRows : Weight := 200
def sharedRows : Weight := 33

def descent : Weight := Weight.search allRows

/-- A bound on one side is taken to leave a fourth of the rows and bounds on both a sixty-fourth,
but two rows at least. -/
def boundedRows (rows : Weight) (ends : Nat) : Weight :=
  min (rows - ends) (max 10 (rows - 20 * (2 * ends - 1)))

/-- An equation is taken to leave a fourth of the rows, and with a small value a half. -/
def reduction (part : Part) : Weight :=
  match part.bound? with
  | some (_, .equal, small) => if small then 10 else 20
  | _ => 0

/-- The rows of a way less those that the parts it does not use leave out. -/
def remaining (parts : List Part) (used : List Nat) (rows : Weight) : Weight :=
  let unused := parts.zipIdx.filter fun (part, k) => !used.contains k && !part.places.isEmpty
  min (rows - unused.length)
    (allRows - unused.foldl (fun most (part, _) => max most (reduction part)) 0)

structure Cut where
  used : List Nat
  rows : Weight
  searches : Weight
  isExact : Bool
  isEqual : Bool

def cuts (base exactRows : Weight) (offers : List (Option Nat × Part.Offer)) : List Cut :=
  offers.flatMap fun (k, offer) =>
    match offer with
    | .bound .equal => [⟨k.toList, exactRows, 0, true, true⟩]
    | .oneOf count => [⟨k.toList, exactRows, Weight.ofNat count, true, false⟩]
    | .bound .below => [⟨k.toList, boundedRows base 1, 0, false, false⟩]
    | .bound .above =>
      ⟨k.toList, boundedRows base 1, 0, false, false⟩ ::
        (offers.filter fun e => e.2 == .bound .below).map fun (j, _) =>
          ⟨k.toList ++ j.toList, boundedRows base 2, 0, false, false⟩

def offers (parts outer : List Part) (p : Place) : List (Option Nat × Part.Offer) :=
  (parts.zipIdx.filterMap fun (part, k) => (part.offer? p).map fun o => (some k, o)) ++
    outer.filterMap fun part => (part.offer? p).map fun o => (none, o)

/-- To go through all rows counts as three steps for each. -/
def everything (parts : List Part) : Way :=
  ⟨.byId, false, [.id], allRows + 16, remaining parts [] allRows⟩

def byId (parts outer : List Part) : List Way :=
  (cuts allRows 0 (offers parts outer .id)).map fun c =>
    ⟨.byId, c.isEqual, [.id], Weight.sum descent (c.rows + 16) + c.searches,
      remaining parts c.used (c.rows + c.searches)⟩

def covers (a : Aim) (i : ColumnIndex) : Bool :=
  a.needed.all fun p => p = .id || p = .column i.position

/-- A step in an index costs as much less than one in the table as its entries are narrower. -/
def stepCost (a : Aim) (i : ColumnIndex) : Weight := 1 + 15 * i.width / a.width

/-- The rows looked up for a walk along a whole index: what the index can tell is tested before. -/
def lookups (i : ColumnIndex) (parts : List Part) : Weight :=
  let tested := parts.takeWhile fun part =>
    part.places.all fun p => p = .id || p = .column i.position
  tested.foldl (fun rows part =>
    match part.bound? with
    | some (_, .equal, _) => rows - 20
    | _ => rows - 1) (allRows + 16)

/-- The walk along a whole index, where it has all that is needed or may give the ordering. -/
def wholeIndex (a : Aim) (i : ColumnIndex) (parts : List Part) : List Way :=
  let helps := a.order.any fun (p, _) => p = some .id || p = some (.column i.position)
  let steps := allRows + stepCost a i
  if helps || (covers a i && i.width < a.width) then
    [⟨.along i.position, false, [.column i.position, .id],
      if covers a i then steps else Weight.sum steps (lookups i parts),
      remaining parts [] allRows⟩]
  else []

def inIndex (a : Aim) (i : ColumnIndex) (parts : List Part) (c : Cut) (byId : Option Cut) : Way :=
  let rows := (byId.map Cut.rows).getD c.rows
  let searches := c.searches + (byId.map Cut.searches).getD 0
  let found := Weight.sum descent (rows + stepCost a i)
  ⟨.along i.position, c.isEqual && (byId.map Cut.isEqual).getD false,
    if c.isEqual then [.id] else [.column i.position, .id],
    (if covers a i then found else Weight.sum found (rows + 16)) + searches,
    remaining parts (c.used ++ (byId.map Cut.used).getD []) (rows + searches)⟩

def inIndexes (a : Aim) (parts outer : List Part) (i : ColumnIndex) : List Way :=
  (cuts allRows sharedRows (offers parts outer (.column i.position))).flatMap fun c =>
    inIndex a i parts c none ::
      if c.isExact then
        (cuts sharedRows 0 (offers parts outer .id)).map fun d => inIndex a i parts c (some d)
      else []

def searches (a : Aim) (parts outer : List Part) : List Way :=
  byId parts outer ++ a.indexes.flatMap (inIndexes a parts outer)

def least : List Way → Option (Weight × Weight)
  | [] => none
  | first :: rest =>
    some (rest.foldl (fun best w =>
      if w.cost ≤ best.1 then (w.cost, min best.2 w.rows) else best) (first.cost, first.rows))

mutual
/-- The ways through the choices among the parts, each of whose branches has to have a search
of its own; `before` holds the parts before the rest. -/
def throughChoices (a : Aim) (outer before : List Part) : List Part → List Way
  | [] => []
  | .condition c :: rest => throughChoices a outer (before ++ [.condition c]) rest
  | .choice branches :: rest =>
    let parts := before ++ .choice branches :: rest
    let isUsable := branches.all fun branch =>
      branch.any fun part => part.bound?.isSome
    (match throughBranches a (parts ++ outer) branches with
      | some (cost, rows) =>
        if isUsable then
          [⟨.throughBranches branches (before ++ rest), false, [], cost + 1, rows⟩]
        else []
      | none => []) ++
      throughChoices a outer (before ++ [.choice branches]) rest

def throughBranches (a : Aim) (outer : List Part) : List (List Part) → Option (Weight × Weight)
  | [] => none
  | branch :: rest =>
    match least (searches a branch outer ++ throughChoices a outer [] branch) with
    | none => none
    | some (cost, rows) =>
      if rest.isEmpty then some (cost, rows)
      else (throughBranches a outer rest).map fun (otherCost, otherRows) =>
        (Weight.sum cost otherCost, Weight.sum rows otherRows)
end

def candidates (a : Aim) (parts : List Part) : List Way :=
  everything parts :: byId parts [] ++
    a.indexes.flatMap (fun i => wholeIndex a i parts ++ inIndexes a parts [] i) ++
    throughChoices a [] [] parts

/-! ## Ordering -/

/-- How many of the first orderings a sequence of columns satisfies, and the direction in which
it has to be followed. Columns in `fixed` have one value. -/
def orderedBy (fixed : List Place) :
    List Place → Option SortOrder → List (Option Place × SortOrder) → Nat × Option SortOrder
  | _, direction, [] => (0, direction)
  | sequence, direction, (place, wanted) :: rest =>
    if place.any fixed.contains then
      let (n, found) := orderedBy fixed sequence direction rest
      (n + 1, found)
    else match sequence with
      | [] => (0, direction)
      | p :: more =>
        if place = some p ∧ (direction = none ∨ direction = some wanted) then
          if p = .id then (rest.length + 1, some wanted)
          else
            let (n, found) := orderedBy fixed more (some wanted) rest
            (n + 1, found)
        else (0, direction)

def isThroughBranches : Walk → Bool
  | .throughBranches _ _ => true
  | _ => false

def satisfied (a : Aim) (parts : List Part) (w : Way) : Nat × Option SortOrder :=
  if w.single then (a.order.length, none)
  else if isThroughBranches w.walk then (0, none)
  else
    let fixed := parts.filterMap fun part =>
      match part.bound? with
      | some (p, .equal, _) => some p
      | _ => none
    orderedBy fixed w.sequence none a.order

/-- Sorting goes over the rows as often as a search has steps. A row weighs more the more fields it
has, and with some orderings satisfied only the share of the others counts; 66 makes a share of the
hundreds. -/
def sortCost (a : Aim) (rows : Weight) (sorted : Nat) : Weight :=
  let terms := a.order.length
  let base := rows + Weight.ofNat ((a.fields + 59) / 30) +
    (if 0 < sorted then Weight.ofNat ((terms - sorted) * 100 / terms) - 66 else 0)
  match a.limit with
  | none => base + Weight.search rows
  | some limit =>
    base + 10 + (if 0 < sorted then 6 else 0) + Weight.search (min rows (Weight.ofNat limit))

/-- A way with the weights that decide: the cost with sorting, the rows, the cost without. Of ways
that cost the same the one that need not sort has an advantage of two. -/
def weights (a : Aim) (parts : List Part) (sortedRows : Weight) (w : Way) : List Weight :=
  if a.order.isEmpty then [w.cost, w.rows]
  else
    let (sorted, _) := satisfied a parts w
    if sorted < a.order.length then
      [Weight.sum w.cost (sortCost a sortedRows sorted) + 3, w.rows, w.cost]
    else [w.cost, w.rows, w.cost - 2]

/-- Whether the first list of weights is not above the second; the first difference counts. -/
def notAbove : List Weight → List Weight → Bool
  | x :: xs, y :: ys => x < y || (x == y && notAbove xs ys)
  | _, _ => true

/-- The best of some ways; of equals the last. -/
def best (weigh : Way → List Weight) (first : Way) (rest : List Way) : Way :=
  rest.foldl (fun chosen w => if notAbove (weigh w) (weigh chosen) then w else chosen) first

def choose (a : Aim) (parts : List Part) : Way × Bool :=
  let first := everything parts
  let rest := (candidates a parts).drop 1
  if a.order.isEmpty then (best (weights a parts 0) first rest, false)
  else
    let expected := (best (fun w => [w.cost, w.rows]) first rest).rows
    let chosen := best (weights a parts (if expected < 0 then 1 else expected + 1)) first rest
    let (sorted, direction) := satisfied a parts chosen
    (chosen, 0 < sorted && direction == some .descending)

end Way
end RecordGateway
