import RecordGateway.Record
import RecordGateway.Store.Query
import RecordGateway.Store.Search
/-!
# Selections

The answer to a selection from one table: the rows that pass its filter, in the
order of the search for them and then by the ordering, cut to the window, with
the cells of the select list.
-/
namespace RecordGateway.Selection

structure Output where
  name : String
  cell : Frame → Cell

/-- The name of a result column that is given none. -/
def impliedName (t : Table) (expression : String) : String :=
  match Term.read expression with
  | some (.column name) => (t.properName? name).getD name
  | some (.columnOr name _) => (t.properName? name).getD (Text.trimAscii expression)
  | _ => Text.trimAscii expression

def outputs (t : Table) (parameters : Assignment) (item : Item) : List Output :=
  if item.isStar then
    t.columns.map fun c => ⟨c.name, fun frame => ((frame.find? c.name).getD (.blob, .null)).2⟩
  else
    [⟨item.given.getD (impliedName t item.expression),
      fun frame => (evalText parameters frame item.expression).2⟩]

def selectList (t : Table) (parameters : Assignment) (items : List Item) : List Output :=
  items.flatMap (outputs t parameters)

/-- The record of a row; a result column whose name came before replaces its cell. -/
def record (selected : List Output) (frame : Frame) : Record :=
  Keyed.ofList (selected.map fun o => (o.name, (o.cell frame).toValue))

def givenNames (items : List Item) : List String := items.filterMap Item.given

def aliasFrame (parameters : Assignment) (items : List Item) (frame : Frame) : Frame :=
  items.filterMap fun item =>
    item.given.map fun name => (name, evalText parameters frame item.expression)

def filterFrame (parameters : Assignment) (items : List Item) (frame : Frame) : Frame :=
  frame ++ aliasFrame parameters items frame

/-- What an ordering by a name may refer to: the names that the select list gives, with all
columns in the place of a star, and then the columns. -/
def orderFrame (t : Table) (parameters : Assignment) (items : List Item) (frame : Frame) : Frame :=
  let given := items.flatMap fun item =>
    if item.isStar then frame.take t.columns.length else aliasFrame parameters [item] frame
  given ++ frame

/-- The cell by which a row is ordered. An expression sees the names as a filter does. -/
def orderCell (t : Table) (parameters : Assignment) (items : List Item) (frame : Frame)
    (field : String) : Cell :=
  match Term.read field with
  | some (.signed minus term) =>
    ((Term.signed minus term).eval parameters (filterFrame parameters items frame)).2
  | _ => (evalText parameters (orderFrame t parameters items frame) field).2

def compareBy (t : Table) (parameters : Assignment) (items : List Item)
    (order : List Ordered) (a b : Frame) : Ordering :=
  match order with
  | [] => .eq
  | o :: rest =>
    let cells := (orderCell t parameters items a o.field).compare
      (orderCell t parameters items b o.field)
    (match o.direction with
      | .ascending => cells
      | .descending => cells.swap).then (compareBy t parameters items rest a b)

def cut {α : Type} (window : Option Window) (rows : List α) : List α :=
  match window with
  | none => rows
  | some w => (rows.drop w.offset).take w.length

def fitsWindow (window : Option Window) : Bool :=
  match window with
  | none => true
  | some w => w.length == 0 || (w.length ≤ int64Max ∧ w.offset ≤ int64Max)

/-! ## What is asked of the search -/

def filterPlace (t : Table) (items : List Item) (name : String) : Option Place :=
  (t.place? name).or
    ((items.find? fun item => item.given.any (Text.sameName name)).bind
      fun item => (Side.ofText t.place? item.expression).column?)

def orderPlace (t : Table) (items : List Item) (name : String) : Option Place :=
  let names (item : Item) : Bool :=
    if item.isStar then (t.position? name).isSome else item.given.any (Text.sameName name)
  match items.find? names with
  | some item =>
    if item.isStar then t.place? name else (Side.ofText t.place? item.expression).column?
  | none => t.place? name

def orderSide (t : Table) (items : List Item) (o : Ordered) : Side :=
  match Term.read o.field with
  | some (.signed minus term) => Side.ofTerm (filterPlace t items) (.signed minus term)
  | _ => Side.ofText (orderPlace t items) o.field

def selectedPlaces (t : Table) (items : List Item) : List Place :=
  let columns := t.columns.filterMap fun c => t.place? c.name
  items.flatMap fun item =>
    if item.isStar then columns else (Side.ofText t.place? item.expression).place?.toList

/-- The weight of the bytes of a row of columns, four to a unit: a number and an id that is no
column count one unit, a text or a blob five. -/
def widthOf (columns : List Column) (withId : Bool) : Weight :=
  let size (c : Column) : Nat :=
    if c.declared.isEmpty || c.affinity.isNumeric then 1 else 5
  Weight.ofNat (4 * (columns.foldl (fun n c => n + size c) (if withId then 1 else 0)))

def columnIndexes (t : Table) (indexes : List Index) : List ColumnIndex :=
  indexes.filterMap fun i =>
    match i.columns.map t.position? with
    | [some position] => some ⟨position, widthOf (t.columns[position]?.toList) true⟩
    | _ => none

/-- The number of rows up to which a limit counts in the choice of a way; SQLite keeps it in 32
bits. -/
def smallLimit : Nat := 2147483648

def aim (t : Table) (indexes : List Index) (q : Selection) (parts : List Part) : Aim :=
  let sides := q.order.map (orderSide t q.items)
  { width := widthOf t.columns t.key.isNone
    indexes := columnIndexes t indexes
    needed := selectedPlaces t q.items ++ Part.allPlaces parts ++ sides.filterMap Side.place?
    order := (sides.map Side.column?).zip (q.order.map Ordered.direction)
    fields := (selectList t [] q.items).length
    limit := (q.window.map Window.length).filter fun n => 0 < n && n < smallLimit }

def foundRows (t : Table) (indexes : List Index) (parameters : Assignment) (q : Selection) :
    List Row :=
  let test (row : Row) (c : Condition) : Bool :=
    c.truth parameters (filterFrame parameters q.items (t.frame row)) == .yes
  let parts := (q.filter.map
    (Predicate.parts (Restriction.ofCondition t (filterPlace t q.items)))).getD []
  Search.arrange test (Part.choiceCount parts) (aim t indexes q parts) parts t.rows

def frames (t : Table) (indexes : List Index) (parameters : Assignment) (q : Selection) :
    List Frame :=
  let passing := ((foundRows t indexes parameters q).map t.frame).filter fun frame =>
    passes parameters q.filter (filterFrame parameters q.items frame)
  let sorted :=
    if q.order.isEmpty then passing
    else passing.mergeSort fun a b => compareBy t parameters q.items q.order a b != .gt
  cut q.window sorted

def records (t : Table) (indexes : List Index) (parameters : Assignment) (q : Selection) :
    List Record :=
  (frames t indexes parameters q).map (record (selectList t parameters q.items))

end RecordGateway.Selection
