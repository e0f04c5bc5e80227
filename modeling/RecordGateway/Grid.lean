import RecordGateway.Record
import RecordGateway.Text.Width
/-!
# Grids

Rows of text cells drawn as a table with box characters. A cell may hold
several lines. Every column is as wide as its widest line, every row as high as
its highest cell, and cells stand to the left with one space on each side.
-/
namespace RecordGateway

/-- A header line, if there is one, and rows of cells that may differ in length. -/
structure Grid where
  header : Option (List String)
  rows : List (List String)
deriving DecidableEq

namespace Grid

structure Rule where
  left : Char
  fill : Char
  crossing : Char
  right : Char

def topRule : Rule := ⟨'┌', '─', '┬', '┐'⟩
def headerRule : Rule := ⟨'╞', '═', '╪', '╡'⟩
def rowRule : Rule := ⟨'├', '╌', '┼', '┤'⟩
def bottomRule : Rule := ⟨'└', '─', '┴', '┘'⟩

def fence (left separator right : Char) (pieces : List (List Char)) : String :=
  String.ofList (left :: ([separator].intercalate pieces ++ [right]))

def Rule.draw (r : Rule) (widths : List Nat) : String :=
  fence r.left r.crossing r.right (widths.map fun w => List.replicate (w + 2) r.fill)

def lines (g : Grid) : List (List String) := g.header.toList ++ g.rows

def columnCount (g : Grid) : Nat := (g.lines.map List.length).foldl max 0

def cellWidth (cell : String) : Nat := ((Text.parts '\n' cell).map Text.width).foldl max 0

/-- The cell of a column; a short line ends in empty cells. -/
def cellAt (cells : List String) (column : Nat) : String := cells.getD column ""

/-- The widths of the columns. No column is narrower than one character. -/
def widths (g : Grid) : List Nat :=
  (List.range g.columnCount).map fun column =>
    (g.lines.map fun cells => cellWidth (cellAt cells column)).foldl max 1

/-- A line of text with spaces after it up to a width and one space on each side. -/
def padded (w : Nat) (s : String) : List Char :=
  ' ' :: (s.toList ++ List.replicate (w - Text.width s + 1) ' ')

def drawCells (widths : List Nat) (cells : List String) : List String :=
  let columns := widths.zipIdx.map fun (w, column) => (w, Text.parts '\n' (cellAt cells column))
  let height := (columns.map fun c => c.2.length).foldl max 0
  (List.range height).map fun k =>
    fence '│' '┆' '│' (columns.map fun (w, parts) => padded w (parts.getD k ""))

def drawRows (widths : List Nat) (rows : List (List String)) : List String :=
  [rowRule.draw widths].intercalate (rows.map (drawCells widths))

def draw (g : Grid) : List String :=
  let widths := g.widths
  let header := match g.header with
    | none => []
    | some cells => drawCells widths cells ++ [headerRule.draw widths]
  topRule.draw widths :: (header ++ drawRows widths g.rows ++ [bottomRule.draw widths])

def render (g : Grid) : String := "\n".intercalate g.draw

def ofRecords (records : List Record) : Grid :=
  ⟨records.head?.map Keyed.keys, records.map fun r => r.values.map Value.display⟩

def report (records : List Record) : String :=
  (ofRecords records).render ++ "\n(" ++ records.length.repr ++ " rows)"

end Grid
end RecordGateway
