/-!
# Tables as text

The columns of a table are as wide as their widest cell. Cells start at the left, two spaces stand
between columns, and a line ends with its last cell.
-/

namespace ModelForge

namespace Table

/-- The greater width at each column; a row that is shorter leaves the rest as it is. -/
def widen : List Nat → List String → List Nat
  | widths, [] => widths
  | [], cells => cells.map String.length
  | width :: widths, cell :: cells => max width cell.length :: widen widths cells

/-- The widths of the columns of some rows. -/
def widths (rows : List (List String)) : List Nat := rows.foldl widen []

/-- A cell with spaces behind it up to a width. -/
def padded (width : Nat) (cell : String) : String :=
  cell ++ String.ofList (List.replicate (width - cell.length) ' ')

/-- A row as a line. -/
def line : List Nat → List String → String
  | _, [] => ""
  | _, [cell] => cell
  | widths, cell :: cells =>
    padded (widths.headD 0) cell ++ "  " ++ line (widths.drop 1) cells

/-- The lines of a table: its title, the names of its columns, a rule and the rows. -/
def lines (title : String) (columns : List String) (rows : List (List String)) : List String :=
  let sizes := widths (columns :: rows)
  let rule := sizes.map fun width => String.ofList (List.replicate width '-')
  title :: (columns :: rule :: rows).map (line sizes)

end Table

end ModelForge
