import ApiTypes.Text.Width

/-!
# Tables

Rows of cells under a header, in columns as wide as their widest cell.

* `Column` — the header of a column and the side that its cells are on.
* `Table.render` — a table as text.
-/

namespace ApiTypes.CommandLine

/-- A column of a table. -/
structure Column where
  header : String
  /-- Whether the cells below the header stand at the right. -/
  atRight : Bool := false
  deriving DecidableEq, Repr

/-- A table. -/
structure Table where
  columns : List Column
  rows : List (List String)
  deriving DecidableEq, Repr

namespace Table

/-- Copies of a character. -/
def copies (c : Char) (n : Nat) : String :=
  String.ofList (List.replicate n c)

/-- The width of the widest of some texts. -/
def widest (texts : List String) : Nat :=
  (texts.map Text.width).foldl max 0

/-- The cells of the column at a place. -/
def cellsAt (rows : List (List String)) (i : Nat) : List String :=
  rows.filterMap (·[i]?)

/-- The widths of the columns. -/
def widths (t : Table) : List Nat :=
  t.columns.mapIdx fun i column => widest (column.header :: cellsAt t.rows i)

/-- A cell in a column of a width, with a blank on either side. -/
def cell (width : Nat) (atRight : Bool) (text : String) : String :=
  let fill := copies ' ' (width - Text.width text)
  " " ++ (if atRight then fill ++ text else text ++ fill) ++ " "

/-- The line above the header and below the last row. -/
def outerLine (widths : List Nat) : String :=
  " ".intercalate (widths.map fun w => copies '─' (w + 2))

/-- The line below the header. -/
def innerLine (widths : List Nat) : String :=
  "─".intercalate (widths.map fun w => copies '─' (w + 2))

/-- The line of a row. -/
def rowLine (columns : List Column) (widths : List Nat) (row : List String) : String :=
  " ".intercalate (((columns.zip widths).zip row).map fun ((column, width), text) =>
    cell width column.atRight text)

/-- The line of the header. -/
def headerLine (columns : List Column) (widths : List Nat) : String :=
  " ".intercalate ((columns.zip widths).map fun (column, width) => cell width false column.header)

/-- **A table as text**, each line with its end. -/
def render (t : Table) : String :=
  let widths := t.widths
  let lines := [outerLine widths, headerLine t.columns widths, innerLine widths] ++
    t.rows.map (rowLine t.columns widths) ++ [outerLine widths]
  String.join (lines.map (· ++ "\n"))

end Table

end ApiTypes.CommandLine
