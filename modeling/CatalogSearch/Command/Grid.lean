import CatalogSearch.Text.Width

/-!
Tables drawn with lines. Columns are as wide as their widest cell, with one space on either side,
and rows as high as their highest cell.
-/

namespace CatalogSearch.Command

/-- A table: its header and its rows, all of the same number of cells. -/
structure Grid where
  header : List String
  rows : List (List String)

namespace Grid

def cellLines (cell : String) : List String := cell.splitOn "\n"

/-- The number of columns on the screen that a cell takes. -/
def cellWidth (cell : String) : Nat :=
  ((cellLines cell).map fun line => Text.width line.toList).foldl max 0

def widths (g : Grid) : List Nat :=
  g.rows.foldl (fun ws row => ws.zipWith max (row.map cellWidth)) (g.header.map cellWidth)

/-- A line of one character, as wide as a column with its spaces. -/
def bar (c : Char) (width : Nat) : String := String.ofList (List.replicate (width + 2) c)

def rule (left across joint right : Char) (ws : List Nat) : String :=
  left.toString ++ joint.toString.intercalate (ws.map (bar across)) ++ right.toString

/-- A line of a cell between spaces, filled up to the width of its column. -/
def pad (width : Nat) (line : String) : String :=
  " " ++ line ++ String.ofList (List.replicate (width - Text.width line.toList) ' ') ++ " "

def rowLines (ws : List Nat) (row : List String) : List String :=
  let cells := row.map cellLines
  let height := (cells.map List.length).foldl max 1
  (List.range height).map fun i =>
    "│" ++ "┆".intercalate ((ws.zip cells).map fun (w, ls) => pad w (ls[i]?.getD "")) ++ "│"

def lines (g : Grid) : List String :=
  let ws := g.widths
  [rule '┌' '─' '┬' '┐' ws] ++ rowLines ws g.header ++ [rule '╞' '═' '╪' '╡' ws] ++
    g.rows.flatMap (rowLines ws) ++ [rule '└' '─' '┴' '┘' ws]

/-- The text of a table, without a line break at the end. -/
def text (g : Grid) : String := "\n".intercalate g.lines

end Grid

end CatalogSearch.Command
