import BrickControl.Text.Columns

/-!
# Boxed tables

A table with a heading and two columns, each as wide as its widest line. A cell with line breaks
takes several lines.
-/
namespace BrickControl.Report.Table

/-- The lines of a text, with an empty last line where the text ends with a line break. -/
def lines (text : String) : List String :=
  let step (c : Char) (found : List Char × List (List Char)) : List Char × List (List Char) :=
    if c = '\n' then ([], found.1 :: found.2) else (c :: found.1, found.2)
  let (first, others) := text.toList.foldr step ([], [])
  (first :: others).map String.ofList

/-- A row of two cells, each a list of lines. -/
structure Row where
  left : List String
  right : List String

/-- The row of two texts. -/
def Row.of (left right : String) : Row := ⟨lines left, lines right⟩

/-- A sign repeated. -/
def repeated (n : Nat) (sign : Char) : String := String.ofList (List.replicate n sign)

/-- A line of a cell with its padding. -/
def cell (width : Nat) (line : String) : String :=
  " " ++ line ++ repeated (width - Text.columns line) ' ' ++ " "

/-- The lines of a row. -/
def rowLines (left right : Nat) (row : Row) : List String :=
  (List.range (max row.left.length row.right.length)).map fun i =>
    "│" ++ cell left (row.left.getD i "") ++ "┆" ++ cell right (row.right.getD i "") ++ "│"

/-- A line between rows. -/
def rule (left right : Nat) (start line cross stop : Char) : String :=
  start.toString ++ repeated (left + 2) line ++ cross.toString ++ repeated (right + 2) line
    ++ stop.toString

/-- The widest line of some cells. -/
def width (cells : List (List String)) : Nat := (cells.flatten.map Text.columns).foldl max 0

/-- The table of a heading and some rows. -/
def render (heading : Row) (rows : List Row) : String :=
  let left := width ((heading :: rows).map Row.left)
  let right := width ((heading :: rows).map Row.right)
  let body := (rows.map (rowLines left right)).intersperse [rule left right '├' '╌' '┼' '┤']
  "\n".intercalate
    ([rule left right '┌' '─' '┬' '┐'] ++ rowLines left right heading
      ++ [rule left right '╞' '═' '╪' '╡'] ++ body.flatten
      ++ [rule left right '└' '─' '┴' '┘'])

end BrickControl.Report.Table
