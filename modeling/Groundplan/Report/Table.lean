import Groundplan.Text.Width

/-!
# Tables

A table has a frame, a ruled header and one row below the other.  A column is as wide as its widest
line; each cell has a blank on both sides, and one more blank stands between columns.  A cell of
several lines makes its row as high.  This is the layout where no terminal is known; there, nothing of
a table is in colour.
-/

namespace Groundplan

/-- A table of texts. -/
structure Table where
  header : List String
  rows : List (List String)
  /-- The columns whose cells a terminal shows in red. -/
  red : List Nat := []

namespace Table

/-- The lines of a cell. -/
def lines : List Char → List (List Char)
  | [] => [[]]
  | c :: rest =>
    if c = '\n' then [] :: lines rest
    else
      match lines rest with
      | [] => [[c]]
      | line :: more => (c :: line) :: more

/-- The lines of the cells of a row. -/
def cells (row : List String) : List (List (List Char)) := row.map fun cell => lines cell.toList

/-- The width of a cell. -/
def cellWidth (cell : List (List Char)) : Nat := (cell.map Text.width).foldl max 0

/-- The widths of the columns of some rows. -/
def widths (rows : List (List (List (List Char)))) : List Nat :=
  rows.foldl (fun widest row =>
    let row := row.map cellWidth
    (List.range (max widest.length row.length)).map fun i => max (widest.getD i 0) (row.getD i 0)) []

/-- A line of a cell with blanks up to a width. -/
def pad (width : Nat) (line : List Char) : List Char :=
  ' ' :: line ++ List.replicate (width - Text.width line) ' ' ++ [' ']

/-- A line of a row. -/
def rowLine (widths : List Nat) (row : List (List (List Char))) (n : Nat) : List Char :=
  '│' :: [' '].intercalate (widths.zipIdx.map fun (width, i) => pad width ((row.getD i []).getD n []))
    ++ ['│', '\n']

/-- The lines of a row. -/
def rowLines (widths : List Nat) (row : List (List (List Char))) : List Char :=
  (List.range ((row.map List.length).foldl max 0)).flatMap (rowLine widths row)

/-- A horizontal line of the frame. -/
def frame (widths : List Nat) (left line right : Char) : List Char :=
  left :: List.replicate (widths.foldl (· + · + 2) 0 + (widths.length - 1)) line ++ [right]

/-- The text of a table where no terminal lays it out, without a line break at its end. -/
def text (t : Table) : String :=
  let header := cells t.header
  let rows := t.rows.map cells
  let ws := widths (header :: rows)
  String.ofList <|
    frame ws '┌' '─' '┐' ++ '\n' :: rowLines ws header ++ frame ws '╞' '═' '╡' ++ '\n' ::
      rows.flatMap (rowLines ws) ++ frame ws '└' '─' '┘'

end Table
end Groundplan
