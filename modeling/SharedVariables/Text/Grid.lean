/-!
# Tables in text

A grid is drawn with box characters: a rule, the header lines, a rule, the body lines, and a rule.
Every column is as wide as its widest cell, counted in characters, and cells are filled up with
spaces on the right.
-/

namespace SharedVariables.Text

/-- A table of cells: header lines, then body lines. -/
structure Grid where
  header : List (List String)
  body : List (List String)

namespace Grid

/-- The widths of the columns: for each the length of its longest cell. -/
def widths (g : Grid) : List Nat :=
  (g.header ++ g.body).foldl (fun ws cells => List.zipWith max ws (cells.map String.length))
    ((g.header.headD []).map fun _ => 0)

/-- A rule across columns of the given widths. -/
def rule (left middle right : Char) (widths : List Nat) : List Char :=
  let dashes := widths.map fun w => List.replicate (w + 2) '─'
  left :: ((List.intersperse [middle] dashes).flatten ++ [right])

/-- One cell between a space on either side, with the bar that ends it. -/
def cell (text : String) (width : Nat) : List Char :=
  ' ' :: (text.toList ++ List.replicate (width - text.length) ' ' ++ [' ', '│'])

/-- A line of cells in columns of the given widths. -/
def line (widths : List Nat) (cells : List String) : List Char :=
  '│' :: (List.zipWith cell cells widths).flatten

/-- The lines of a table. -/
def lines (g : Grid) : List (List Char) :=
  let ws := g.widths
  [rule '┌' '┬' '┐' ws] ++ g.header.map (line ws) ++ [rule '├' '┼' '┤' ws] ++
    g.body.map (line ws) ++ [rule '└' '┴' '┘' ws]

end Grid

/-- Lines of characters, each ended by a newline. -/
def unlines (lines : List (List Char)) : String :=
  String.ofList (lines.flatMap (· ++ ['\n']))

end SharedVariables.Text
