import ScriptPlugins.Text.Letter

/-!
# Tables in columns

A table is shown as one line for each row, in which every cell starts where the cells above and
below it start. A column is as wide as its widest cell, counted in characters, and two blanks
separate it from the next. No line ends in blanks. Cells are filled up to a width of sixteen bits, so
there is no table with a wider column.
-/

namespace ScriptPlugins.Text.Columns

abbrev Row := List (List Char)

/-- Makes columns wide enough for one more row. -/
def widen (widths : List Nat) (row : Row) : List Nat :=
  List.zipWith (fun width cell => max width cell.length) widths row

/-- The widths of the columns that a heading and rows need. -/
def widths (heading : Row) (rows : List Row) : List Nat :=
  rows.foldl widen (heading.map List.length)

def padTo (width : Nat) (cell : List Char) : List Char :=
  cell ++ List.replicate (width - cell.length) ' '

def gap : List Char := [' ', ' ']

def line (widths : List Nat) (row : Row) : List Char :=
  trimEnd (gap.intercalate (List.zipWith padTo widths row))

def table (heading : Row) (rows : List Row) : List (List Char) :=
  (heading :: rows).map (line (widths heading rows))

/-- The widest that a column can be. -/
def widthLimit : Nat := 65535

def table? (heading : Row) (rows : List Row) : Option (List (List Char)) :=
  if (widths heading rows).all (· ≤ widthLimit) then some (table heading rows) else none

end ScriptPlugins.Text.Columns
