import ScriptPlugins.Text.Letter
import ScriptPlugins.Text.Pieces

/-!
# Lines and their common indentation

A line ends at a line feed, with which goes a carriage return right before it. Text after the last
line feed is a line if there is any.

`trimIndent` makes it possible to indent a block of text like the code around it. It takes away as
many characters as the least indented line starts with, blank lines not counted, so that the lines
keep their distances from each other.
-/

namespace ScriptPlugins.Text

def isBlankLine (line : List Char) : Bool :=
  line.all isBlank

/-- A line without the carriage return that belongs to the line break. -/
def dropReturn (line : List Char) : List Char :=
  if line.getLast? = some '\r' then line.dropLast else line

/-- The lines of a text. Only a line that a line feed ends can lose a carriage return. -/
def lines (text : List Char) : List (List Char) :=
  let all := pieces '\n' text
  let ended := all.dropLast.map dropReturn
  match all.getLast? with
  | none | some [] => ended
  | some last => ended ++ [last]

def indentOf (line : List Char) : Nat :=
  (line.takeWhile isBlank).length

/-- The indentation that all lines share that are not blank. -/
def commonIndent (lines : List (List Char)) : Nat :=
  ((lines.filter (!isBlankLine ·)).map indentOf).min?.getD 0

/-- The lines without a blank one at the start and without a blank one at the end. -/
def dropBlankEnds (lines : List (List Char)) : List (List Char) :=
  let blankFirst := lines.head?.any isBlankLine
  let lines := if blankFirst then lines.drop 1 else lines
  if lines.getLast?.any isBlankLine then lines.dropLast else lines

def trimIndent (text : List Char) : List Char :=
  let all := lines text
  let indent := commonIndent all
  join '\n' ((dropBlankEnds all).map fun line =>
    if isBlankLine line then [] else line.drop indent)

end ScriptPlugins.Text
