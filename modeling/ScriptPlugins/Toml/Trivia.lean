/-!
# What separates the parts of a TOML document

Readers work on what is left of a document. Blanks are spaces and tabs, a line ends with a line feed
that may have a carriage return before it, and a comment runs from a number sign to the end of its
line.
-/

namespace ScriptPlugins.Toml

def isBlank (c : Char) : Bool :=
  c == ' ' || c == '\t'

def skipBlanks (source : List Char) : List Char :=
  source.dropWhile isBlank

def newline? : List Char → Option (List Char)
  | '\n' :: rest => some rest
  | '\r' :: '\n' :: rest => some rest
  | _ => none

/-- The characters that may stand in text: tabs, but no other control characters. -/
def isPrintable (c : Char) : Bool :=
  c == '\t' || (decide (0x20 ≤ c.toNat) && c.toNat != 0x7F)

/-- Skips a comment, if there is one, up to the line break. -/
def skipComment : List Char → List Char
  | '#' :: rest => rest.dropWhile isPrintable
  | source => source

/-- What follows the line, if nothing but blanks and a comment is left of it. -/
def endLine (source : List Char) : Option (List Char) :=
  match skipComment (skipBlanks source) with
  | [] => some []
  | rest => newline? rest

/-- Skips blanks, and lines with nothing but blanks and comments, as often as `fuel` says. -/
def skipLines : Nat → List Char → List Char
  | 0, source => source
  | fuel + 1, source =>
    let rest := skipBlanks source
    match newline? (skipComment rest) with
    | some after => skipLines fuel after
    | none => rest

/-- Skips what may stand around the items of an array. -/
def skipTrivia (source : List Char) : List Char :=
  skipLines source.length source

end ScriptPlugins.Toml
