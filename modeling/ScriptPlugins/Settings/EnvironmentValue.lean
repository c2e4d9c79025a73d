import ScriptPlugins.Json.Basic
import ScriptPlugins.Text.Decimal
import ScriptPlugins.Text.Letter
import ScriptPlugins.Toml.Quoted

/-!
# Values of environment variables

The value of a variable may be a truth value, a number, a quoted text, a list in brackets or an
object in braces, and it is a text otherwise. A value that only starts like one of these is a text
too, exactly as it is given. A comma may follow the last item of a list or an object.
-/

namespace ScriptPlugins.EnvironmentValue

open Text

def isSeparator (c : Char) : Bool :=
  c == ',' || c == '{' || c == '}' || c == '[' || c == ']'

def skipSpace (source : List Char) : List Char :=
  source.dropWhile isAsciiBlank

def digits (source : List Char) : List Char × List Char :=
  (source.takeWhile Char.isDigit, source.dropWhile Char.isDigit)

def skipSign : List Char → List Char
  | '+' :: rest | '-' :: rest => rest
  | source => source

def isExponent : List Char → Bool
  | [] => true
  | c :: rest =>
    (c == 'e' || c == 'E') && !(skipSign rest).isEmpty && (skipSign rest).all Char.isDigit

/-- Whether a text with a point in it writes a number. -/
def isPointed (source : List Char) : Bool :=
  let (whole, rest) := digits (skipSign source)
  match rest with
  | '.' :: rest =>
    let (fraction, rest) := digits rest
    !(whole.isEmpty && fraction.isEmpty) && isExponent rest
  | _ => false

/-- Whether a text writes a whole number of 64 bits, with or without a sign. -/
def isWhole (source : List Char) : Bool :=
  let number := skipSign source
  let most := if source.head? == some '-' then 0x8000000000000000 else 0xFFFFFFFFFFFFFFFF
  !number.isEmpty && number.all Char.isDigit && decide (Decimal.natOf number ≤ most)

def ofPlain (source : List Char) : Json :=
  if isPointed source || isWhole source then .number (String.ofList source)
  else .ofString (String.ofList source)

/-- The characters up to the next quote that no backslash precedes, as they are written. -/
def rawQuoted : List Char → Option (List Char × List Char)
  | [] => none
  | '"' :: rest => some ([], rest)
  | '\\' :: c :: rest => (rawQuoted rest).map fun (found, rest) => ('\\' :: c :: found, rest)
  | c :: rest => (rawQuoted rest).map fun (found, rest) => (c :: found, rest)

def readQuoted (source : List Char) : Option (String × List Char) := do
  let (written, rest) ← rawQuoted source
  match ← Toml.readBasic (written ++ ['"']) with
  | (text, []) => return (String.ofList text, rest)
  | _ => none

def isNameChar (c : Char) : Bool :=
  c.isAlphanum || c == '_' || c == '-'

def readName (source : List Char) : Option (String × List Char) := do
  let (name, rest) ← match skipSpace source with
    | '"' :: rest => readQuoted rest
    | rest =>
      match rest.takeWhile isNameChar with
      | [] => none
      | name => some (String.ofList name, rest.dropWhile isNameChar)
  match skipSpace rest with
  | '=' :: rest => return (name, rest)
  | _ => none

def afterWord? (word : String) (source : List Char) : Option (List Char) :=
  if word.toList.isPrefixOf source then some (source.drop word.length) else none

mutual

def readValue (fuel : Nat) (source : List Char) : Option (Json × List Char) :=
  match fuel with
  | 0 => none
  | fuel + 1 => do
    let source := skipSpace source
    let (value, rest) ←
      match afterWord? "true" source, afterWord? "false" source with
      | some rest, _ => some (Json.bool true, rest)
      | none, some rest => some (.bool false, rest)
      | none, none =>
        match source with
        | '{' :: rest =>
          (readFields fuel rest).map fun (fields, rest) => (.object fields, rest)
        | '[' :: rest => (readItems fuel rest).map fun (items, rest) => (.list items, rest)
        | '"' :: rest => (readQuoted rest).map fun (text, rest) => (.ofString text, rest)
        | '\'' :: c :: '\'' :: rest => some (.ofString (String.singleton c), rest)
        | '\'' :: _ => none
        | source =>
          some (ofPlain (trim (source.takeWhile (!isSeparator ·))),
            source.dropWhile (!isSeparator ·))
    return (value, skipSpace rest)

/-- The items of a list up to its closing bracket. -/
def readItems (fuel : Nat) (source : List Char) : Option (List Json × List Char) :=
  match fuel with
  | 0 => none
  | fuel + 1 =>
    match source with
    | ']' :: rest => some ([], rest)
    | source => do
      let (item, rest) ← readValue fuel source
      match rest with
      | ',' :: rest =>
        let (items, rest) ← readItems fuel rest
        return (item :: items, rest)
      | ']' :: rest => return ([item], rest)
      | _ => none

/-- The fields of an object up to its closing brace. Of two with one name the later counts. -/
def readFields (fuel : Nat) (source : List Char) :
    Option (List (Option String × Json) × List Char) :=
  match fuel with
  | 0 => none
  | fuel + 1 =>
    match source with
    | '}' :: rest => some ([], rest)
    | source => do
      let (name, rest) ← readName source
      let (value, rest) ← readValue fuel rest
      let first := (some name, value)
      match rest with
      | ',' :: rest =>
        let (others, rest) ← readFields fuel rest
        return (if others.any (·.1 == some name) then others else first :: others, rest)
      | '}' :: rest => return ([first], rest)
      | _ => none

end

def parse (text : String) : Json :=
  let source := text.toList
  match readValue (2 * source.length + 2) source with
  | some (value, []) => value
  | _ => .ofString text

end ScriptPlugins.EnvironmentValue
