import ScriptPlugins.Toml.Date
import ScriptPlugins.Toml.Number
import ScriptPlugins.Toml.Quoted
import ScriptPlugins.Toml.Table

/-!
# TOML documents

A document is read line by line into nested tables: a header says which table the following keys go
into, and a dotted key leads through tables of its own. Values may be nested in brackets and braces
to a limited depth.
-/

namespace ScriptPlugins.Toml

/-- Neither values nor the parts of a key may be nested as deep as this. -/
def depthLimit : Nat := 80

def isBareKeyChar (c : Char) : Bool :=
  c.isAlphanum || c == '_' || c == '-'

def readSimpleKey : List Char → Option (String × List Char)
  | '"' :: rest => (readBasic rest).map fun (text, rest) => (String.ofList text, rest)
  | '\'' :: rest => (readLiteral rest).map fun (text, rest) => (String.ofList text, rest)
  | source =>
    match source.takeWhile isBareKeyChar with
    | [] => none
    | name => some (String.ofList name, source.dropWhile isBareKeyChar)

/-- The parts of a dotted key, with blanks around each. -/
def readParts (fuel : Nat) (source : List Char) : Option (List String × List Char) :=
  match fuel with
  | 0 => none
  | fuel + 1 => do
    let (name, rest) ← readSimpleKey (skipBlanks source)
    match skipBlanks rest with
    | '.' :: after =>
      let (names, rest) ← readParts fuel after
      return (name :: names, rest)
    | rest => return ([name], rest)

def readKey (source : List Char) : Option (List String × List Char) := do
  let (names, rest) ← readParts (source.length + 1) source
  if names.length < depthLimit then return (names, rest) else none

/-- Puts a value under the parts of a key. -/
def putAt (names : List String) (value : Json) (fields : Fields) : Option Fields := do
  fields.insert (← names.getLast?) value names.dropLast

def readWord (word : String) (value : Json) (source : List Char) : Option (Json × List Char) :=
  if word.toList.isPrefixOf source then some (value, source.drop word.length) else none

def readScalar (source : List Char) : Option (Json × List Char) :=
  match source with
  | '"' :: _ | '\'' :: _ =>
    (readString source).map fun (text, rest) => (.ofString (String.ofList text), rest)
  | 't' :: _ => readWord "true" (.bool true) source
  | 'f' :: _ => readWord "false" (.bool false) source
  | source => readDateTime source <|> readNumber source

mutual

/-- A value inside as many brackets and braces as `depth`. -/
def readValue (fuel depth : Nat) (source : List Char) : Option (Json × List Char) :=
  match fuel with
  | 0 => none
  | fuel + 1 =>
    match source with
    | '[' :: rest =>
      if depth + 1 < depthLimit then
        (readItems fuel (depth + 1) rest).map fun (items, rest) => (.list items, rest)
      else none
    | '{' :: rest =>
      if depth + 1 < depthLimit then
        match skipBlanks rest with
        | '}' :: rest => some (.object [], rest)
        | rest =>
          (readEntries fuel (depth + 1) [] rest).map fun (fields, rest) =>
            (.object (fieldsToJson fields), rest)
      else none
    | source => readScalar source

/-- The items of an array, up to its closing bracket. A comma may follow the last. -/
def readItems (fuel depth : Nat) (source : List Char) : Option (List Json × List Char) :=
  match fuel with
  | 0 => none
  | fuel + 1 =>
    match skipTrivia source with
    | ']' :: rest => some ([], rest)
    | rest => do
      let (item, rest) ← readValue fuel depth rest
      match skipTrivia rest with
      | ',' :: rest =>
        let (items, rest) ← readItems fuel depth rest
        return (item :: items, rest)
      | ']' :: rest => return ([item], rest)
      | _ => none

/-- The entries of a table on one line, up to its closing brace. No comma may follow the last. -/
def readEntries (fuel depth : Nat) (fields : Fields) (source : List Char) :
    Option (Fields × List Char) :=
  match fuel with
  | 0 => none
  | fuel + 1 => do
    let (names, rest) ← readKey source
    match rest with
    | '=' :: rest =>
      let (value, rest) ← readValue fuel depth (skipBlanks rest)
      let fields ← putAt names value fields
      match skipBlanks rest with
      | ',' :: rest => readEntries fuel depth fields rest
      | '}' :: rest => return (fields, rest)
      | _ => none
    | _ => none

end

inductive Statement where
  | header (names : List String)
  /-- A header in double brackets. -/
  | repeated (names : List String)
  | entry (names : List String) (value : Json)
  deriving Repr

/-- What the line after blanks says, and what follows on it. -/
def readStatement (source : List Char) : Option (Statement × List Char) := do
  match source with
  | '[' :: '[' :: rest =>
    match ← readKey rest with
    | (names, ']' :: ']' :: rest) => return (.repeated names, rest)
    | _ => none
  | '[' :: rest =>
    match ← readKey rest with
    | (names, ']' :: rest) => return (.header names, rest)
    | _ => none
  | source =>
    match ← readKey source with
    | (names, '=' :: rest) =>
      let rest := skipBlanks rest
      let (value, rest) ← readValue (rest.length + 1) 0 rest
      return (.entry names value, rest)
    | _ => none

/-- The statements of a document, of which each ends its line. -/
def readStatements (fuel : Nat) (source : List Char) : Option (List Statement) :=
  match fuel with
  | 0 => none
  | fuel + 1 =>
    match skipBlanks source with
    | [] => some []
    | '#' :: rest =>
      match endLine ('#' :: rest) with
      | some rest => readStatements fuel rest
      | none => none
    | rest =>
      match newline? rest with
      | some rest => readStatements fuel rest
      | none => do
        let (statement, rest) ← readStatement rest
        let statements ← readStatements fuel (← endLine rest)
        return statement :: statements

/-- The entries up to the next header, put into a table. -/
def fill : List Statement → Fields → Option Fields
  | .entry names value :: rest, fields => do fill rest (← putAt names value fields)
  | _, fields => some fields

def isEntry : Statement → Bool
  | .entry _ _ => true
  | _ => false

/-- Carries out statements from a header on. Entries belong to the header before them. -/
def applyHeaders : List Statement → Fields → Option Fields
  | [], fields => some fields
  | .header names :: rest, fields => do
    let name ← names.getLast?
    let fields ← fields.modify (Fields.openTable (fill rest) name) names.dropLast
    applyHeaders rest fields
  | .repeated names :: rest, fields => do
    let name ← names.getLast?
    let fields ← fields.modify (Fields.openRepeated (fill rest) name) names.dropLast
    applyHeaders rest fields
  | .entry _ _ :: rest, fields => applyHeaders rest fields

/-- The text without a mark for its byte order. -/
def dropMark : List Char → List Char
  | '\ufeff' :: rest => rest
  | source => source

/-- The object that a document stands for, or none if it is not well formed. -/
def parse (document : String) : Option Json := do
  let source := dropMark document.toList
  let statements ← readStatements (source.length + 1) source
  let top ← fill statements []
  let fields ← applyHeaders (statements.dropWhile isEntry) top
  return .object (fieldsToJson fields)

end ScriptPlugins.Toml
