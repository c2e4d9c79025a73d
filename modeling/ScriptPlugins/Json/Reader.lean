import ScriptPlugins.Json.Basic

/-!
# Reading JSON

The reader accepts what the grammar of JSON derives and nothing else. It works on what is left of
the text: each part hands back its value and the rest. A value inside another is read with less
fuel, and as every level of nesting takes a bracket, the length of the text is enough.
-/

namespace ScriptPlugins.Json

def isSpace (c : Char) : Bool :=
  c == ' ' || c == '\n' || c == '\t' || c == '\r'

def skipSpace (source : List Char) : List Char :=
  source.dropWhile isSpace

def expectWord (word : String) (source : List Char) : Option (List Char) :=
  if word.toList.isPrefixOf source then some (source.drop word.length) else none

def readDigits (source : List Char) : Option (List Char × List Char) :=
  match source.takeWhile Char.isDigit with
  | [] => none
  | found => some (found, source.dropWhile Char.isDigit)

/-- An integer without a sign, which has no zero before other digits. -/
def readWhole : List Char → Option (List Char × List Char)
  | '0' :: rest => some (['0'], rest)
  | source => readDigits source

def readFraction : List Char → Option (List Char × List Char)
  | '.' :: rest => (readDigits rest).map fun (found, rest) => ('.' :: found, rest)
  | source => some ([], source)

def readExponentSign : List Char → List Char × List Char
  | '+' :: rest => (['+'], rest)
  | '-' :: rest => (['-'], rest)
  | source => ([], source)

def readExponent : List Char → Option (List Char × List Char)
  | [] => some ([], [])
  | e :: rest =>
    if e == 'e' || e == 'E' then
      let (sign, rest) := readExponentSign rest
      (readDigits rest).map fun (found, rest) => (e :: (sign ++ found), rest)
    else some ([], e :: rest)

def readSign : List Char → List Char × List Char
  | '-' :: rest => (['-'], rest)
  | source => ([], source)

def readNumber (source : List Char) : Option (Json × List Char) := do
  let (minus, rest) := readSign source
  let (whole, rest) ← readWhole rest
  let (fraction, rest) ← readFraction rest
  let (exponent, rest) ← readExponent rest
  return (.number (String.ofList (minus ++ whole ++ fraction ++ exponent)), rest)

def hexValue? (c : Char) : Option Nat :=
  if c.isDigit then some (c.toNat - '0'.toNat)
  else if 'a' ≤ c ∧ c ≤ 'f' then some (c.toNat - 'a'.toNat + 10)
  else if 'A' ≤ c ∧ c ≤ 'F' then some (c.toNat - 'A'.toNat + 10)
  else none

def hex? (digits : List Char) : Option Nat :=
  digits.foldl (fun value? c => do return (← value?) * 16 + (← hexValue? c)) (some 0)

/-- A piece of a string: a character, or a code unit of sixteen bits that was written as such. -/
inductive Unit16 where
  | char (c : Char)
  | unit (code : Nat)
  deriving Repr, DecidableEq

/-- What a letter stands for after a backslash. -/
def letterEscape? (c : Char) : Option Char :=
  [('"', '"'), ('\\', '\\'), ('/', '/'), ('b', '\x08'), ('f', '\x0c'), ('n', '\n'), ('r', '\r'),
   ('t', '\t')].lookup c

/-- The pieces of a string up to the quote that ends it. -/
def readPieces : List Char → Option (List Unit16 × List Char)
  | [] => none
  | '"' :: rest => some ([], rest)
  | '\\' :: 'u' :: a :: b :: c :: d :: rest => do
    let code ← hex? [a, b, c, d]
    let (found, rest) ← readPieces rest
    return (.unit code :: found, rest)
  | '\\' :: letter :: rest => do
    let meant ← letterEscape? letter
    let (found, rest) ← readPieces rest
    return (.char meant :: found, rest)
  | c :: rest => do
    if c.toNat < 0x20 || c == '\\' then none
    let (found, rest) ← readPieces rest
    return (.char c :: found, rest)

def isHighSurrogate (code : Nat) : Bool :=
  decide (0xD800 ≤ code) && decide (code ≤ 0xDBFF)

def isLowSurrogate (code : Nat) : Bool :=
  decide (0xDC00 ≤ code) && decide (code ≤ 0xDFFF)

/-- The text that pieces make up, if the surrogates among them come in pairs. -/
def assemble : List Unit16 → Option (List Char)
  | [] => some []
  | .char c :: rest => (assemble rest).map (c :: ·)
  | .unit high :: .unit low :: rest =>
    if isHighSurrogate high then
      if isLowSurrogate low then
        (assemble rest).map (Char.ofNat (0x10000 + (high - 0xD800) * 0x400 + (low - 0xDC00)) :: ·)
      else none
    else if isLowSurrogate high then none
    else (assemble (.unit low :: rest)).map (Char.ofNat high :: ·)
  | .unit code :: rest =>
    if isHighSurrogate code || isLowSurrogate code then none
    else (assemble rest).map (Char.ofNat code :: ·)

def readString (source : List Char) : Option (Option String × List Char) :=
  (readPieces source).map fun (found, rest) => ((assemble found).map String.ofList, rest)

def readName (source : List Char) : Option (Option String × List Char) :=
  match skipSpace source with
  | '"' :: rest => do
    let (name, rest) ← readString rest
    match skipSpace rest with
    | ':' :: rest => return (name, rest)
    | _ => none
  | _ => none

mutual

def readValue (fuel : Nat) (source : List Char) : Option (Json × List Char) :=
  match fuel with
  | 0 => none
  | fuel + 1 =>
    match skipSpace source with
    | [] => none
    | '"' :: rest => (readString rest).map fun (found, rest) => (.text found, rest)
    | '[' :: rest =>
      match skipSpace rest with
      | ']' :: rest => some (.list [], rest)
      | rest => do
        let (item, rest) ← readValue fuel rest
        let (items, rest) ← readItems fuel rest
        return (.list (item :: items), rest)
    | '{' :: rest =>
      match skipSpace rest with
      | '}' :: rest => some (.object [], rest)
      | rest => do
        let (name, rest) ← readName rest
        let (first, rest) ← readValue fuel rest
        let (others, rest) ← readFields fuel rest
        return (.object ((name, first) :: others), rest)
    | 'n' :: rest => (expectWord "ull" rest).map fun rest => (.null, rest)
    | 't' :: rest => (expectWord "rue" rest).map fun rest => (.bool true, rest)
    | 'f' :: rest => (expectWord "alse" rest).map fun rest => (.bool false, rest)
    | source => readNumber source

/-- The items after the first, up to the bracket that ends the list. -/
def readItems (fuel : Nat) (source : List Char) : Option (List Json × List Char) :=
  match fuel with
  | 0 => none
  | fuel + 1 =>
    match skipSpace source with
    | ']' :: rest => some ([], rest)
    | ',' :: rest => do
      let (item, rest) ← readValue fuel rest
      let (others, rest) ← readItems fuel rest
      return (item :: others, rest)
    | _ => none

/-- The fields after the first, up to the brace that ends the object. -/
def readFields (fuel : Nat) (source : List Char) :
    Option (List (Option String × Json) × List Char) :=
  match fuel with
  | 0 => none
  | fuel + 1 =>
    match skipSpace source with
    | '}' :: rest => some ([], rest)
    | ',' :: rest => do
      let (name, rest) ← readName rest
      let (first, rest) ← readValue fuel rest
      let (others, rest) ← readFields fuel rest
      return ((name, first) :: others, rest)
    | _ => none

end

/-- The value that a text is, with nothing around it but blanks. -/
def parse (text : String) : Option Json := do
  let source := text.toList
  let (found, rest) ← readValue (source.length + 1) source
  if (skipSpace rest).isEmpty then return found else none

end ScriptPlugins.Json
