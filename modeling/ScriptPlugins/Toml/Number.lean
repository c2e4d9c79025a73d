import ScriptPlugins.Json.Basic
import ScriptPlugins.Text.Decimal
import ScriptPlugins.Toml.Trivia

/-!
# Numbers of TOML

Underscores may stand between two digits. A whole number must fit into 64 bits with a sign, and no
zero comes before its other digits unless it has a base. Of numbers with a fraction or an exponent
only those are refused that are too large above zero.
-/

namespace ScriptPlugins.Toml

open Text (Decimal.overflows)

/-- The characters of a number after its first one: digits, and underscores before digits. -/
def moreDigits (isDigit : Char → Bool) : List Char → List Char × List Char
  | '_' :: c :: rest =>
    if isDigit c then
      let (found, after) := moreDigits isDigit rest
      (c :: found, after)
    else ([], '_' :: c :: rest)
  | c :: rest =>
    if isDigit c then
      let (found, after) := moreDigits isDigit rest
      (c :: found, after)
    else ([], c :: rest)
  | [] => ([], [])

def someDigits (isDigit : Char → Bool) : List Char → Option (List Char × List Char)
  | c :: rest =>
    if isDigit c then
      let (found, after) := moreDigits isDigit rest
      some (c :: found, after)
    else none
  | [] => none

def readSign : List Char → Bool × List Char
  | '-' :: rest => (true, rest)
  | '+' :: rest => (false, rest)
  | source => (false, source)

def readWhole : List Char → Option (List Char × List Char)
  | '0' :: rest => some (['0'], rest)
  | source => someDigits Char.isDigit source

def isHex (c : Char) : Bool :=
  c.isDigit || (decide ('a' ≤ c) && decide (c ≤ 'f')) || (decide ('A' ≤ c) && decide (c ≤ 'F'))

def isOctal (c : Char) : Bool :=
  decide ('0' ≤ c) && decide (c ≤ '7')

def isBinary (c : Char) : Bool :=
  c == '0' || c == '1'

def digitValue (c : Char) : Nat :=
  if c.isDigit then c.toNat - '0'.toNat
  else if decide ('a' ≤ c) then c.toNat - 'a'.toNat + 10
  else c.toNat - 'A'.toNat + 10

def natOf (base : Nat) (digits : List Char) : Nat :=
  digits.foldl (fun value c => value * base + digitValue c) 0

/-- Whether a whole number fits into 64 bits with a sign. -/
def fits (negative : Bool) (value : Nat) : Bool :=
  decide (value < 0x8000000000000000) || (negative && value == 0x8000000000000000)

def ofDigits (negative : Bool) (base : Nat) (digits : List Char) : Option Json :=
  let value := natOf base digits
  if fits negative value then
    some (.number ((if negative then "-" else "") ++ toString value))
  else none

def readBased (isDigit : Char → Bool) (base : Nat) (source : List Char) :
    Option (Json × List Char) := do
  let (digits, rest) ← someDigits isDigit source
  return (← ofDigits false base digits, rest)

def readInteger : List Char → Option (Json × List Char)
  | '0' :: 'x' :: rest => readBased isHex 16 rest
  | '0' :: 'o' :: rest => readBased isOctal 8 rest
  | '0' :: 'b' :: rest => readBased isBinary 2 rest
  | source => do
    let (negative, rest) := readSign source
    let (digits, rest) ← readWhole rest
    return (← ofDigits negative 10 digits, rest)

/-- The digits after a point, if there is one. -/
def readFraction : List Char → Option (List Char × List Char)
  | '.' :: rest => someDigits Char.isDigit rest
  | _ => none

/-- The number after a letter for an exponent, if there is one. -/
def readExponent : List Char → Option (Int × List Char)
  | c :: rest =>
    if c == 'e' || c == 'E' then
      let (negative, rest) := readSign rest
      (someDigits Char.isDigit rest).map fun (digits, rest) =>
        (if negative then -(natOf 10 digits : Int) else natOf 10 digits, rest)
    else none
  | [] => none

/-- A number whose digits and power of ten have been read. -/
def ofScientific (negative : Bool) (digits : List Char) (exponent : Int) : Option Json :=
  if !negative && Decimal.overflows digits exponent then none
  else some (.number ((if negative then "-" else "") ++ String.ofList digits ++ "e"
    ++ toString exponent))

/-- A number with a fraction, an exponent or both. -/
def readScientific (source : List Char) : Option (Json × List Char) := do
  let (negative, rest) := readSign source
  let (whole, rest) ← readWhole rest
  match readFraction rest with
  | some (fraction, rest) =>
    let (exponent, rest) := (readExponent rest).getD (0, rest)
    return (← ofScientific negative (whole ++ fraction) (exponent - fraction.length), rest)
  | none =>
    let (exponent, rest) ← readExponent rest
    return (← ofScientific negative whole exponent, rest)

/-- The values that are no numbers in the strict sense. -/
def readSpecial (source : List Char) : Option (Json × List Char) :=
  let (negative, rest) := readSign source
  match rest with
  | 'i' :: 'n' :: 'f' :: rest => some (.number (if negative then "-inf" else "inf"), rest)
  | 'n' :: 'a' :: 'n' :: rest => some (.number "nan", rest)
  | _ => none

def readNumber (source : List Char) : Option (Json × List Char) :=
  readScientific source <|> readSpecial source <|> readInteger source

end ScriptPlugins.Toml
