import ScriptPlugins.Json.Basic

/-!
# Dates and times of TOML

A date, a time of day, or both, in which case an offset may follow. The day must exist in the month,
and a minute may have a leap second. Settings have no use for dates, so one is read as an object
with a field that nothing else has: it takes the place of no text or number.
-/

namespace ScriptPlugins.Toml

def readFixed (count : Nat) (source : List Char) : Option (Nat × List Char) :=
  let digits := source.take count
  if digits.length = count && digits.all Char.isDigit then
    some (digits.foldl (fun value c => value * 10 + (c.toNat - '0'.toNat)) 0, source.drop count)
  else none

def readTwo (least most : Nat) (source : List Char) : Option (Nat × List Char) := do
  let (value, rest) ← readFixed 2 source
  if least ≤ value ∧ value ≤ most then return (value, rest) else none

def expect (c : Char) : List Char → Option (List Char)
  | d :: rest => if d = c then some rest else none
  | [] => none

def isLeapYear (year : Nat) : Bool :=
  year % 4 == 0 && (year % 100 != 0 || year % 400 == 0)

def daysIn (year month : Nat) : Nat :=
  if month = 2 then if isLeapYear year then 29 else 28
  else if [4, 6, 9, 11].contains month then 30
  else 31

def readDate (source : List Char) : Option (List Char) := do
  let (year, rest) ← readFixed 4 source
  let rest ← expect '-' rest
  let (month, rest) ← readTwo 1 12 rest
  let rest ← expect '-' rest
  let (_, rest) ← readTwo 1 (daysIn year month) rest
  return rest

/-- What follows the digits after a point, if there is one. -/
def skipFraction : List Char → List Char
  | '.' :: c :: rest =>
    if c.isDigit then rest.dropWhile Char.isDigit else '.' :: c :: rest
  | source => source

def readTime (source : List Char) : Option (List Char) := do
  let (_, rest) ← readTwo 0 23 source
  let rest ← expect ':' rest
  let (_, rest) ← readTwo 0 59 rest
  let rest ← expect ':' rest
  let (_, rest) ← readTwo 0 60 rest
  return skipFraction rest

def readOffset : List Char → Option (List Char)
  | c :: rest =>
    if c == 'Z' || c == 'z' then some rest
    else if c == '+' || c == '-' then do
      let (_, rest) ← readTwo 0 23 rest
      let rest ← expect ':' rest
      let (_, rest) ← readTwo 0 59 rest
      return rest
    else none
  | [] => none

/-- What follows the time after a date, if there is one. -/
def skipTimeOfDay : List Char → List Char
  | c :: rest =>
    if c == 'T' || c == 't' || c == ' ' then
      match readTime rest with
      | some after => (readOffset after).getD after
      | none => c :: rest
    else c :: rest
  | [] => []

def readMoment (source : List Char) : Option (List Char) :=
  (readDate source).map skipTimeOfDay <|> readTime source

/-- The value that stands for a date as it is written. -/
def ofMoment (written : List Char) : Json :=
  .ofFields [("$__toml_private_datetime", .ofString (String.ofList written))]

def readDateTime (source : List Char) : Option (Json × List Char) :=
  (readMoment source).map fun rest =>
    (ofMoment (source.take (source.length - rest.length)), rest)

end ScriptPlugins.Toml
