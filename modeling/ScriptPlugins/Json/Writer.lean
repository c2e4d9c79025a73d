import ScriptPlugins.Json.Basic

/-!
# JSON text

Values are written over several lines: an item of a list or a field of an object on a line of its
own, two blanks deeper than the brackets around it. Brackets with nothing in them stay on one line.
-/

namespace ScriptPlugins.Json

def hexDigit (value : Nat) : Char :=
  (Nat.digitChar value)

def escape (c : Char) : List Char :=
  if c = '"' then ['\\', '"']
  else if c = '\\' then ['\\', '\\']
  else if c = '\n' then ['\\', 'n']
  else if c = '\r' then ['\\', 'r']
  else if c = '\t' then ['\\', 't']
  else if c = '\x08' then ['\\', 'b']
  else if c = '\x0c' then ['\\', 'f']
  else if c.toNat < 0x20 then
    ['\\', 'u', '0', '0', hexDigit (c.toNat / 16), hexDigit (c.toNat % 16)]
  else [c]

def quote (text : String) : List Char :=
  '"' :: (text.toList.flatMap escape ++ ['"'])

def newLine (depth : Nat) : List Char :=
  '\n' :: List.replicate (2 * depth) ' '

mutual

def write (depth : Nat) : Json → List Char
  | .null => "null".toList
  | .bool value => (if value then "true" else "false").toList
  | .number literal => literal.toList
  | .text value => quote (value.getD "\ufffd")
  | .list [] => ['[', ']']
  | .list (item :: items) =>
    '[' :: (newLine (depth + 1) ++ write (depth + 1) item ++ writeItems (depth + 1) items
      ++ newLine depth ++ [']'])
  | .object [] => ['{', '}']
  | .object ((name, value) :: fields) =>
    '{' :: (newLine (depth + 1) ++ quote (name.getD "\ufffd") ++ [':', ' ']
      ++ write (depth + 1) value ++ writeFields (depth + 1) fields ++ newLine depth ++ ['}'])

def writeItems (depth : Nat) : List Json → List Char
  | [] => []
  | item :: items => ',' :: (newLine depth ++ write depth item ++ writeItems depth items)

def writeFields (depth : Nat) : List (Option String × Json) → List Char
  | [] => []
  | (name, value) :: fields =>
    ',' :: (newLine depth ++ quote (name.getD "\ufffd") ++ [':', ' '] ++ write depth value
      ++ writeFields depth fields)

end

def render (value : Json) : String :=
  String.ofList (value.write 0)

end ScriptPlugins.Json
