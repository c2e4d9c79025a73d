import ScriptPlugins.Settings.EnvironmentValue
import ScriptPlugins.Text.Capital
import ScriptPlugins.Text.Pieces

/-!
# Settings in the environment

A variable whose name starts with `PLUGSCRIPT__` sets the value under the names that follow, which
two underscores separate. Names of variables have no capital letters to speak of, so a single
underscore stands for one: the letter after it is upper case and every other one lower case. Of two
variables for one setting, the one that comes later in the environment wins.
-/

namespace ScriptPlugins

open Text

structure Variable where
  name : String
  value : String
  deriving Repr, DecidableEq

namespace Variable

/-- How the names of variables start that are settings, in any case. -/
def marker : List Char := "PLUGSCRIPT__".toList

/-- Two underscores become the dot between two names. -/
def separate : List Char → List Char
  | '_' :: '_' :: rest => '.' :: separate rest
  | c :: rest => c :: separate rest
  | [] => []

/-- Drops each underscore and puts the character after it in upper case. -/
def raise (pending : Bool) : List Char → List Char
  | [] => []
  | c :: rest =>
    if c = '_' then raise true rest
    else if pending then upper c ++ raise false rest
    else c :: raise false rest

/-- A key of settings for the part of a name that stands for it. -/
def camelCaseKey (key : List Char) : List Char :=
  raise false (key.map Char.toLower)

/-- The names under which a variable sets a value. -/
def path? (name : String) : Option (List String) :=
  let written := trim name.toList
  if written.length < marker.length then none
  else if (written.take marker.length).map Char.toUpper ≠ marker then none
  else
    let key := camelCaseKey (separate (written.drop marker.length))
    let names := pieces '.' key
    if names.any List.isEmpty then none else some (names.map String.ofList)

def toJson? (entry : Variable) : Option Json :=
  (path? entry.name).map (Json.nested · (EnvironmentValue.parse entry.value))

end Variable

/-- The variables of the environment that the program was started in, in the order in which the
environment has them. -/
abbrev Environment := List Variable

namespace Environment

def value? (environment : Environment) (name : String) : Option String :=
  (environment.find? (·.name == name)).map Variable.value

def toJson (environment : Environment) : Json :=
  (environment.filterMap Variable.toJson?).foldl Json.overlay (.object [])

end Environment

end ScriptPlugins
