import ScriptPlugins.Json.Basic

/-!
# Records as JSON

A record is written as an object with a field for each of its parts, or read from a list that has
the parts in order. An object may have more fields than the record has parts; a part that is written
twice is refused, as it is not clear which one is meant. Whether a list may have more items depends
on who wrote it: `exact` says that it may not.
-/

namespace ScriptPlugins.Json

def string? : Json → Option String
  | .text value => value
  | _ => none

def strings? : Json → Option (List String)
  | .list items => items.mapM string?
  | _ => none

/-- The values of the fields of a name. -/
def fieldsNamed (name : String) (fields : List (Option String × Json)) : List Json :=
  (fields.filter (·.1 == some name)).map (·.2)

/-- The part under a name, if there is one; nothing at all if there are several. -/
def part? (fields : List (Option String × Json)) (name : String) : Option (Option Json) :=
  match fieldsNamed name fields with
  | [] => some none
  | [value] => some (some value)
  | _ => none

/-- The parts of a record in the order of their names; a part may be missing. -/
def parts? (exact : Bool) (names : List String) : Json → Option (List (Option Json))
  | .object fields => if fields.all (·.1.isSome) then names.mapM (part? fields) else none
  | .list items =>
    if exact && decide (names.length < items.length) then none
    else some ((List.range names.length).map (items[·]?))
  | _ => none

end ScriptPlugins.Json
