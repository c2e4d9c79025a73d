/-!
# JSON values

The values that settings are made of, in whatever format they were written. An object keeps its
fields as a list, so that a field written twice can be told from one written once. Nobody computes
with numbers here, so a number is kept as it is written.
-/

namespace ScriptPlugins

inductive Json where
  | null
  | bool (value : Bool)
  | number (literal : String)
  /-- No value means that half of a surrogate pair is missing, so that no string is meant. -/
  | text (value : Option String)
  | list (items : List Json)
  | object (fields : List (Option String × Json))
  deriving Repr, Inhabited

namespace Json

def ofString (value : String) : Json :=
  .text (some value)

def ofStrings (values : List String) : Json :=
  .list (values.map ofString)

def ofFields (fields : List (String × Json)) : Json :=
  .object (fields.map fun (name, value) => (some name, value))

mutual

/-- One value laid over another: objects are merged field by field, all else is replaced. -/
def overlay : Json → Json → Json
  | .object fields, .object others => .object (overlayFields fields others)
  | _, other => other

def overlayFields (fields : List (Option String × Json)) :
    List (Option String × Json) → List (Option String × Json)
  | [] => fields
  | (name, value) :: rest =>
    match fields.lookup name with
    | none => overlayFields (fields ++ [(name, value)]) rest
    | some below =>
      let merged := overlay below value
      overlayFields (fields.map fun field => if field.1 = name then (name, merged) else field) rest

end

/-- The value in objects nested by these names. -/
def nested : List String → Json → Json
  | [], value => value
  | name :: names, value => ofFields [(name, nested names value)]

end Json

end ScriptPlugins
