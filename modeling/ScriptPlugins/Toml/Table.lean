import ScriptPlugins.Json.Basic

/-!
# Tables of a TOML document

A table may be opened by a header, and then only once; it may be there because a header names a
table inside it, and then a header of its own may still come; or because a dotted key leads through
it, and then only dotted keys may add to it. So each table remembers where it comes from.
-/

namespace ScriptPlugins.Toml

inductive Origin where
  | header
  /-- On the way to a table that a header names. -/
  | implied
  /-- On the way of a dotted key. -/
  | dotted
  deriving Repr, DecidableEq

inductive Node where
  | value (value : Json)
  | table (origin : Origin) (fields : List (String × Node))
  /-- The tables that repeated headers open, first to last. -/
  | tables (items : List (List (String × Node)))
  deriving Repr

abbrev Fields := List (String × Node)

namespace Fields

def set (fields : Fields) (name : String) (node : Node) : Fields :=
  if (fields.lookup name).isSome then
    fields.map fun field => if field.1 = name then (name, node) else field
  else fields ++ [(name, node)]

/-- Puts a value under a dotted key. Nothing that is there already is replaced. -/
def insert (key : String) (value : Json) : List String → Fields → Option Fields
  | [], fields =>
    if (fields.lookup key).isSome then none else some (fields.set key (.value value))
  | name :: path, fields =>
    match fields.lookup name with
    | none => do
      let inner ← insert key value path []
      return fields.set name (.table .dotted inner)
    | some (.table origin inner) => do
      if origin = .header || (path.isEmpty && origin ≠ .dotted) then none
      let inner ← insert key value path inner
      return fields.set name (.table origin inner)
    | some (.tables items) => do
      if path.isEmpty then none
      let inner ← insert key value path (← items.getLast?)
      return fields.set name (.tables (items.dropLast ++ [inner]))
    | some (.value _) => none

/-- Changes the table that the names of a header lead to. Tables that are missing on the way are
made, and the way into repeated tables leads into the last one. -/
def modify (change : Fields → Option Fields) : List String → Fields → Option Fields
  | [], fields => change fields
  | name :: path, fields =>
    match fields.lookup name with
    | none => do
      let inner ← modify change path []
      return fields.set name (.table .implied inner)
    | some (.table origin inner) => do
      let inner ← modify change path inner
      return fields.set name (.table origin inner)
    | some (.tables items) => do
      let inner ← modify change path (← items.getLast?)
      return fields.set name (.tables (items.dropLast ++ [inner]))
    | some (.value _) => none

def openTable (fill : Fields → Option Fields) (name : String) (fields : Fields) :
    Option Fields := do
  let before ← match fields.lookup name with
    | none => some []
    | some (.table .implied inner) => some inner
    | some _ => none
  return fields.set name (.table .header (← fill before))

/-- Opens one more of several tables and fills it. -/
def openRepeated (fill : Fields → Option Fields) (name : String) (fields : Fields) :
    Option Fields := do
  let before ← match fields.lookup name with
    | none => some []
    | some (.tables items) => some items
    | some _ => none
  return fields.set name (.tables (before ++ [← fill []]))

end Fields

mutual

def Node.toJson : Node → Json
  | .value value => value
  | .table _ fields => .object (fieldsToJson fields)
  | .tables items => .list (tablesToJson items)

def fieldsToJson : List (String × Node) → List (Option String × Json)
  | [] => []
  | (name, node) :: rest => (some name, node.toJson) :: fieldsToJson rest

def tablesToJson : List (List (String × Node)) → List Json
  | [] => []
  | fields :: rest => .object (fieldsToJson fields) :: tablesToJson rest

end

end ScriptPlugins.Toml
