import ScriptPlugins.Proofs.Toml.Table
import ScriptPlugins.Toml.Document

/-!
# What a document stands for

A document stands for a tidy object: no null can be written, a name that is given twice in a table is
an error, and headers add to what is there.
-/

namespace ScriptPlugins.Toml

variable {value : Json} {source rest : List Char} {fields result : Fields} {names : List String}
  {statements : List Statement}

/-- The values that a statement puts into tables are tidy. -/
def Statement.Tidy : Statement → Prop
  | .entry _ value => value.Tidy
  | _ => True

end ScriptPlugins.Toml
