import Mathlib.Data.List.Induction
import ScriptPlugins.Proofs.Settings.Environment
import ScriptPlugins.Proofs.Settings.Leaf
import ScriptPlugins.Proofs.Toml.Document
import ScriptPlugins.Settings.Load

/-!
# Layers of settings

What is loaded for a key is what the last layer says that says something about it. There is one way
in which a layer can do more than that: if it gives the section of the key anew, and this is no table
to be added to a table, then nothing of the section below it is left.
-/

namespace ScriptPlugins

namespace Environment

/-- What the variables say, each for itself and in their order. -/
def layers (environment : Environment) : List Json :=
  environment.filterMap Variable.toJson?

end Environment

namespace Settings

namespace Leaf

variable {α : Type} {leaf : Leaf α} {lower upper part layer written : Json} {layers : List Json}
  {environment : Environment} {settings : Settings}

/-- The upper layer gives the section of the key anew, so that what the lower one says under the key
is no longer there, and says nothing under it itself. -/
def TakenBack (leaf : Leaf α) (lower upper : Json) : Prop :=
  ∃ below above, lower.field? leaf.place.name = some below ∧
    upper.field? leaf.place.name = some above ∧ leaf.in? lower ≠ none ∧ leaf.in? upper = none ∧
    ¬(below.IsObject ∧ above.IsObject)

section Overlay

variable (hlower : lower.IsObject) (hupper : upper.IsObject) (htidy : upper.Tidy)

include hlower hupper htidy

end Overlay

/-- What the variables say all together. -/
def merged (layers : List Json) : Json :=
  layers.foldl Json.overlay (.object [])

/-- The last thing that was said is there, or an object into which it was merged. -/
def Shows (found last : Option Json) : Prop :=
  found = last ∨ last ≠ none ∧ ∃ json, found = some json ∧ json.IsObject

/-- No layer takes back what one below it says under the key. -/
structure Kept (leaf : Leaf α) (written : Json) (environment : Environment) : Prop where
  entries : environment.layers.Pairwise fun lower upper => ¬leaf.TakenBack lower upper
  file : ¬leaf.TakenBack written environment.toJson

section Written

variable (hobject : written.IsObject) (htidy : written.Tidy)

include hobject htidy

variable (hupper : upper.IsObject) (htidyupper : upper.Tidy)
  (hread : ofJson? false ((Settings.default.toJson.overlay written).overlay upper) = some settings)

include hupper htidyupper hread

end Written

end Leaf

end Settings

end ScriptPlugins
