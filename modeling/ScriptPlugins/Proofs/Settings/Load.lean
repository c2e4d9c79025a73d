import ScriptPlugins.Proofs.Log.Outcome
import ScriptPlugins.Proofs.Settings.Layers

/-!
# Loading settings from a project

The settings of a project are, key by key, what the environment says, or else what the first settings
file that exists says, or else the defaults. So what is said under one key is of no matter for another
key, as long as no layer takes back what another one said.
-/

namespace ScriptPlugins

open Text

namespace Settings

variable {α : Type} {tree : Tree} {environment : Environment} {project : Path}
  {settings : Settings} {written : Json}

namespace Leaf

variable {leaf : Leaf α}

theorem Holds.unique {part : Option Json} {first second : α} (hfirst : leaf.Holds part first)
    (hsecond : leaf.Holds part second) : first = second := by
  cases part with
  | none => exact hfirst.trans hsecond.symm
  | some json => exact Option.some.inj (hfirst.symm.trans hsecond)

end Leaf

end Settings

end ScriptPlugins
