import ScriptPlugins.Proofs.Json.Overlay
import ScriptPlugins.Settings.Environment

/-!
# What variables stand for

Whatever the value of a variable, it stands for a tidy value, and as its name is one name at least,
the variable stands for an object.
-/

namespace ScriptPlugins

open Text

namespace EnvironmentValue

end EnvironmentValue

namespace Variable

end Variable

end ScriptPlugins
