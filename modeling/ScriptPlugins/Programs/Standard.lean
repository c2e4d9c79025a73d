import ScriptPlugins.Programs.Shell.Run

/-!
# The programs of a plain system

A command with a slash is a path, any other is looked up among the programs by name. Files of the
tree are not executable.
-/

namespace ScriptPlugins

open Text

namespace Programs

def known? : String → Option (List Bytes → Tree → Ended × Tree)
  | "true" => some fun _ tree => (⟨.code 0, []⟩, tree)
  | "false" => some fun _ tree => (⟨.code 1, []⟩, tree)
  | "echo" => some fun _ tree => (⟨.code 0, []⟩, tree)
  | "sh" => some Shell.program
  | _ => none

/-- Why a command that is no known program cannot be started. -/
def startFault (command : String) (tree : Tree) : Fault :=
  let path := Path.ofString command
  if path.bytes.contains Path.slash then
    match tree.find path with
    | .error fault => fault
    | .ok _ => .permissionDenied
  else if path.bytes.length > Tree.nameLimit then .nameTooLong
  else .notFound

def standard : Programs := fun command arguments tree =>
  if command.toList.contains '\x00' || arguments.any (·.contains 0) then
    (.error (.other "nul byte found in provided data"), tree)
  else match known? (Shell.baseName command) with
    | some program =>
      let (ended, tree) := program arguments tree
      (.ok ended, tree)
    | none => (.error (startFault command tree), tree)

end Programs

end ScriptPlugins
