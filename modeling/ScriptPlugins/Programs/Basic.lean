import ScriptPlugins.Files.Tree

/-!
# Programs

Running another program is a request to the system like reading a file is. What is known of a
program here is what it gets, a command and arguments, and what it leaves behind: a status, what it
wrote to its error stream, and the file tree as it is afterwards.
-/

namespace ScriptPlugins

open Text

structure Ended where
  status : ExitStatus
  complaint : Bytes
  deriving Repr, DecidableEq

/-- Runs a command with arguments. The error is that of starting it. -/
abbrev Programs := String → List Bytes → Tree → Except Fault Ended × Tree

end ScriptPlugins
