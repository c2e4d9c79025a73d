import ScriptPlugins.Log.Event
import ScriptPlugins.Programs.Basic
import ScriptPlugins.Text.Letter

/-!
# The compiler

The compiler is an outside program. Until it runs, the arguments and source roots that others
contribute are collected here. Without a command there is nothing to run, which is no error, so a
project can generate its wrappers and leave compiling to something else.
-/

namespace ScriptPlugins

open Text

structure CompilerArguments where
  /-- The full names of the templates that scripts are compiled against. -/
  scriptTemplates : List String
  /-- The imports that every script has without asking for them. -/
  implicitImports : List String
  deriving Repr, DecidableEq

namespace CompilerArguments

/-- The entry of the resolver's environment that holds the imports, joined by colons. -/
def environment (arguments : CompilerArguments) : String :=
  "implicitImports=\"" ++ ":".intercalate arguments.implicitImports ++ "\""

def toList (arguments : CompilerArguments) : List String :=
  ["-script-templates", ",".intercalate arguments.scriptTemplates,
   "-Xscript-resolver-environment=" ++ arguments.environment]

end CompilerArguments

structure Compiler where
  command : Option String
  /-- The directories of sources, without repetition. -/
  roots : List Path
  arguments : List String
  deriving Repr, DecidableEq

namespace Compiler

def new (command : Option String) : Compiler :=
  ⟨command, [], []⟩

def addRoot (compiler : Compiler) (directory : Path) : Compiler :=
  if compiler.roots.any (·.same directory) then compiler
  else { compiler with roots := compiler.roots ++ [directory] }

def addArguments (compiler : Compiler) (arguments : List String) : Compiler :=
  { compiler with arguments := compiler.arguments ++ arguments }

def event (level : Level) (message : String) : Event :=
  ⟨level, .compiler, message⟩

/-- What comes after the command: the collected arguments, more of them, and the sources. -/
def commandLine (compiler : Compiler) (sources : List Path) (more : List String) : List Bytes :=
  (compiler.arguments ++ more).map Utf8.ofString ++ sources.map Path.bytes

/-- The complaint of a program as messages quote it. -/
def quote (complaint : Bytes) : String :=
  String.ofList (trim (Utf8.display complaint).toList)

def compile (compiler : Compiler) (programs : Programs) (sources : List Path)
    (more : List String) (tree : Tree) : Outcome Tree Failure Unit :=
  match compiler.command with
  | none =>
    .ok () tree [event .warn "No compiler command configured, skipping compilation"]
  | some command =>
    let spawning := event .debug "Spawning compiler"
    match programs command (compiler.commandLine sources more) tree with
    | (.error fault, tree) => .error (.files (.ofString command) fault) tree [spawning]
    | (.ok ended, tree) =>
      if ended.status.isSuccess then .ok () tree [spawning]
      else
        .error (.compilation (.exited command ended.status (quote ended.complaint))) tree
          [spawning, event .warn "Compiler failed"]

end Compiler

end ScriptPlugins
