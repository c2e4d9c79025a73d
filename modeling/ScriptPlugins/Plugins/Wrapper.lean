import ScriptPlugins.Plugins.Script
import ScriptPlugins.Text.Lines

/-!
# Wrappers

A plugin has to be a class of the build system's plugin type, and a script is not. So each script
gets a generated wrapper: a class that, when the plugin is applied, looks the compiled script up by
name and constructs it. Looking it up by name is what lets the wrapper compile before the script.

The wrapper's source is written below as a block of lines indented like the code around it, and
`trimIndent` takes the indentation away.
-/

namespace ScriptPlugins

open Text

/-- The type that every wrapper implements. -/
def pluginContract : String := "org.gradle.api.Plugin"

/-- What wrappers have in common: the type of the value that a plugin is applied to, and the
extension of their files, without the dot. -/
structure WrapperTemplate where
  contextType : String
  extension : String
  deriving Repr, DecidableEq

namespace WrapperTemplate

def defaultContext : String := "org.gradle.api.Project"

def defaultExtension : String := "kt"

def default : WrapperTemplate :=
  ⟨defaultContext, defaultExtension⟩

/-- The lines of a wrapper, each with its depth. -/
def body (template : WrapperTemplate) (className compiledType : String) :
    List (Nat × String) :=
  let context := template.contextType
  [(0, "class " ++ className ++ " : " ++ pluginContract ++ "<" ++ context ++ "> \x7b"),
   (1, "override fun apply(target: " ++ context ++ ") \x7b"),
   (2, "Class"),
   (3, ".forName(\"" ++ compiledType ++ "\")"),
   (3, ".getDeclaredConstructor(" ++ context ++ "::class.java)"),
   (3, ".newInstance(target)"),
   (1, "\x7d"),
   (0, "\x7d")]

def indent (depth : Nat) : List Char :=
  List.replicate (4 * depth) ' '

/-- The block is indented by this many levels before the indentation is trimmed. -/
def blockDepth : Nat := 3

/-- The source of the wrapper for a script, ended by a line feed. -/
def render (template : WrapperTemplate) (className compiledType : String) : String :=
  let block := (template.body className compiledType).map fun (depth, line) =>
    indent (blockDepth + depth) ++ line.toList
  String.ofList (trimIndent (join '\n' ([[]] ++ block ++ [indent blockDepth])) ++ ['\n'])

def fileName (template : WrapperTemplate) (className : String) : String :=
  className ++ "." ++ template.extension

end WrapperTemplate

structure WrapperWriter where
  directory : Path
  template : WrapperTemplate
  deriving Repr, DecidableEq

namespace WrapperWriter

def pathOf (writer : WrapperWriter) (script : Script) : Path :=
  writer.directory.join (.ofString (writer.template.fileName script.wrapperClass))

def event (message : String) : Event :=
  ⟨.debug, .wrappers, message⟩

/-- Writes the wrapper of a script, in place of an earlier one. -/
def write (writer : WrapperWriter) (script : Script) (tree : Tree) :
    Outcome (Script × Tree) Failure Path :=
  let (className, script) := script.implementationClass
  match script.compiledType tree with
  | .error failure => .error failure (script, tree) []
  | .ok (compiledType, script) =>
    let source := writer.template.render className compiledType
    match tree.makeDirectories writer.directory with
    | (.error fault, tree) => .error (.files writer.directory fault) (script, tree) []
    | (.ok (), tree) =>
      let path := writer.pathOf script
      match tree.write path (Utf8.ofString source) with
      | .error fault => .error (.files path fault) (script, tree) []
      | .ok tree => .ok path (script, tree) [event "Generated script plugin wrapper"]

def writeAll (writer : WrapperWriter) :
    List Script → Tree → Outcome (List Script × Tree) Failure (List Path) :=
  Script.each writer.write

/-- Removes the directory with all that is in it. A missing directory is no error. -/
def clean (writer : WrapperWriter) (tree : Tree) : Outcome Tree Failure Unit :=
  if tree.exists writer.directory then
    match tree.removeAll writer.directory with
    | (.error fault, tree) => .error (.files writer.directory fault) tree []
    | (.ok (), tree) => .ok () tree [event "Cleared generated wrappers"]
  else .ok () tree []

end WrapperWriter

end ScriptPlugins
