import ScriptPlugins.Files.Path
import ScriptPlugins.Programs.Status
import ScriptPlugins.Text.Glob

/-!
# Failures

Every way in which an action can fail, by its cause. The wording of a cause is in the function
`message` of its type and nowhere else. Collaborators that are not part of this library may fail for
reasons of their own, which come with their wording.
-/

namespace ScriptPlugins

/-- Why the file system refused a request. -/
inductive Fault where
  | notFound
  | permissionDenied
  | exists
  | notDirectory
  | isDirectory
  | invalidArgument
  | nameTooLong
  | notEmpty
  | tooManyLinks
  | nulInPath
  /-- The file was read, but its contents are not text. -/
  | notText
  | other (message : String)
  deriving Repr, DecidableEq

def Fault.message : Fault → String
  | .notFound => "No such file or directory (os error 2)"
  | .permissionDenied => "Permission denied (os error 13)"
  | .exists => "File exists (os error 17)"
  | .notDirectory => "Not a directory (os error 20)"
  | .isDirectory => "Is a directory (os error 21)"
  | .invalidArgument => "Invalid argument (os error 22)"
  | .nameTooLong => "File name too long (os error 36)"
  | .notEmpty => "Directory not empty (os error 39)"
  | .tooManyLinks => "Too many levels of symbolic links (os error 40)"
  | .nulInPath => "file name contained an unexpected NUL byte"
  | .notText => "stream did not contain valid UTF-8"
  | .other message => message

inductive Misstep where
  | configuredTwice
  | finalizedFirst
  | finalizedTwice
  | other (message : String)
  deriving Repr, DecidableEq

def Misstep.message : Misstep → String
  | .configuredTwice => "pipeline is already configured"
  | .finalizedFirst => "configure must run before finalize"
  | .finalizedTwice => "pipeline is already finalized"
  | .other message => message

inductive CompilerFault where
  | exited (command : String) (status : ExitStatus) (complaint : String)
  | other (message : String)
  deriving Repr, DecidableEq

def CompilerFault.message : CompilerFault → String
  | .exited command status complaint =>
    command ++ " exited with " ++ status.message ++ ": " ++ complaint
  | .other message => message

inductive SettingsFault where
  /-- They could not be read, or have a value of the wrong kind. -/
  | unreadable
  | emptyPattern
  | emptySuffix
  | badKeywords
  | emptyExtension
  | emptyTask (role : String)
  | badLevel (level : String)
  | badPattern (pattern : String) (refusal : Glob.Refusal)
  | other (message : String)
  deriving Repr, DecidableEq

/-- The names of the log levels, most talkative first. -/
def levelNames : List String :=
  ["trace", "debug", "info", "warn", "error"]

def SettingsFault.message : SettingsFault → String
  | .unreadable => "Failed to load configuration"
  | .emptyPattern => "Script pattern cannot be empty"
  | .emptySuffix => "Script suffix cannot be empty"
  | .badKeywords => "Namespace keywords must be a non-empty list of non-empty words"
  | .emptyExtension => "Wrapper extension cannot be empty"
  | .emptyTask role => "Task name for '" ++ role ++ "' cannot be empty"
  | .badLevel level =>
    "Invalid log level '" ++ level ++ "', must be one of: " ++ ", ".intercalate levelNames
  | .badPattern pattern refusal =>
    "Invalid script pattern '" ++ pattern ++ "': " ++ refusal.message
  | .other message => message

inductive Failure where
  | files (path : Path) (fault : Fault)
  | duplicateId (id : String) (registeredClass : String)
  | invalidClassName (file : Path) (name : String)
  | unknownTask (task : String)
  | invalidId (id : String)
  | phase (misstep : Misstep)
  | compilation (fault : CompilerFault)
  | settings (fault : SettingsFault)
  deriving Repr, DecidableEq

namespace Failure

def message : Failure → String
  | .files path fault => "I/O error at " ++ path.display ++ ": " ++ fault.message
  | .duplicateId id registeredClass =>
    "Duplicate plugin id '" ++ id ++ "' (already registered for '" ++ registeredClass ++ "')"
  | .invalidClassName file name =>
    "Script '" ++ file.display ++ "' yields invalid implementation class name '" ++ name ++ "'"
  | .unknownTask task => "Unknown task: " ++ task
  | .invalidId id => "Invalid plugin id '" ++ id ++ "'"
  | .phase misstep => "Phase error: " ++ misstep.message
  | .compilation fault => "Compilation failed: " ++ fault.message
  | .settings fault => "Configuration error: " ++ fault.message

/-- What lies behind a failure, for reports that list causes. -/
def cause? : Failure → Option String
  | .files _ fault => some fault.message
  | _ => none

end Failure

end ScriptPlugins
