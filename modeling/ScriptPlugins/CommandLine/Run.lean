import ScriptPlugins.CommandLine.Build
import ScriptPlugins.CommandLine.Request
import ScriptPlugins.Log.Filter
import ScriptPlugins.Settings.Load

/-!
# Running a command

A command loads the settings of the project, starts a build over it, and takes it as far as it needs
to: listing the plugins looks only at the scripts, showing the compiler's arguments configures the
build, and generating runs it.
-/

namespace ScriptPlugins

open Text

structure Report where
  exit : Nat
  output : String
  trouble : Option Trouble
  format : LogFormat
  events : List Event
  deriving Repr, DecidableEq

namespace Command

def printed (lines : List String) : String :=
  String.join (lines.map (· ++ "\n"))

def summary (layout : Layout) (plugins : List Plugin) : String :=
  let heading := "Generated " ++ toString plugins.length ++ " script plugin(s) into "
    ++ layout.generatedDirectory.display
  printed (heading :: plugins.map fun plugin =>
    "  " ++ plugin.id ++ " -> " ++ plugin.implementationClass)

/-- What listing prints. If there is no table for the entries, the command breaks off. -/
def list (settings : Settings) (project : Path) (format : ListFormat) (tree : Tree) :
    Outcome Build Trouble (Option String) :=
  (((Build.new settings project none tree).list project).onError .ofFailure).andThen
    fun entries build =>
      match format with
      | .table => .ok ((Listing.table? entries).map fun table => printed [table]) build []
      | .json => .ok (some (printed [Listing.json entries])) build []

def generate (settings : Settings) (project : Path) (descriptors : Option Path)
    (compiles : Bool) (programs : Programs) (tree : Tree) : Outcome Build Trouble String :=
  let plan : Build.Plan :=
    { tasks := settings.tasks
      compiles
      programs
      descriptors := match descriptors with
        | some directory => project.join directory
        | none => settings.descriptorsAt project }
  ((Build.new settings project settings.compiler.command tree).run plan).andThen
    fun plugins build => .ok (summary (settings.layoutAt project) plugins) build []

def showArguments (settings : Settings) (project : Path) (tree : Tree) :
    Outcome Build Trouble String :=
  ((Build.new settings project none tree).arguments.onError .ofFailure).andThen
    fun arguments build => .ok (printed arguments.toList) build []

def act (settings : Settings) (request : Request) (programs : Programs) (tree : Tree) :
    Outcome Build Trouble (Option String) :=
  match request.action with
  | .list format => list settings request.project format tree
  | .generate descriptors compiles =>
    (generate settings request.project descriptors compiles programs tree).andThen
      fun output build => .ok (some output) build []
  | .arguments =>
    (showArguments settings request.project tree).andThen
      fun output build => .ok (some output) build []

/-- What the log shows: the level of the settings, and what the environment says about parts. -/
def filterOf (settings : Settings) (environment : Environment) : LogFilter :=
  let general := (Threshold.ofName? settings.logging.level.toList).getD (.from .info)
  .ofText general ((environment.value? "RUST_LOG").getD "")

/-- The format of the log, where the environment has the last word if it knows the format. -/
def formatOf (settings : Settings) (environment : Environment) : LogFormat :=
  match (environment.value? "LOG_FORMAT").map fun name => name.map Char.toLower with
  | some "json" => .json
  | some "pretty" | some "human" => .pretty
  | _ => settings.logging.format

def version : String := "plugscript 0.1.0"

/-- A report of a command that never came to load settings. -/
def brief (exit : Nat) (output : String) : Report :=
  ⟨exit, output, none, .pretty, []⟩

/-- The exit code of a command that breaks off. Built to abort, it is ended by a signal instead. -/
def brokenOff : Nat := 101

/-- Does what a request asks for. Nothing is logged before the settings are known. -/
def perform (request : Request) (environment : Environment) (programs : Programs)
    (tree : Tree) : Report × Tree :=
  match Settings.load tree environment request.project with
  | .error failure =>
    let activity := "Failed to load configuration from " ++ request.project.display
    (⟨1, "", some (.during activity failure), .pretty, []⟩, tree)
  | .ok settings =>
    let outcome := act settings request programs tree
    let events := outcome.events.filter (filterOf settings environment).shows
    let format := formatOf settings environment
    match outcome.answer with
    | .ok (some output) => (⟨0, output, none, format, events⟩, outcome.state.tree)
    | .ok none => (⟨brokenOff, "", none, format, events⟩, outcome.state.tree)
    | .error trouble => (⟨1, "", some trouble, format, events⟩, outcome.state.tree)

def run (arguments : List String) (environment : Environment) (programs : Programs)
    (tree : Tree) : Report × Tree :=
  match Invocation.ofArguments arguments with
  | .run request => perform request environment programs tree
  | .version => (brief 0 (printed [version]), tree)
  | .help => (brief 0 "", tree)
  | .refused => (brief 2 "", tree)

end Command

end ScriptPlugins
