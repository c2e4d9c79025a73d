import ScriptPlugins.CommandLine.Trouble
import ScriptPlugins.Plugins.Listing
import ScriptPlugins.Settings.Basic

/-!
# Builds

The smallest build system that a pass can be part of. Its schedule has a task for compiling and one
for publishing; the pass adds its own, and then the tasks are run in order. The first that fails
ends the build.
-/

namespace ScriptPlugins

structure Build where
  pass : Pass
  schedule : Schedule
  compiler : Compiler
  catalog : Catalog
  tree : Tree

/-- What is settled before the tasks run. -/
structure Build.Plan where
  tasks : TaskNames
  /-- Whether compiling runs the compiler. -/
  compiles : Bool
  programs : Programs
  descriptors : Path

namespace Build

def event (message : String) : Event :=
  ⟨.info, .command, message⟩

/-- A build with the two tasks of its own. -/
def new (settings : Settings) (project : Path) (command : Option String) (tree : Tree) : Build :=
  { pass := .new (settings.layoutAt project) settings.toHost .files
    schedule := .ofTasks [settings.tasks.compile, settings.tasks.publish]
    compiler := .new command
    catalog := .empty
    tree }

def configure (build : Build) : Outcome Build Failure Unit :=
  (build.pass.configure build.schedule build.compiler build.tree).onState
    fun (pass, schedule, compiler) => { build with pass, schedule, compiler }

def finalize (build : Build) : Outcome Build Failure CompilerArguments :=
  (build.pass.finalize build.compiler).onState
    fun (pass, compiler) => { build with pass, compiler }

def execute (build : Build) (task : String) : Outcome Build Failure Bool :=
  (build.pass.execute task build.catalog build.tree).onState
    fun (pass, catalog, tree) => { build with pass, catalog, tree }

def compile (build : Build) (programs : Programs) : Outcome Build Failure Unit :=
  ((build.pass.find build.tree).onState ({ build with pass := · })).andThen fun scripts build =>
    let wrappers := scripts.map build.pass.writer.pathOf
    let sources := scripts.map Script.path ++ wrappers
    (build.compiler.compile programs sources [] build.tree).onState ({ build with tree := · })

def publish (build : Build) (directory : Path) : Outcome Build Failure Unit :=
  ((build.catalog.publish directory build.tree).onState ({ build with tree := · })).andThen
    fun _ build => .ok () build []

/-- Runs a task that the pass leaves to the build. -/
def runOwn (build : Build) (plan : Plan) (task : String) : Outcome Build Failure Unit :=
  if task = plan.tasks.compile then
    if plan.compiles then build.compile plan.programs else .ok () build []
  else if task = plan.tasks.publish then build.publish plan.descriptors
  else .ok () build []

def runTask (build : Build) (plan : Plan) (task : String) : Outcome Build Trouble Unit :=
  ((build.execute task).andThen fun done build =>
    if done then .ok () build [] else build.runOwn plan task).onError
      (.during ("Task '" ++ task ++ "' failed"))

def runTasks (plan : Plan) : List String → Build → Outcome Build Trouble Unit
  | [], build => .ok () build []
  | task :: rest, build =>
    (build.runTask plan task).andThen fun _ build => runTasks plan rest build

/-- Configures, finalizes and runs all scheduled tasks. The answer is what was registered. -/
def run (build : Build) (plan : Plan) : Outcome Build Trouble (List Plugin) :=
  (build.configure.onError (.during "Failed to configure script plugins")).andThen fun _ build =>
    (build.finalize.onError .ofFailure).andThen fun _ build =>
      (runTasks plan build.schedule.order build).andThen fun _ build =>
        .ok build.catalog.plugins build [event "Script plugins generated"]

def arguments (build : Build) : Outcome Build Failure CompilerArguments :=
  build.configure.andThen fun _ build => build.finalize

/-- Lists the plugins without running anything. -/
def list (build : Build) (project : Path) : Outcome Build Failure (List Listing.Entry) :=
  (Listing.entries project build.pass build.tree).onState ({ build with pass := · })

end Build

end ScriptPlugins
