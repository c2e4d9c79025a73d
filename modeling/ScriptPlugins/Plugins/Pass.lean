import ScriptPlugins.Plugins.Catalog
import ScriptPlugins.Plugins.Compiler
import ScriptPlugins.Plugins.Discovery
import ScriptPlugins.Plugins.Layout
import ScriptPlugins.Plugins.Schedule

/-!
# A pass over a project

A pass turns the scripts of a project into plugins. It goes through two phases before any task
runs. Configuring finds the scripts and puts the tasks of the pass into the build's schedule;
finalizing, which happens when nothing else will change the build, computes the compiler arguments.
Then the build runs its tasks and hands those of the pass to `execute`.

The scripts are found once, by the first operation that needs them. A search that fails is not
remembered. What a script has been found to declare is remembered with it, so all tasks of a pass
see the same names.
-/

namespace ScriptPlugins

open Text

inductive Phase where
  | created
  | configured
  | finalized
  deriving Repr, DecidableEq

/-- Finds scripts at or below a path by a pattern. The answer may depend on how many searches came
before. -/
abbrev ScriptSource := Nat → Path → String → Tree → Except Failure (List Path) × List Event

def ScriptSource.files : ScriptSource := fun _ root pattern tree =>
  Discovery.find tree root pattern

structure Pass where
  layout : Layout
  host : Host
  source : ScriptSource
  phase : Phase
  /-- The scripts, once they have been found. -/
  scripts : Option (List Script)
  arguments : Option CompilerArguments
  /-- How often scripts have been searched for. -/
  searches : Nat
  /-- How often the build system has been asked for its imports. -/
  importQueries : Nat

namespace Pass

def new (layout : Layout) (host : Host) (source : ScriptSource) : Pass :=
  { layout, host, source, phase := .created, scripts := none, arguments := none,
    searches := 0, importQueries := 0 }

def event (level : Level) (message : String) : Event :=
  ⟨level, .pass, message⟩

def writer (pass : Pass) : WrapperWriter :=
  ⟨pass.layout.generatedDirectory, ⟨pass.host.contextType, pass.layout.wrapperExtension⟩⟩

/-- The scripts of the project, searched for unless they have been found. -/
def find (pass : Pass) (tree : Tree) : Outcome Pass Failure (List Script) :=
  match pass.scripts with
  | some scripts => .ok scripts pass []
  | none =>
    let layout := pass.layout
    let (answer, events) := pass.source pass.searches layout.sourceRoot layout.scriptPattern tree
    let pass := { pass with searches := pass.searches + 1 }
    match answer with
    | .error failure => .error failure pass events
    | .ok paths =>
      let scripts := paths.map layout.scriptAt
      .ok scripts { pass with scripts := some scripts }
        (events ++ [event .info "Discovered script plugins"])

def each {σ α : Type} (act : Script → σ → Outcome (Script × σ) Failure α) (pass : Pass)
    (tree : Tree) (state : σ) : Outcome (Pass × σ) Failure (List α) :=
  ((pass.find tree).onState (·, state)).andThen fun scripts (pass, state) =>
    (Script.each act scripts state).onState fun (scripts, state) =>
      ({ pass with scripts := some scripts }, state)

def ask {α : Type} (question : Script → Except Failure (α × Script)) (pass : Pass)
    (tree : Tree) : Outcome Pass Failure (List α) :=
  (pass.each (Script.ask question) tree ()).onState (·.1)

def plugins (pass : Pass) (tree : Tree) : Outcome Pass Failure (List Plugin) :=
  pass.ask (·.plugin tree) tree

def wrapperPaths (pass : Pass) (tree : Tree) : Outcome Pass Failure (List Path) :=
  (pass.find tree).andThen fun scripts pass =>
    .ok (scripts.map pass.writer.pathOf) pass []

/-- Puts the tasks of the pass into a schedule: generating right before compiling, declaring right
before publishing. -/
def wire (layout : Layout) (inputs : List Path) (schedule : Schedule) :
    Outcome Schedule Failure Unit :=
  let tasks := layout.tasks
  let schedule := schedule.addInputs tasks.generate inputs
  let schedule := schedule.addOutput tasks.generate layout.generatedDirectory
  (schedule.putBefore tasks.compile tasks.generate).andThen fun _ schedule =>
    (schedule.addInputs tasks.declare inputs).putBefore tasks.publish tasks.declare

/-- What keeps scripts from being wired into a schedule: a class name that no wrapper can have, or
a task of the build that is missing. -/
def objection? (layout : Layout) (scripts : List Script) (schedule : Schedule) : Option Failure :=
  match scripts.find? (!Identifier.isTypeName ·.wrapperClass) with
  | some script => some (.invalidClassName script.path script.wrapperClass)
  | none =>
    match [layout.tasks.compile, layout.tasks.publish].find? (!schedule.isScheduled ·) with
    | some anchor => some (.unknownTask anchor)
    | none => none

def configure (pass : Pass) (schedule : Schedule) (compiler : Compiler) (tree : Tree) :
    Outcome (Pass × Schedule × Compiler) Failure Unit :=
  if pass.phase ≠ .created then
    .error (.phase .configuredTwice) (pass, schedule, compiler) []
  else
    ((pass.find tree).onState (·, schedule, compiler)).andThen
      fun scripts (pass, schedule, compiler) =>
        match objection? pass.layout scripts schedule with
        | some failure => .error failure (pass, schedule, compiler) []
        | none =>
          let wired := wire pass.layout (scripts.map Script.path) schedule
          (wired.onState (pass, ·, compiler)).andThen fun _ (pass, schedule, compiler) =>
            .ok () ({ pass with phase := .configured }, schedule,
              compiler.addRoot pass.layout.generatedDirectory)
              [event .debug "Script plugin tasks wired"]

def finalize (pass : Pass) (compiler : Compiler) :
    Outcome (Pass × Compiler) Failure CompilerArguments :=
  match pass.phase with
  | .created => .error (.phase .finalizedFirst) (pass, compiler) []
  | .finalized => .error (.phase .finalizedTwice) (pass, compiler) []
  | .configured =>
    let arguments : CompilerArguments :=
      ⟨pass.host.scriptTemplates, pass.host.imports pass.importQueries⟩
    .ok arguments
      ({ pass with
          phase := .finalized
          arguments := some arguments
          importQueries := pass.importQueries + 1 },
        compiler.addArguments arguments.toList)
      [event .debug "Compiler arguments finalized"]

/-- What there is to say about a compiled type before its wrapper is written. -/
def remark (compiledType : String) : List Event :=
  if Identifier.isQualified compiledType then []
  else [event .warn "Compiled script type is not a valid qualified name"]

def writeWrapper (writer : WrapperWriter) (script : Script) (tree : Tree) :
    Outcome (Script × Tree) Failure Path :=
  match script.compiledType tree with
  | .error failure => .error failure (script, tree) []
  | .ok (compiledType, script) =>
    let written := writer.write script tree
    { written with events := remark compiledType ++ written.events }

/-- Writes the wrappers of all scripts, after removing all earlier ones. -/
def generate (pass : Pass) (tree : Tree) : Outcome (Pass × Tree) Failure (List Path) :=
  ((pass.find tree).onState (·, tree)).andThen fun _ (pass, tree) =>
    ((pass.writer.clean tree).onState (pass, ·)).andThen fun _ (pass, tree) =>
      (pass.each (writeWrapper pass.writer) tree tree).andThen fun paths state =>
        .ok paths state [event .info "Generated script plugin wrappers"]

def declareScript (tree : Tree) (script : Script) (catalog : Catalog) :
    Outcome (Script × Catalog) Failure Unit :=
  match script.plugin tree with
  | .error failure => .error failure (script, catalog) []
  | .ok (plugin, script) =>
    ((catalog.register plugin).onState (script, ·)).andThen fun _ state =>
      .ok () state [event .debug "Declared script plugin"]

/-- Registers the plugins of all scripts, and answers how many there are. -/
def declare (pass : Pass) (catalog : Catalog) (tree : Tree) :
    Outcome (Pass × Catalog) Failure Nat :=
  (pass.each (declareScript tree) tree catalog).andThen fun registered state =>
    .ok registered.length state [event .info "Declared script plugins"]

/-- Runs a task if it is one of the pass, and answers whether it is. -/
def execute (pass : Pass) (task : String) (catalog : Catalog) (tree : Tree) :
    Outcome (Pass × Catalog × Tree) Failure Bool :=
  if task = pass.layout.tasks.generate then
    ((pass.generate tree).onState fun (pass, tree) => (pass, catalog, tree)).andThen
      fun _ state => .ok true state []
  else if task = pass.layout.tasks.declare then
    ((pass.declare catalog tree).onState fun (pass, catalog) => (pass, catalog, tree)).andThen
      fun _ state => .ok true state []
  else .ok false (pass, catalog, tree) []

end Pass

end ScriptPlugins
