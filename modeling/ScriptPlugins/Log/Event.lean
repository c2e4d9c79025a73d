/-!
# Log events

Actions do not write to a log. They hand back what there is to say as a list of events, and whoever
runs them decides which of these to show and how.
-/

namespace ScriptPlugins

inductive Level where
  | trace
  | debug
  | info
  | warn
  | error
  deriving Repr, DecidableEq

namespace Level

/-- How serious a level is; a log that shows a level shows all from it on. -/
def severity : Level → Nat
  | .trace => 0
  | .debug => 1
  | .info => 2
  | .warn => 3
  | .error => 4

def label : Level → String
  | .trace => "TRACE"
  | .debug => "DEBUG"
  | .info => "INFO"
  | .warn => "WARN"
  | .error => "ERROR"

end Level

inductive Event.Origin where
  | discovery
  | wrappers
  | pass
  | catalog
  | schedule
  | compiler
  | command
  deriving Repr, DecidableEq

/-- The targets by which users select the parts in a log filter. -/
def Event.Origin.target : Event.Origin → String
  | .discovery => "plugscript_lang::io"
  | .wrappers => "plugscript_codegen::generator"
  | .pass => "plugscript_pipeline::pipeline"
  | .catalog => "plugscript_pipeline::registry"
  | .schedule => "plugscript_pipeline::task_plan"
  | .compiler => "plugscript_pipeline::toolchain"
  | .command => "plugscript::cli"

structure Event where
  level : Level
  origin : Event.Origin
  message : String
  deriving Repr, DecidableEq

/-- The answer of an action, what it acted on as it is afterwards, and what there is to log. An
action that fails may have changed things before it did, so the state stands beside the answer. -/
structure Outcome (σ ε α : Type) where
  answer : Except ε α
  state : σ
  events : List Event

namespace Outcome

variable {σ τ ε α β : Type}

def ok (answer : α) (state : σ) (events : List Event) : Outcome σ ε α :=
  ⟨.ok answer, state, events⟩

def error (failure : ε) (state : σ) (events : List Event) : Outcome σ ε α :=
  ⟨.error failure, state, events⟩

/-- The outcome with its state seen as part of a larger one. -/
def onState (outcome : Outcome σ ε α) (f : σ → τ) : Outcome τ ε α :=
  ⟨outcome.answer, f outcome.state, outcome.events⟩

/-- The outcome with a failure seen as part of a larger one. -/
def onError {δ : Type} (outcome : Outcome σ ε α) (f : ε → δ) : Outcome σ δ α :=
  ⟨outcome.answer.mapError f, outcome.state, outcome.events⟩

/-- Goes on after a success. The events of both parts are kept, in order. -/
def andThen (outcome : Outcome σ ε α) (next : α → σ → Outcome σ ε β) : Outcome σ ε β :=
  match outcome.answer with
  | .error failure => ⟨.error failure, outcome.state, outcome.events⟩
  | .ok answer =>
    let after := next answer outcome.state
    ⟨after.answer, after.state, outcome.events ++ after.events⟩

end Outcome

end ScriptPlugins
