import ScriptPlugins.Failure
import ScriptPlugins.Log.Event

/-!
# The schedule of tasks

A build runs its tasks in one order. Tasks may say what they read and write before they have a place
in that order, and only those that have one can serve as an anchor for others. Nothing takes a place
away again: a task that is scheduled a second time moves.
-/

namespace ScriptPlugins

/-- What a task reads, and the directories that it writes. -/
structure TaskFiles where
  inputs : List Path
  outputs : List Path
  deriving Repr, DecidableEq

namespace TaskFiles

def none : TaskFiles := ⟨[], []⟩

end TaskFiles

structure Schedule where
  /-- The scheduled tasks, first to last. -/
  order : List String
  files : List (String × TaskFiles)
  deriving Repr, DecidableEq

namespace Schedule

def empty : Schedule := ⟨[], []⟩

def files? (schedule : Schedule) (task : String) : Option TaskFiles :=
  schedule.files.lookup task

/-- Changes what a task reads and writes; nothing is known of a new task. -/
def update (schedule : Schedule) (task : String) (change : TaskFiles → TaskFiles) : Schedule :=
  match schedule.files? task with
  | none => { schedule with files := schedule.files ++ [(task, change .none)] }
  | some _ =>
    { schedule with
      files := schedule.files.map fun (name, files) =>
        (name, if name = task then change files else files) }

def isScheduled (schedule : Schedule) (task : String) : Bool :=
  schedule.order.contains task

def position? (schedule : Schedule) (task : String) : Option Nat :=
  schedule.order.idxOf? task

def push (schedule : Schedule) (task : String) : Schedule :=
  { schedule.update task id with order := schedule.order.filter (· != task) ++ [task] }

def ofTasks (tasks : List String) : Schedule :=
  tasks.foldl push empty

def addInputs (schedule : Schedule) (task : String) (paths : List Path) : Schedule :=
  schedule.update task fun files => { files with inputs := files.inputs ++ paths }

def addOutput (schedule : Schedule) (task : String) (directory : Path) : Schedule :=
  schedule.update task fun files => { files with outputs := files.outputs ++ [directory] }

/-- Puts an element right before the first `anchor` of a list, and last if there is none. -/
def insertBefore (anchor task : String) : List String → List String
  | [] => [task]
  | name :: rest =>
    if name = anchor then task :: name :: rest else name :: insertBefore anchor task rest

/-- Schedules a task right before another, which must be scheduled. -/
def putBefore (schedule : Schedule) (anchor task : String) : Outcome Schedule Failure Unit :=
  if schedule.isScheduled anchor then
    let order := insertBefore anchor task (schedule.order.filter (· != task))
    .ok () { schedule.update task id with order } [⟨.debug, .schedule, "Scheduled task"⟩]
  else .error (.unknownTask anchor) schedule []

end Schedule

end ScriptPlugins
