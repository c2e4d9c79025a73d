import ScriptPlugins.Proofs.Plugins.Arrangement

/-!
# What a schedule remembers

A schedule keeps two records: the order of the tasks, and what each of them reads and writes. Callers
change both, one call after another, and a call may fail. Neither record forgets. A task is in the
order once some call has put it there, wherever later calls move it, and its files are those of all
calls that have declared some, in their order, no matter when the task was scheduled.
-/

namespace ScriptPlugins

/-- What two calls together declare. -/
def TaskFiles.append (files more : TaskFiles) : TaskFiles :=
  ⟨files.inputs ++ more.inputs, files.outputs ++ more.outputs⟩

namespace TaskFiles

@[simp]
theorem append_none (files : TaskFiles) : files.append .none = files := by
  rw [append, none, List.append_nil, List.append_nil]

@[simp]
theorem none_append (files : TaskFiles) : TaskFiles.none.append files = files :=
  rfl

theorem append_assoc (files more last : TaskFiles) :
    (files.append more).append last = files.append (more.append last) := by
  rw [append, append, append, append, List.append_assoc, List.append_assoc]

end TaskFiles

namespace Schedule

/-- What callers can do to a schedule. -/
inductive Step where
  | push (task : String)
  | addInputs (task : String) (paths : List Path)
  | addOutput (task : String) (directory : Path)
  | putBefore (anchor task : String)

namespace Step

/-- The task that a step gives a place in the order, if it succeeds. -/
def placed? : Step → Option String
  | .push task | .putBefore _ task => some task
  | .addInputs _ _ | .addOutput _ _ => none

/-- What a step says that a task reads and writes. -/
def declared (name : String) : Step → TaskFiles
  | .addInputs task paths => if name = task then ⟨paths, []⟩ else .none
  | .addOutput task directory => if name = task then ⟨[], [directory]⟩ else .none
  | .push _ | .putBefore _ _ => .none

/-- What all steps say that a task reads and writes, first to last. -/
def declaredBy (steps : List Step) (name : String) : TaskFiles :=
  ⟨steps.flatMap fun step => (step.declared name).inputs,
    steps.flatMap fun step => (step.declared name).outputs⟩

end Step

def act (schedule : Schedule) : Step → Outcome Schedule Failure Unit
  | .push task => .ok () (schedule.push task) []
  | .addInputs task paths => .ok () (schedule.addInputs task paths) []
  | .addOutput task directory => .ok () (schedule.addOutput task directory) []
  | .putBefore anchor task => schedule.putBefore anchor task

/-- A step that fails does not keep the next from being taken. -/
def follow (schedule : Schedule) (steps : List Step) : Schedule :=
  steps.foldl (fun schedule step => (schedule.act step).state) schedule

/-- The step succeeds and gives the task a place. -/
def Places (schedule : Schedule) (step : Step) (name : String) : Prop :=
  step.placed? = some name ∧ (schedule.act step).answer = .ok ()

variable {schedule : Schedule} {steps : List Step} {step : Step} {task name : String}

theorem mem_order_push : name ∈ (schedule.push task).order ↔ name ∈ schedule.order ∨ name = task := by
  rw [push, List.mem_append, mem_filter_ne, List.mem_singleton]
  constructor
  · rintro (⟨hname, -⟩ | htask)
    · exact .inl hname
    · exact .inr htask
  · rintro (hname | htask)
    · by_cases htask : name = task
      · exact .inr htask
      · exact .inl ⟨hname, htask⟩
    · exact .inr htask

theorem files?_push (schedule : Schedule) (task name : String) :
    (schedule.push task).files? name =
      if name = task then some ((schedule.files? task).getD .none) else schedule.files? name :=
  files?_update schedule task id name

theorem mem_order_act (schedule : Schedule) (step : Step) (name : String) :
    name ∈ (schedule.act step).state.order ↔ name ∈ schedule.order ∨ schedule.Places step name := by
  cases step with
  | push task =>
      have hplaces : schedule.Places (.push task) name ↔ name = task :=
        ⟨fun h => (Option.some.inj h.1).symm, fun h => ⟨congrArg some h.symm, rfl⟩⟩
      rw [hplaces]
      exact mem_order_push
  | addInputs task paths =>
      rw [act, Outcome.state_ok, order_addInputs]
      exact ⟨.inl, fun h => h.resolve_right fun hplaces => nomatch hplaces.1⟩
  | addOutput task directory =>
      rw [act, Outcome.state_ok, order_addOutput]
      exact ⟨.inl, fun h => h.resolve_right fun hplaces => nomatch hplaces.1⟩
  | putBefore anchor task =>
      by_cases hanchor : anchor ∈ schedule.order
      · have hyields := putBefore_yields hanchor task
        have hplaces : schedule.Places (.putBefore anchor task) name ↔ name = task :=
          ⟨fun h => (Option.some.inj h.1).symm,
            fun h => ⟨congrArg some h.symm, hyields.answer⟩⟩
        rw [hplaces, or_comm]
        exact mem_order_of_putBefore hyields
      · have hplaces : ¬schedule.Places (.putBefore anchor task) name := by
          rintro ⟨-, hanswer⟩
          rw [act, putBefore_of_notMem hanchor] at hanswer
          cases hanswer
        rw [act, putBefore_of_notMem hanchor]
        exact ⟨.inl, fun h => h.resolve_right hplaces⟩

/-- A call adds what it declares to what was declared before, and for one task only. -/
theorem files?_act (schedule : Schedule) (step : Step) (name : String) :
    ((schedule.act step).state.files? name).getD .none =
      ((schedule.files? name).getD .none).append (step.declared name) := by
  cases step with
  | push task =>
      rw [act, Outcome.state_ok, files?_push, Step.declared, TaskFiles.append_none]
      split
      next h => rw [h, Option.getD_some]
      next => rfl
  | addInputs task paths =>
      rw [act, Outcome.state_ok, files?_addInputs, Step.declared]
      split
      next h => rw [h, Option.getD_some, TaskFiles.append, List.append_nil]
      next => rw [TaskFiles.append_none]
  | addOutput task directory =>
      rw [act, Outcome.state_ok, files?_addOutput, Step.declared]
      split
      next h => rw [h, Option.getD_some, TaskFiles.append, List.append_nil]
      next => rw [TaskFiles.append_none]
  | putBefore anchor task =>
      rw [act, Step.declared, TaskFiles.append_none]
      by_cases hanchor : anchor ∈ schedule.order
      · rw [files?_of_putBefore (putBefore_yields hanchor task)]
        split
        next h => rw [h, Option.getD_some]
        next => rfl
      · rw [putBefore_of_notMem hanchor]
        rfl

/-- Every task with a place has an entry among the files too. -/
def Covered (schedule : Schedule) : Prop :=
  ∀ name ∈ schedule.order, schedule.files? name ≠ none

/-- An update makes an entry if there is none and takes none away. -/
theorem files?_update_ne_none (task : String) (change : TaskFiles → TaskFiles)
    (h : name = task ∨ schedule.files? name ≠ none) :
    (schedule.update task change).files? name ≠ none := by
  rw [files?_update]
  split
  next => exact Option.some_ne_none _
  next hne => exact h.resolve_left hne

theorem Covered.act (h : schedule.Covered) (step : Step) : (schedule.act step).state.Covered := by
  intro name hname
  cases step with
  | push task =>
      apply files?_update_ne_none
      exact (mem_order_push.1 hname).symm.imp_right (h name)
  | addInputs task paths =>
      rw [Schedule.act, Outcome.state_ok, order_addInputs] at hname
      exact files?_update_ne_none _ _ (.inr (h name hname))
  | addOutput task directory =>
      rw [Schedule.act, Outcome.state_ok, order_addOutput] at hname
      exact files?_update_ne_none _ _ (.inr (h name hname))
  | putBefore anchor task =>
      by_cases hanchor : anchor ∈ schedule.order
      · have hyields := putBefore_yields hanchor task
        rw [Schedule.act, (putBefore_yields_iff.1 hyields).2]
        apply files?_update_ne_none
        exact ((mem_order_of_putBefore hyields).1 hname).imp_right (h name)
      · rw [Schedule.act, putBefore_of_notMem hanchor] at hname ⊢
        exact h name hname

theorem Reached.act (h : schedule.Reached) (step : Step) : (schedule.act step).state.Reached := by
  cases step with
  | push task => exact h.push task
  | addInputs task paths => exact h.addInputs task paths
  | addOutput task directory => exact h.addOutput task directory
  | putBefore anchor task => exact h.putBefore anchor task

theorem follow_cons (schedule : Schedule) (step : Step) (steps : List Step) :
    schedule.follow (step :: steps) = (schedule.act step).state.follow steps :=
  rfl

theorem follow_append (schedule : Schedule) (steps more : List Step) :
    schedule.follow (steps ++ more) = (schedule.follow steps).follow more :=
  List.foldl_append

theorem Reached.follow (h : schedule.Reached) (steps : List Step) :
    (schedule.follow steps).Reached := by
  induction steps generalizing schedule with
  | nil => exact h
  | cons step rest ih => exact ih (h.act step)

theorem Covered.follow (h : schedule.Covered) (steps : List Step) :
    (schedule.follow steps).Covered := by
  induction steps generalizing schedule with
  | nil => exact h
  | cons step rest ih => exact ih (h.act step)

/-- The places are those of the start and those that some step has given, at the time it came. -/
theorem mem_order_follow (schedule : Schedule) (steps : List Step) (name : String) :
    name ∈ (schedule.follow steps).order ↔
      name ∈ schedule.order ∨ ∃ front step back, steps = front ++ step :: back ∧
        (schedule.follow front).Places step name := by
  induction steps generalizing schedule with
  | nil =>
      refine ⟨.inl, fun h => h.resolve_right ?_⟩
      rintro ⟨front, step, back, hsteps, -⟩
      exact absurd hsteps.symm (List.append_ne_nil_of_right_ne_nil _ (List.cons_ne_nil _ _))
  | cons first rest ih =>
      rw [follow_cons, ih, mem_order_act, or_assoc]
      refine or_congr_right ⟨?_, ?_⟩
      · rintro (hfirst | ⟨front, step, back, rfl, hplaces⟩)
        · exact ⟨[], first, rest, rfl, hfirst⟩
        · exact ⟨first :: front, step, back, rfl, hplaces⟩
      · rintro ⟨front, step, back, hsteps, hplaces⟩
        cases front with
        | nil =>
            obtain ⟨rfl, -⟩ := List.cons.inj hsteps
            exact .inl hplaces
        | cons other front =>
            obtain ⟨rfl, rfl⟩ := List.cons.inj hsteps
            exact .inr ⟨front, step, back, rfl, hplaces⟩

theorem files?_follow (schedule : Schedule) (steps : List Step) (name : String) :
    ((schedule.follow steps).files? name).getD .none =
      ((schedule.files? name).getD .none).append (Step.declaredBy steps name) := by
  induction steps generalizing schedule with
  | nil => exact (TaskFiles.append_none _).symm
  | cons step rest ih => rw [follow_cons, ih, files?_act, TaskFiles.append_assoc]; rfl

theorem ofTasks_eq_follow (tasks : List String) :
    ofTasks tasks = empty.follow (tasks.map .push) := by
  rw [ofTasks, follow, List.foldl_map]
  rfl

theorem covered_ofTasks (tasks : List String) : (ofTasks tasks).Covered := by
  rw [ofTasks_eq_follow]
  exact Covered.follow (fun name hname => absurd hname List.not_mem_nil) _

theorem mem_order_foldl_push (schedule : Schedule) (tasks : List String) (name : String) :
    name ∈ (tasks.foldl push schedule).order ↔ name ∈ schedule.order ∨ name ∈ tasks := by
  induction tasks generalizing schedule with
  | nil => exact (or_iff_left List.not_mem_nil).symm
  | cons task rest ih => rw [List.foldl_cons, ih, mem_order_push, or_assoc, List.mem_cons]

theorem mem_order_ofTasks (tasks : List String) (name : String) :
    name ∈ (ofTasks tasks).order ↔ name ∈ tasks :=
  (mem_order_foldl_push empty tasks name).trans (or_iff_right List.not_mem_nil)

theorem declaredBy_map_push (tasks : List String) (name : String) :
    Step.declaredBy (tasks.map .push) name = .none := by
  induction tasks with
  | nil => rfl
  | cons task rest ih => exact ih

theorem files?_ofTasks (tasks : List String) (name : String) :
    ((ofTasks tasks).files? name).getD .none = .none := by
  rw [ofTasks_eq_follow, files?_follow, declaredBy_map_push]
  rfl

/-- Whatever callers do to a new schedule, it lists the tasks that have been given a place, each
once, and knows of every task what has been declared for it. -/
theorem records_calls (tasks : List String) (steps : List Step) :
    let schedule := (ofTasks tasks).follow steps
    schedule.order.Nodup ∧
      (∀ name ∈ schedule.order, schedule.files? name ≠ none) ∧
      (∀ name, name ∈ schedule.order ↔
        name ∈ tasks ∨ ∃ front step back, steps = front ++ step :: back ∧
          ((ofTasks tasks).follow front).Places step name) ∧
      (∀ front back, steps = front ++ back →
        ((ofTasks tasks).follow front).order ⊆ schedule.order) ∧
      ∀ name, (schedule.files? name).getD .none = Step.declaredBy steps name := by
  refine ⟨?_, ?_, fun name => ?_, ?_, fun name => ?_⟩
  · exact ((reached_ofTasks tasks).follow steps).nodup
  · exact (covered_ofTasks tasks).follow steps
  · rw [mem_order_follow, mem_order_ofTasks]
  · rintro front back rfl name hname
    rw [follow_append, mem_order_follow]
    exact .inl hname
  · rw [files?_follow, files?_ofTasks, TaskFiles.none_append]

-- A task that is put before itself leaves its place, finds no anchor any more and goes last.
example : ((ofTasks ["a", "b"]).follow [.putBefore "a" "a", .putBefore "c" "a"]).order =
    ["b", "a"] := by
  decide

end Schedule

end ScriptPlugins
