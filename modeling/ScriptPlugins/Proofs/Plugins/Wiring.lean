import ScriptPlugins.Plugins.Pass
import ScriptPlugins.Proofs.Log.Outcome

/-!
# Wiring a pass into a schedule

Putting a task before another changes the order in one spot, and says nothing about files. Two such
steps turn the two tasks of a build into the four of a build with a pass.
-/

namespace ScriptPlugins

namespace Schedule

variable {schedule : Schedule} {task anchor : String}

@[simp]
theorem order_update (schedule : Schedule) (task : String) (change : TaskFiles → TaskFiles) :
    (schedule.update task change).order = schedule.order := by
  rw [update]
  split <;> rfl

theorem insertBefore_append {front back : List String} (h : anchor ∉ front) :
    insertBefore anchor task (front ++ anchor :: back) = front ++ task :: anchor :: back := by
  induction front with
  | nil => simp [insertBefore]
  | cons name rest ih =>
      rw [List.mem_cons, not_or] at h
      rw [List.cons_append, insertBefore, if_neg (Ne.symm h.1), ih h.2]
      rfl

theorem putBefore_of_isScheduled (h : schedule.isScheduled anchor = true) :
    (schedule.putBefore anchor task).answer = .ok () ∧
      (schedule.putBefore anchor task).state.order =
        insertBefore anchor task (schedule.order.filter (· != task)) := by
  rw [putBefore, if_pos h]
  exact ⟨rfl, rfl⟩

/-- A task that is not in the order yet comes to stand right before its anchor. -/
theorem order_putBefore {front back : List String} (horder : schedule.order = front ++ anchor :: back)
    (hanchor : anchor ∉ front) (htask : task ∉ schedule.order) :
    (schedule.putBefore anchor task).answer = .ok () ∧
      (schedule.putBefore anchor task).state.order = front ++ task :: anchor :: back := by
  have hscheduled : schedule.isScheduled anchor = true := by
    rw [isScheduled, horder]
    simp
  obtain ⟨hanswer, hstate⟩ := @putBefore_of_isScheduled schedule task anchor hscheduled
  refine ⟨hanswer, ?_⟩
  have hfilter : schedule.order.filter (· != task) = schedule.order := by
    rw [List.filter_eq_self]
    intro name hname
    rw [bne_iff_ne]
    rintro rfl
    exact htask hname
  rw [hstate, hfilter, horder, insertBefore_append hanchor]

theorem order_ofTasks {first second : String} (h : first ≠ second) :
    (ofTasks [first, second]).order = [first, second] := by
  simp [ofTasks, push, empty, h]

end Schedule

namespace TaskNames

def Distinct (tasks : TaskNames) : Prop :=
  [tasks.generate, tasks.declare, tasks.compile, tasks.publish].Nodup

instance (tasks : TaskNames) : Decidable tasks.Distinct :=
  inferInstanceAs (Decidable (List.Nodup _))

theorem Distinct.ne {tasks : TaskNames} (h : tasks.Distinct) :
    (tasks.generate ≠ tasks.declare ∧ tasks.generate ≠ tasks.compile ∧
        tasks.generate ≠ tasks.publish) ∧
      (tasks.declare ≠ tasks.compile ∧ tasks.declare ≠ tasks.publish) ∧
      tasks.compile ≠ tasks.publish := by
  simpa [Distinct] using h

/-- Names by which nothing is mistaken for publishing, nor generating for declaring. -/
def Orderly (tasks : TaskNames) : Prop :=
  tasks.generate ≠ tasks.declare ∧ tasks.publish ≠ tasks.generate ∧
    tasks.publish ≠ tasks.declare ∧ tasks.publish ≠ tasks.compile

instance (tasks : TaskNames) : Decidable tasks.Orderly :=
  inferInstanceAs (Decidable (_ ∧ _))

theorem Distinct.orderly {tasks : TaskNames} (h : tasks.Distinct) : tasks.Orderly := by
  obtain ⟨⟨hgd, -, hgp⟩, ⟨-, hdp⟩, hcp⟩ := h.ne
  exact ⟨hgd, Ne.symm hgp, Ne.symm hdp, Ne.symm hcp⟩

end TaskNames

/-- In a schedule of the two tasks of a build, those of the pass come right before them. -/
theorem Pass.order_wire {layout : Layout} {schedule : Schedule} (inputs : List Path)
    (hdistinct : layout.tasks.Distinct)
    (horder : schedule.order = [layout.tasks.compile, layout.tasks.publish]) :
    (wire layout inputs schedule).answer = .ok () ∧
      (wire layout inputs schedule).state.order =
        [layout.tasks.generate, layout.tasks.compile, layout.tasks.declare,
          layout.tasks.publish] := by
  obtain ⟨⟨hgd, hgc, hgp⟩, ⟨hdc, hdp⟩, hcp⟩ := hdistinct.ne
  let before := (schedule.addInputs layout.tasks.generate inputs).addOutput layout.tasks.generate
    layout.generatedDirectory
  have hbefore : before.order = [] ++ layout.tasks.compile :: [layout.tasks.publish] := by
    simp only [before, Schedule.addInputs, Schedule.addOutput, Schedule.order_update, horder,
      List.nil_append]
  obtain ⟨hfirst, hfirstOrder⟩ := @Schedule.order_putBefore before layout.tasks.generate _ _ _
    hbefore List.not_mem_nil (by simp [hbefore, hgc, hgp])
  let between := (before.putBefore layout.tasks.compile layout.tasks.generate).state.addInputs
    layout.tasks.declare inputs
  have hbetween : between.order =
      [layout.tasks.generate, layout.tasks.compile] ++ layout.tasks.publish :: [] := by
    simp only [between, Schedule.addInputs, Schedule.order_update, hfirstOrder]
    rfl
  obtain ⟨hsecond, hsecondOrder⟩ := @Schedule.order_putBefore between layout.tasks.declare _ _ _
    hbetween (by simp [Ne.symm hgp, Ne.symm hcp])
    (by simp [hbetween, Ne.symm hgd, hdc, hdp])
  obtain ⟨hanswer, hstate⟩ := @Outcome.andThen_of_ok _ _ _ _ _
    (fun _ schedule => (schedule.addInputs layout.tasks.declare inputs).putBefore
      layout.tasks.publish layout.tasks.declare) _ hfirst
  exact ⟨hanswer.trans hsecond, (congrArg Schedule.order hstate).trans hsecondOrder⟩

end ScriptPlugins
