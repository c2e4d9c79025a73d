import ScriptPlugins.Proofs.CommandLine.Build
import ScriptPlugins.Proofs.Plugins.Standing

/-!
# The calls of a run

The calls of a run, each with the build that it meets, follow from the order of the tasks. A run is
nothing but its calls: each goes on from what the one before has left, and the run leaves what the
last one leaves. Every call but the last has succeeded, and if all have, every task has had its turn.
-/

namespace ScriptPlugins

namespace Build

/-- The calls that running tasks comes to, each with the build that it meets. After a call that fails
there are no more. -/
def calls (plan : Plan) : List String → Build → List (Call × Build)
  | [], _ => []
  | task :: rest, build =>
    ((callOf build.pass.layout.tasks plan task).map (·, build)).toList ++
      match (build.runTask plan task).answer with
      | .error _ => []
      | .ok () => calls plan rest (build.runTask plan task).state

/-- The calls of a whole run. -/
def runCalls (build : Build) (plan : Plan) : List (Call × Build) :=
  match build.arguments.answer with
  | .error _ => []
  | .ok _ => calls plan build.arguments.state.schedule.order build.arguments.state

/-- A run from one build to another by these calls, each from where the one before has ended. All of
them succeed, or the last one fails and the run with it. -/
inductive Follows (plan : Plan) :
    Build → List (Call × Build) → Except Failure Unit → Build → Prop
  | done (build : Build) : Follows plan build [] (.ok ()) build
  | fails {build : Build} {call : Call} {failure : Failure}
      (answer : (build.perform plan call).answer = .error failure) :
      Follows plan build [(call, build)] (.error failure) (build.perform plan call).state
  | next {build middle last : Build} {call : Call} {rest : List (Call × Build)}
      {answer : Except Failure Unit} (effect : Effect plan build call middle)
      (follows : Follows plan middle rest answer last) :
      Follows plan build ((call, build) :: rest) answer last

variable {build after middle last : Build} {own : TaskNames} {plan : Plan} {task : String}
  {tasks : List String} {call : Call} {done : Unit} {front back : List (Call × Build)}

/-- A build whose pass has found its scripts and goes by these names. -/
structure Underway (own : TaskNames) (build : Build) : Prop where
  names : build.pass.layout.tasks = own
  sound : build.pass.Sound
  found : ∃ scripts, build.pass.scripts = some scripts

theorem Underway.perform (h : Underway own build)
    (hcall : (build.perform plan call).Yields done after) : Underway own after := by
  obtain ⟨scripts, hscripts⟩ := h.found
  cases call with
  | generate =>
      obtain ⟨paths, later, tree, hgenerate, rfl⟩ := perform_generate_yields hcall
      obtain ⟨cleaned, -, -, hlater, -⟩ := Pass.generate_yields hscripts hgenerate
      have hsound := h.sound.generate build.tree
      rw [hgenerate.state] at hsound
      refine ⟨?_, hsound, ?_⟩
      · rw [hlater]
        exact h.names
      · rw [hlater]
        exact ⟨_, rfl⟩
  | declare =>
      obtain ⟨count, later, catalog, hdeclare, rfl⟩ := perform_declare_yields hcall
      obtain ⟨-, hlater, -⟩ := Pass.declare_yields hscripts hdeclare
      have hsound := h.sound.declare build.catalog build.tree
      rw [hdeclare.state] at hsound
      refine ⟨?_, hsound, ?_⟩
      · rw [hlater]
        exact h.names
      · rw [hlater]
        exact ⟨_, rfl⟩
  | compile =>
      have hstate := hcall.state
      rw [state_perform_compile hscripts] at hstate
      obtain rfl := hstate
      exact ⟨h.names, h.sound, scripts, hscripts⟩
  | publish =>
      obtain ⟨paths, tree, -, rfl⟩ := perform_publish_yields hcall
      exact ⟨h.names, h.sound, scripts, hscripts⟩

theorem Underway.runTask (h : Underway own build)
    (hrun : (build.runTask plan task).Yields done after) : Underway own after := by
  cases hcall : callOf build.pass.layout.tasks plan task with
  | none =>
      rw [runTask_of_no_call hcall] at hrun
      obtain rfl := hrun.state
      exact h
  | some call => exact h.perform (perform_of_runTask hcall hrun)

theorem Underway.runTasks (h : Underway own build)
    (hrun : (runTasks plan tasks build).Yields done last) : Underway own last := by
  induction tasks generalizing build with
  | nil =>
      obtain rfl := hrun.state
      exact h
  | cons task rest ih =>
      obtain ⟨middle, hfirst, hrest⟩ := runTasks_cons_yields_iff.1 hrun
      exact ih (h.runTask hfirst) hrest

theorem runTasks_append_yields_iff {more : List String} :
    (Build.runTasks plan (tasks ++ more) build).Yields done last ↔
      ∃ middle, (Build.runTasks plan tasks build).Yields () middle ∧
        (Build.runTasks plan more middle).Yields done last := by
  induction tasks generalizing build with
  | nil =>
      constructor
      · intro h
        exact ⟨build, ⟨rfl, rfl⟩, h⟩
      · rintro ⟨middle, hfirst, h⟩
        obtain rfl := hfirst.state
        exact h
  | cons task rest ih =>
      rw [List.cons_append, runTasks_cons_yields_iff]
      constructor
      · rintro ⟨later, hfirst, h⟩
        obtain ⟨middle, hrest, hmore⟩ := ih.1 h
        exact ⟨middle, runTasks_cons_yields_iff.2 ⟨later, hfirst, hrest⟩, hmore⟩
      · rintro ⟨middle, hrest, hmore⟩
        obtain ⟨later, hfirst, hrest⟩ := runTasks_cons_yields_iff.1 hrest
        exact ⟨later, hfirst, ih.2 ⟨middle, hrest, hmore⟩⟩

theorem calls_cons_of_yields {rest : List String} (h : (build.runTask plan task).Yields done after) :
    calls plan (task :: rest) build =
      ((callOf build.pass.layout.tasks plan task).map (·, build)).toList ++
        calls plan rest after := by
  rw [calls, h.answer, h.state]

/-- A run is what its calls come to, whether it succeeds or fails. -/
theorem follows_calls (plan : Plan) (tasks : List String) (build : Build) :
    Follows plan build (calls plan tasks build)
      ((Build.runTasks plan tasks build).answer.mapError Trouble.failure)
      (Build.runTasks plan tasks build).state := by
  induction tasks generalizing build with
  | nil => exact .done build
  | cons task rest ih =>
      rw [Build.runTasks]
      cases hcall : callOf build.pass.layout.tasks plan task with
      | none =>
          have hyields : (build.runTask plan task).Yields () build := by
            rw [runTask_of_no_call hcall]
            exact ⟨rfl, rfl⟩
          obtain ⟨hanswer, hstate⟩ := Outcome.andThen_of_ok hyields.answer
          rw [hanswer, hstate, hyields.state, calls_cons_of_yields hyields, hcall]
          exact ih build
      | some call =>
          have hrun := runTask_of_call hcall
          cases hperform : (build.perform plan call).answer with
          | error failure =>
              have hfails := @Outcome.answer_onError_of_error _ _ _ _ _
                (Trouble.during ("Task '" ++ task ++ "' failed")) _ hperform
              rw [← hrun] at hfails
              obtain ⟨hanswer, hstate⟩ := Outcome.andThen_of_error hfails
              rw [hanswer, hstate, calls, hcall, hfails, hrun, Outcome.state_onError]
              exact .fails hperform
          | ok done =>
              have heffect := Outcome.yields_of_answer hperform
              have hyields :
                  (build.runTask plan task).Yields done (build.perform plan call).state := by
                rw [hrun]
                exact Outcome.yields_onError_iff.2 heffect
              obtain ⟨hanswer, hstate⟩ := Outcome.andThen_of_ok hyields.answer
              rw [hanswer, hstate, hyields.state, calls_cons_of_yields hyields, hcall]
              exact .next (effect_of_perform heffect) (ih _)

/-- In a run that came to its end every call has had its effect. -/
theorem Follows.exists_effect {items : List (Call × Build)} {answer : Except Failure Unit}
    (h : Follows plan build items answer last) (hanswer : answer = .ok ()) :
    ∀ item ∈ items, ∃ after, Effect plan item.2 item.1 after := by
  induction h with
  | done => exact List.forall_mem_nil _
  | fails => cases hanswer
  | next effect _ ih =>
      rw [List.forall_mem_cons]
      exact ⟨⟨_, effect⟩, ih hanswer⟩

theorem follows_of_yields (h : (Build.runTasks plan tasks build).Yields done last) :
    Follows plan build (calls plan tasks build) (.ok ()) last := by
  have hfollows := follows_calls plan tasks build
  rwa [h.answer, h.state] at hfollows

/-- Running tasks to their end makes all the calls that the tasks come to. -/
theorem calls_of_yields (h : Underway own build)
    (hrun : (Build.runTasks plan tasks build).Yields done last) :
    (calls plan tasks build).map Prod.fst = tasks.filterMap (callOf own plan) := by
  induction tasks generalizing build with
  | nil => rfl
  | cons task rest ih =>
      obtain ⟨middle, hfirst, hrest⟩ := runTasks_cons_yields_iff.1 hrun
      rw [calls_cons_of_yields hfirst, List.map_append, ih (h.runTask hfirst) hrest, h.names]
      cases hcall : callOf own plan task with
      | none => rw [List.filterMap_cons_none hcall, Option.map_none]; rfl
      | some call => rw [List.filterMap_cons_some hcall, Option.map_some]; rfl

/-- A call is made when some tasks have been run to their end, and these have made the calls before
it. -/
theorem calls_eq_append (h : Underway own build)
    (hcalls : calls plan tasks build = front ++ (call, middle) :: back) :
    ∃ before task rest, tasks = before ++ task :: rest ∧ callOf own plan task = some call ∧
      (Build.runTasks plan before build).Yields () middle ∧
      front = calls plan before build := by
  induction tasks generalizing build front with
  | nil => simp [calls] at hcalls
  | cons task rest ih =>
      cases hown : callOf build.pass.layout.tasks plan task with
      | none =>
          have hyields : (build.runTask plan task).Yields () build := by
            rw [runTask_of_no_call hown]
            exact ⟨rfl, rfl⟩
          rw [calls_cons_of_yields hyields, hown] at hcalls
          obtain ⟨before, next, more, rfl, hcall, hrun, rfl⟩ := ih h hcalls
          refine ⟨task :: before, next, more, rfl, hcall, ?_, ?_⟩
          · exact runTasks_cons_yields_iff.2 ⟨build, hyields, hrun⟩
          · rw [calls_cons_of_yields hyields, hown]
            rfl
      | some first =>
          rw [calls, hown] at hcalls
          cases front with
          | nil =>
              obtain ⟨hitem, -⟩ := List.cons_eq_cons.1 hcalls
              obtain ⟨rfl, rfl⟩ := Prod.mk.inj hitem
              exact ⟨[], task, rest, rfl, h.names ▸ hown, ⟨rfl, rfl⟩, rfl⟩
          | cons item front =>
              obtain ⟨rfl, hothers⟩ := List.cons_eq_cons.1 hcalls
              cases hanswer : (build.runTask plan task).answer with
              | error trouble => simp [hanswer] at hothers
              | ok taken =>
                  have hyields := Outcome.yields_of_answer hanswer
                  simp only [hanswer] at hothers
                  obtain ⟨before, next, more, rfl, hcall, hrun, rfl⟩ :=
                    ih (h.runTask hyields) hothers
                  refine ⟨task :: before, next, more, rfl, hcall, ?_, ?_⟩
                  · exact runTasks_cons_yields_iff.2 ⟨_, hyields, hrun⟩
                  · rw [calls_cons_of_yields hyields, hown]
                    rfl

end Build

end ScriptPlugins
