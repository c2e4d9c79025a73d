import ScriptPlugins.CommandLine.Build
import ScriptPlugins.Proofs.Plugins.Generation

/-!
# What a task calls

A task is a name, and what it makes a build do is decided by comparing names: first with those of the
pass, then with those of the build. `callOf` is that decision, and running a task is performing the
call that it comes to, so that a task is run by the pass or by the build and never by both.
-/

namespace ScriptPlugins

open Text

inductive Call where
  | generate
  | declare
  | compile
  | publish
  deriving Repr, DecidableEq

namespace Build

/-- What a task comes to, where `own` has the names by which the pass knows its tasks. -/
def callOf (own : TaskNames) (plan : Plan) (task : String) : Option Call :=
  if task = own.generate then some .generate
  else if task = own.declare then some .declare
  else if task = plan.tasks.compile then if plan.compiles then some .compile else none
  else if task = plan.tasks.publish then some .publish
  else none

def perform (build : Build) (plan : Plan) : Call → Outcome Build Failure Unit
  | .generate =>
    ((build.pass.generate build.tree).onState
      fun (pass, tree) => { build with pass, tree }).andThen fun _ build => .ok () build []
  | .declare =>
    ((build.pass.declare build.catalog build.tree).onState
      fun (pass, catalog) => { build with pass, catalog }).andThen fun _ build => .ok () build []
  | .compile => build.compile plan.programs
  | .publish => build.publish plan.descriptors

/-- What a call does to a build if it succeeds. -/
inductive Effect (plan : Plan) (build : Build) : Call → Build → Prop
  | generate {paths : List Path} {pass : Pass} {tree : Tree}
      (yields : (build.pass.generate build.tree).Yields paths (pass, tree)) :
      Effect plan build .generate { build with pass, tree }
  | declare {count : Nat} {pass : Pass} {catalog : Catalog}
      (yields : (build.pass.declare build.catalog build.tree).Yields count (pass, catalog)) :
      Effect plan build .declare { build with pass, catalog }
  | compile {scripts : List Script} {pass : Pass} {tree : Tree}
      (finds : (build.pass.find build.tree).Yields scripts pass)
      (yields : (build.compiler.compile plan.programs
        (scripts.map Script.path ++ scripts.map pass.writer.pathOf) [] build.tree).Yields () tree) :
      Effect plan build .compile { build with pass, tree }
  | publish {paths : List Path} {tree : Tree}
      (yields : (build.catalog.publish plan.descriptors build.tree).Yields paths tree) :
      Effect plan build .publish { build with tree }

variable {build after : Build} {own : TaskNames} {plan : Plan} {task : String} {call : Call}
  {done : Unit} {scripts : List Script}

theorem callOf_eq_generate_iff : callOf own plan task = some .generate ↔ task = own.generate := by
  rw [callOf]
  split_ifs <;> simp_all

theorem callOf_eq_declare_iff : callOf own plan task = some .declare ↔
    task = own.declare ∧ task ≠ own.generate := by
  rw [callOf]
  split_ifs <;> simp_all

theorem callOf_eq_compile_iff : callOf own plan task = some .compile ↔
    task = plan.tasks.compile ∧ task ≠ own.generate ∧ task ≠ own.declare ∧
      plan.compiles = true := by
  rw [callOf]
  split_ifs <;> simp_all

theorem callOf_eq_publish_iff : callOf own plan task = some .publish ↔
    task = plan.tasks.publish ∧ task ≠ own.generate ∧ task ≠ own.declare ∧
      task ≠ plan.tasks.compile := by
  rw [callOf]
  split_ifs <;> simp_all

theorem callOf_of_distinct (hown : own = plan.tasks) (h : plan.tasks.Distinct) :
    callOf own plan plan.tasks.generate = some .generate ∧
      callOf own plan plan.tasks.declare = some .declare ∧
      callOf own plan plan.tasks.compile = (if plan.compiles then some .compile else none) ∧
      callOf own plan plan.tasks.publish = some .publish := by
  subst hown
  obtain ⟨⟨hgd, hgc, hgp⟩, ⟨hdc, hdp⟩, hcp⟩ := h.ne
  refine ⟨?_, ?_, ?_, ?_⟩
  · exact callOf_eq_generate_iff.2 rfl
  · exact callOf_eq_declare_iff.2 ⟨rfl, Ne.symm hgd⟩
  · rw [callOf, if_neg (Ne.symm hgc), if_neg (Ne.symm hdc), if_pos rfl]
  · exact callOf_eq_publish_iff.2 ⟨rfl, Ne.symm hgp, Ne.symm hdp, Ne.symm hcp⟩

theorem execute_generate (h : task = build.pass.layout.tasks.generate)
    (next : Build → Outcome Build Failure Unit) :
    ((build.execute task).andThen fun taken build => if taken then .ok () build [] else next build) =
      build.perform plan .generate := by
  rw [execute, Pass.execute, if_pos h, perform]
  cases hanswer : (build.pass.generate build.tree).answer with
  | error failure => simp [Outcome.andThen, Outcome.onState, hanswer]
  | ok paths => simp [Outcome.andThen, Outcome.onState, Outcome.ok, hanswer]

theorem execute_declare (h : task = build.pass.layout.tasks.declare)
    (hne : task ≠ build.pass.layout.tasks.generate) (next : Build → Outcome Build Failure Unit) :
    ((build.execute task).andThen fun taken build => if taken then .ok () build [] else next build) =
      build.perform plan .declare := by
  rw [execute, Pass.execute, if_neg hne, if_pos h, perform]
  cases hanswer : (build.pass.declare build.catalog build.tree).answer with
  | error failure => simp [Outcome.andThen, Outcome.onState, hanswer]
  | ok count => simp [Outcome.andThen, Outcome.onState, Outcome.ok, hanswer]

theorem execute_own (hgenerate : task ≠ build.pass.layout.tasks.generate)
    (hdeclare : task ≠ build.pass.layout.tasks.declare)
    (next : Build → Outcome Build Failure Unit) :
    ((build.execute task).andThen fun taken build => if taken then .ok () build [] else next build) =
      next build := by
  rw [execute, Pass.execute_of_ne hgenerate hdeclare]
  rfl

/-- Running a task is performing its call. -/
theorem runTask_of_call (h : callOf build.pass.layout.tasks plan task = some call) :
    build.runTask plan task =
      (build.perform plan call).onError (.during ("Task '" ++ task ++ "' failed")) := by
  rw [runTask]
  congr 1
  cases call with
  | generate => exact execute_generate (callOf_eq_generate_iff.1 h) _
  | declare =>
      obtain ⟨hdeclare, hne⟩ := callOf_eq_declare_iff.1 h
      exact execute_declare hdeclare hne _
  | compile =>
      obtain ⟨hcompile, hgenerate, hdeclare, hcompiles⟩ := callOf_eq_compile_iff.1 h
      rw [execute_own hgenerate hdeclare (Build.runOwn · plan task), runOwn, if_pos hcompile,
        if_pos hcompiles, perform]
  | publish =>
      obtain ⟨hpublish, hgenerate, hdeclare, hcompile⟩ := callOf_eq_publish_iff.1 h
      rw [execute_own hgenerate hdeclare (Build.runOwn · plan task), runOwn, if_neg hcompile,
        if_pos hpublish, perform]

theorem runTask_of_no_call (h : callOf build.pass.layout.tasks plan task = none) :
    build.runTask plan task = .ok () build [] := by
  have hgenerate : task ≠ build.pass.layout.tasks.generate := by
    intro heq
    rw [callOf_eq_generate_iff.2 heq] at h
    cases h
  have hdeclare : task ≠ build.pass.layout.tasks.declare := by
    intro heq
    rw [callOf_eq_declare_iff.2 ⟨heq, hgenerate⟩] at h
    cases h
  rw [runTask, execute_own hgenerate hdeclare (Build.runOwn · plan task), runOwn]
  rw [callOf, if_neg hgenerate, if_neg hdeclare] at h
  by_cases hcompile : task = plan.tasks.compile
  · rw [if_pos hcompile] at h ⊢
    by_cases hcompiles : plan.compiles = true
    · rw [if_pos hcompiles] at h
      cases h
    · rw [if_neg hcompiles]
      rfl
  · rw [if_neg hcompile] at h ⊢
    by_cases hpublish : task = plan.tasks.publish
    · rw [if_pos hpublish] at h
      cases h
    · rw [if_neg hpublish]
      rfl

/-- What a call that succeeded has made of the build, if a task was run that comes to it. -/
theorem perform_of_runTask (hcall : callOf build.pass.layout.tasks plan task = some call)
    (h : (build.runTask plan task).Yields done after) :
    (build.perform plan call).Yields done after := by
  rw [runTask_of_call hcall] at h
  exact Outcome.yields_onError_iff.1 h

theorem tree_perform_generate (build : Build) (plan : Plan) :
    (build.perform plan .generate).state.tree = (build.pass.generate build.tree).state.2 := by
  have hstate := (Outcome.andThen_ok ((build.pass.generate build.tree).onState
    fun (pass, tree) => { build with pass, tree }) (fun _ => ()) []).2
  rw [perform, hstate]
  rfl

theorem tree_perform_declare (build : Build) (plan : Plan) :
    (build.perform plan .declare).state.tree = build.tree := by
  have hstate := (Outcome.andThen_ok ((build.pass.declare build.catalog build.tree).onState
    fun (pass, catalog) => { build with pass, catalog }) (fun _ => ()) []).2
  rw [perform, hstate]
  rfl

theorem perform_generate_yields (h : (build.perform plan .generate).Yields done after) :
    ∃ paths pass tree, (build.pass.generate build.tree).Yields paths (pass, tree) ∧
      after = { build with pass, tree } := by
  rw [perform] at h
  obtain ⟨paths, state, hstep, hlast⟩ := Outcome.yields_andThen_iff.1 h
  obtain ⟨⟨pass, tree⟩, hgenerate, rfl⟩ := Outcome.yields_onState_iff.1 hstep
  exact ⟨paths, pass, tree, hgenerate, hlast.state.symm⟩

theorem perform_declare_yields (h : (build.perform plan .declare).Yields done after) :
    ∃ count pass catalog,
      (build.pass.declare build.catalog build.tree).Yields count (pass, catalog) ∧
        after = { build with pass, catalog } := by
  rw [perform] at h
  obtain ⟨count, state, hstep, hlast⟩ := Outcome.yields_andThen_iff.1 h
  obtain ⟨⟨pass, catalog⟩, hdeclare, rfl⟩ := Outcome.yields_onState_iff.1 hstep
  exact ⟨count, pass, catalog, hdeclare, hlast.state.symm⟩

theorem state_perform_compile (hfound : build.pass.scripts = some scripts) :
    (build.perform plan .compile).state =
      { build with tree := (build.compiler.compile plan.programs
        (scripts.map Script.path ++ scripts.map build.pass.writer.pathOf) [] build.tree).state } := by
  rw [perform, compile, Pass.find_of_scripts hfound]
  rfl

theorem perform_compile_yields (h : (build.perform plan .compile).Yields done after) :
    ∃ scripts pass tree, (build.pass.find build.tree).Yields scripts pass ∧
      (build.compiler.compile plan.programs
        (scripts.map Script.path ++ scripts.map pass.writer.pathOf) [] build.tree).Yields done tree ∧
      after = { build with pass, tree } := by
  rw [perform, compile] at h
  obtain ⟨scripts, state, hstep, hlast⟩ := Outcome.yields_andThen_iff.1 h
  obtain ⟨pass, hfind, rfl⟩ := Outcome.yields_onState_iff.1 hstep
  obtain ⟨tree, hcompile, rfl⟩ := Outcome.yields_onState_iff.1 hlast
  exact ⟨scripts, pass, tree, hfind, hcompile, rfl⟩

theorem perform_publish_yields (h : (build.perform plan .publish).Yields done after) :
    ∃ paths tree, (build.catalog.publish plan.descriptors build.tree).Yields paths tree ∧
      after = { build with tree } := by
  rw [perform, publish] at h
  obtain ⟨paths, state, hstep, hlast⟩ := Outcome.yields_andThen_iff.1 h
  obtain ⟨tree, hpublish, rfl⟩ := Outcome.yields_onState_iff.1 hstep
  exact ⟨paths, tree, hpublish, hlast.state.symm⟩

theorem effect_of_perform (h : (build.perform plan call).Yields done after) :
    Effect plan build call after := by
  cases call with
  | generate =>
      obtain ⟨paths, pass, tree, hgenerate, rfl⟩ := perform_generate_yields h
      exact .generate hgenerate
  | declare =>
      obtain ⟨count, pass, catalog, hdeclare, rfl⟩ := perform_declare_yields h
      exact .declare hdeclare
  | compile =>
      obtain ⟨scripts, pass, tree, hfind, hcompile, rfl⟩ := perform_compile_yields h
      exact .compile hfind hcompile
  | publish =>
      obtain ⟨paths, tree, hpublish, rfl⟩ := perform_publish_yields h
      exact .publish hpublish

end Build

end ScriptPlugins
