import ScriptPlugins.Proofs.CommandLine.Calls
import ScriptPlugins.Proofs.Plugins.Configuring

/-!
# The tasks of a build

With four task names that differ, the schedule of a build holds each of its tasks once, and they come
to the four calls. Compiling changes nothing if the compiler leaves the tree alone, so a run is
generating, declaring and publishing, each from where the one before has ended.
-/

namespace ScriptPlugins

open Text

/-- A compiler that leaves the tree alone, or that is not there. -/
def Compiler.Quiet (command : Option String) (programs : Programs) : Prop :=
  ∀ name, command = some name → ∀ arguments tree, (programs name arguments tree).2 = tree

/-- Nothing is run, or what is left is what the program leaves. -/
theorem Compiler.compile_cases (compiler : Compiler) (programs : Programs) (sources : List Path)
    (more : List String) (tree : Tree) :
    (compiler.compile programs sources more tree).state = tree ∨
      ∃ command, compiler.command = some command ∧
        (compiler.compile programs sources more tree).state =
          (programs command (compiler.commandLine sources more) tree).2 := by
  cases hcommand : compiler.command with
  | none =>
      left
      simp only [compile, hcommand, Outcome.state_ok]
  | some command =>
      refine .inr ⟨command, rfl, ?_⟩
      simp only [compile, hcommand]
      obtain ⟨answer, after⟩ := programs command (compiler.commandLine sources more) tree
      cases answer with
      | error fault => rfl
      | ok ended =>
          simp only
          split_ifs <;> rfl

theorem Compiler.state_compile {compiler : Compiler} {programs : Programs}
    (hquiet : Quiet compiler.command programs) (sources : List Path) (more : List String)
    (tree : Tree) : (compiler.compile programs sources more tree).state = tree := by
  rcases compiler.compile_cases programs sources more tree with hsame | ⟨command, hcommand, hran⟩
  · exact hsame
  · exact hran.trans (hquiet command hcommand _ tree)

namespace Build

variable {build : Build} {plan : Plan} {task : String} {rest : List String} {done : Unit}
  {scripts : List Script}

theorem runTasks_cons_yields_iff {last : Build} :
    (runTasks plan (task :: rest) build).Yields done last ↔
      ∃ middle, (build.runTask plan task).Yields () middle ∧
        (runTasks plan rest middle).Yields done last := by
  rw [runTasks, Outcome.yields_andThen_iff]
  constructor
  · rintro ⟨_, middle, hfirst, hrest⟩
    exact ⟨middle, hfirst, hrest⟩
  · rintro ⟨middle, hfirst, hrest⟩
    exact ⟨(), middle, hfirst, hrest⟩

/-- Compiling leaves the build as it is if the compiler leaves the tree as it is. -/
theorem runTask_compile {after : Build} (hfound : build.pass.scripts = some scripts)
    (hquiet : plan.compiles = true → Compiler.Quiet build.compiler.command plan.programs)
    (hcall : callOf build.pass.layout.tasks plan task =
      if plan.compiles then some .compile else none)
    (h : (build.runTask plan task).Yields done after) : after = build := by
  by_cases hcompiles : plan.compiles
  · rw [if_pos hcompiles] at hcall
    have hsame := Compiler.state_compile (hquiet hcompiles)
      (scripts.map Script.path ++ scripts.map build.pass.writer.pathOf) [] build.tree
    calc
      after = (build.perform plan .compile).state := (perform_of_runTask hcall h).state.symm
      _ = _ := state_perform_compile hfound
      _ = { build with tree := build.tree } := by rw [hsame]
      _ = build := rfl
  · rw [if_neg hcompiles] at hcall
    rw [runTask_of_no_call hcall] at h
    exact h.state.symm

/-- What is left of a run when compiling changes nothing: generating, registering and publishing,
each from where the one before has ended. -/
structure Ran (pass : Pass) (directory : Path) (before : Tree) (catalog : Catalog) (after : Tree) :
    Prop where
  steps : ∃ wrappers count files middle last made,
    (pass.generate before).Yields wrappers (middle, made) ∧
    (middle.declare .empty made).Yields count (last, catalog) ∧
    (catalog.publish directory made).Yields files after

theorem ran_of_runTasks {last : Build} (hfound : build.pass.scripts = some scripts)
    (htasks : build.pass.layout.tasks = plan.tasks) (hdistinct : plan.tasks.Distinct)
    (hcatalog : build.catalog = .empty)
    (hquiet : plan.compiles = true → Compiler.Quiet build.compiler.command plan.programs)
    (h : (runTasks plan [plan.tasks.generate, plan.tasks.compile, plan.tasks.declare,
      plan.tasks.publish] build).Yields done last) :
    Ran build.pass plan.descriptors build.tree last.catalog last.tree := by
  obtain ⟨generated, hgenerate, h⟩ := runTasks_cons_yields_iff.1 h
  obtain ⟨hcall, -⟩ := callOf_of_distinct htasks hdistinct
  obtain ⟨wrappers, middle, made, hmiddle, rfl⟩ :=
    perform_generate_yields (perform_of_runTask hcall hgenerate)
  obtain ⟨cleaned, -, -, hlater, -⟩ := Pass.generate_yields hfound hmiddle
  have hlayout : middle.layout.tasks = plan.tasks := by rw [hlater, ← htasks]
  have hscripts : middle.scripts =
      some (Script.each (Pass.writeWrapper build.pass.writer) scripts cleaned).state.1 := by
    rw [hlater]
  obtain ⟨compiled, hcompile, h⟩ := runTasks_cons_yields_iff.1 h
  obtain ⟨-, hcallDeclare, hcallCompile, -⟩ := callOf_of_distinct hlayout hdistinct
  obtain rfl := @runTask_compile { build with pass := middle, tree := made } plan _ _ _ _ hscripts
    hquiet hcallCompile hcompile
  obtain ⟨declared, hdeclare, h⟩ := runTasks_cons_yields_iff.1 h
  obtain ⟨count, final, catalog, hfinal, rfl⟩ :=
    perform_declare_yields (perform_of_runTask hcallDeclare hdeclare)
  obtain ⟨-, hlast, -⟩ := Pass.declare_yields hscripts hfinal
  have hfinalTasks : final.layout.tasks = plan.tasks := by rw [hlast, ← hlayout]
  obtain ⟨published, hpublish, h⟩ := runTasks_cons_yields_iff.1 h
  obtain ⟨-, -, -, hcallPublish⟩ := callOf_of_distinct hfinalTasks hdistinct
  obtain ⟨files, after, hafter, rfl⟩ :=
    perform_publish_yields (perform_of_runTask hcallPublish hpublish)
  obtain rfl := h.state
  rw [hcatalog] at hfinal
  exact ⟨wrappers, count, files, middle, final, made, hmiddle, hfinal, hafter⟩

variable {settings : Settings} {project : Path} {command : Option String} {tree : Tree}
  {plugins : List Plugin}

theorem configure_new {after : Build} (hdistinct : settings.tasks.Distinct)
    (h : (new settings project command tree).configure.Yields done after) :
    ∃ scripts, (settings.layoutAt project).Discovers tree scripts ∧
      (∀ script ∈ scripts, Identifier.isTypeName script.wrapperClass = true) ∧
      after.pass.layout = settings.layoutAt project ∧ after.pass.scripts = some scripts ∧
      after.schedule.order = [settings.tasks.generate, settings.tasks.compile,
        settings.tasks.declare, settings.tasks.publish] ∧
      after.compiler.command = command ∧ after.catalog = .empty ∧ after.tree = tree := by
  obtain ⟨state, hconfigure, rfl⟩ := Outcome.yields_onState_iff.1 h
  obtain ⟨-, scripts, hfind, hobjection, hstate⟩ := Pass.configure_yields_iff.1 hconfigure
  obtain ⟨hnames, -, -⟩ := Pass.objection?_eq_none_iff.1 hobjection
  rw [Pass.state_find rfl hfind] at hstate
  obtain rfl := hstate
  obtain ⟨-, -, hne⟩ := hdistinct.ne
  obtain ⟨-, horder⟩ := @Pass.order_wire (settings.layoutAt project)
    (.ofTasks [settings.tasks.compile, settings.tasks.publish]) (scripts.map Script.path)
    hdistinct (Schedule.order_ofTasks hne)
  exact ⟨scripts, (Pass.find_eq_ok_iff rfl rfl).1 hfind, hnames, rfl, rfl, horder, rfl, rfl, rfl⟩

theorem finalize_yields {arguments : CompilerArguments} {after : Build}
    (h : build.finalize.Yields arguments after) :
    after.pass.layout = build.pass.layout ∧ after.pass.scripts = build.pass.scripts ∧
      after.schedule = build.schedule ∧ after.compiler.command = build.compiler.command ∧
      after.catalog = build.catalog ∧ after.tree = build.tree := by
  obtain ⟨state, hfinalize, rfl⟩ := Outcome.yields_onState_iff.1 h
  rw [Pass.finalize] at hfinalize
  cases hphase : build.pass.phase with
  | created =>
      rw [hphase] at hfinalize
      cases hfinalize.answer
  | finalized =>
      rw [hphase] at hfinalize
      cases hfinalize.answer
  | configured =>
      rw [hphase] at hfinalize
      obtain rfl := hfinalize.state
      exact ⟨rfl, rfl, rfl, rfl, rfl, rfl⟩

/-- Once a build is configured and finalized, what is left of its run is the tasks. -/
theorem run_agrees {arguments : CompilerArguments} {ready : Build}
    (h : build.arguments.Yields arguments ready) :
    (build.run plan).Agrees ((runTasks plan ready.schedule.order ready).andThen fun _ build =>
      .ok build.catalog.plugins build [event "Script plugins generated"]) := by
  obtain ⟨_, configured, hconfigure, hfinalize⟩ := Outcome.yields_andThen_iff.1 h
  apply Outcome.Agrees.trans
  · apply Outcome.Yields.andThen
    exact Outcome.yields_onError_iff.2 hconfigure
  · apply Outcome.Yields.andThen
    exact Outcome.yields_onError_iff.2 hfinalize

/-- A run that cannot be configured or finalized ends there. -/
theorem run_fails {failure : Failure} (h : build.arguments.answer = .error failure) :
    ∃ trouble, (build.run plan).Fails trouble build.arguments.state := by
  rcases Outcome.fails_andThen_iff.1 ⟨h, rfl⟩ with hconfigure | ⟨_, configured, hconfigure, hfinalize⟩
  · exact ⟨_, (hconfigure.onError _).andThen _⟩
  · refine ⟨.ofFailure failure, Outcome.fails_andThen_iff.2 (.inr ⟨(), configured, ?_, ?_⟩)⟩
    · exact Outcome.yields_onError_iff.2 hconfigure
    · exact (hfinalize.onError _).andThen _

theorem run_yields {after : Build} (h : (build.run plan).Yields plugins after) :
    ∃ arguments ready, build.arguments.Yields arguments ready ∧
      (runTasks plan ready.schedule.order ready).Yields () after ∧
      plugins = after.catalog.plugins := by
  obtain ⟨_, configured, hconfigure, h⟩ := Outcome.yields_andThen_iff.1 h
  obtain ⟨arguments, ready, hfinalize, h⟩ := Outcome.yields_andThen_iff.1 h
  obtain ⟨_, last, hrun, hlast⟩ := Outcome.yields_andThen_iff.1 h
  obtain rfl := hlast.state
  refine ⟨arguments, ready, ?_, hrun, (Except.ok.inj hlast.answer).symm⟩
  refine Outcome.yields_andThen_iff.2 ⟨(), configured, ?_, ?_⟩
  · exact Outcome.yields_onError_iff.1 hconfigure
  · exact Outcome.yields_onError_iff.1 hfinalize

/-- A run finds the scripts in the tree as it was, and then goes through the tasks. -/
theorem run_new {after : Build} (htasks : plan.tasks = settings.tasks)
    (hdistinct : settings.tasks.Distinct)
    (hquiet : plan.compiles = true → Compiler.Quiet command plan.programs)
    (h : ((new settings project command tree).run plan).Yields plugins after) :
    ∃ scripts pass, (settings.layoutAt project).Discovers tree scripts ∧
      (∀ script ∈ scripts, Identifier.isTypeName script.wrapperClass = true) ∧
      pass.layout = settings.layoutAt project ∧ pass.scripts = some scripts ∧
      Ran pass plan.descriptors tree after.catalog after.tree ∧
      plugins = after.catalog.plugins := by
  obtain ⟨arguments, finalized, hready, hrun, hplugins⟩ := run_yields h
  obtain ⟨_, configured, hconfigure, hfinalize⟩ := Outcome.yields_andThen_iff.1 hready
  obtain ⟨scripts, hdiscovers, hnames, hlayout, hfound, horder, hcommand, hcatalog, htree⟩ :=
    configure_new hdistinct hconfigure
  obtain ⟨hlayout', hfound', hschedule, hcommand', hcatalog', htree'⟩ := finalize_yields hfinalize
  rw [hschedule, horder, ← htasks] at hrun
  refine ⟨scripts, finalized.pass, hdiscovers, hnames, hlayout'.trans hlayout,
    hfound'.trans hfound, ?_, hplugins⟩
  rw [← htree, ← htree']
  refine ran_of_runTasks (hfound'.trans hfound) ?_ (htasks ▸ hdistinct) (hcatalog'.trans hcatalog)
    ?_ hrun
  · rw [hlayout', hlayout, htasks]
    rfl
  · rw [hcommand', hcommand]
    exact hquiet

end Build

end ScriptPlugins
