import ScriptPlugins.Proofs.CommandLine.Ordering
import ScriptPlugins.Proofs.Plugins.Sparing

/-!
# Failures before publishing

Publishing comes last, and it looks at every id before it touches a file. So whatever else fails,
there is nothing new among the descriptors: wrappers go elsewhere, and so do the directories that are
made for them. A run comes to an end in one of two ways. Either a task before publishing fails, or all
plugins are registered, as the scripts meant them when they were found, and the rest is publishing
them.
-/

namespace ScriptPlugins

open Text

/-- A compiler that leaves alone what is at a location and below it, or that is not there. -/
def Compiler.Spares (command : Option String) (programs : Programs) (location : Location) : Prop :=
  ∀ name, command = some name → ∀ arguments tree,
    Tree.Spared location tree (programs name arguments tree).2

theorem Compiler.spared_compile {compiler : Compiler} {programs : Programs} {location : Location}
    (hspares : Spares compiler.command programs location) (sources : List Path)
    (more : List String) (tree : Tree) :
    Tree.Spared location tree (compiler.compile programs sources more tree).state := by
  rcases compiler.compile_cases programs sources more tree with hsame | ⟨command, hcommand, hran⟩
  · rw [hsame]
    exact .refl location tree
  · rw [hran]
    exact hspares command hcommand _ tree

namespace Build

variable {plan : Plan} {scripts : List Script} {location : Location} {before after : Tree}
  {build : Build} {task : String} {rest : List String}

/-- A task before publishing has failed and nothing at the location has changed, or the plugins of all
scripts were registered and what has happened since is that they were published. -/
inductive Went {α : Type} (plan : Plan) (location : Location) (before : Tree)
    (scripts : List Script) (answer : Except Trouble α) (after : Tree) : Prop
  | stopped {task : String} {failure : Failure} (ne : task ≠ plan.tasks.publish)
      (fails : answer = .error (.during ("Task '" ++ task ++ "' failed") failure))
      (spared : Tree.Spared location before after)
  | registered {catalog : Catalog} {middle : Tree}
      (means : List.Forall₂ (Script.Means before) scripts catalog.plugins)
      (nodup : (catalog.plugins.map Plugin.id).Nodup)
      (spared : Tree.Spared location before middle)
      (tree : after = (catalog.publish plan.descriptors middle).state)
      (fails : ∀ failure, (catalog.publish plan.descriptors middle).answer = .error failure →
        answer = .error (.during ("Task '" ++ plan.tasks.publish ++ "' failed") failure))
      (succeeds : ∀ paths, (catalog.publish plan.descriptors middle).answer = .ok paths →
        ∃ a, answer = .ok a)

/-- What is only said after a success does not matter. -/
theorem Went.andThen {α β : Type} {outcome : Outcome Build Trouble α}
    {next : α → Build → Outcome Build Trouble β}
    (h : Went plan location before scripts outcome.answer outcome.state.tree)
    (hnext : ∀ a build, ∃ b events, next a build = .ok b build events) :
    Went plan location before scripts (outcome.andThen next).answer
      (outcome.andThen next).state.tree := by
  obtain ⟨-, hstate⟩ := @Outcome.andThen_said _ _ _ _ outcome next hnext
  rw [hstate]
  cases h with
  | stopped ne fails spared => exact .stopped ne (Outcome.andThen_of_error fails).1 spared
  | registered means nodup spared tree fails succeeds =>
      refine .registered means nodup spared tree ?_ ?_
      · exact fun failure hfailure => (Outcome.andThen_of_error (fails failure hfailure)).1
      · intro paths hpaths
        obtain ⟨a, ha⟩ := succeeds paths hpaths
        obtain ⟨b, events, hsaid⟩ := hnext a outcome.state
        exact ⟨b, by rw [(Outcome.andThen_of_ok ha).1, hsaid, Outcome.answer_ok]⟩

theorem trouble_of_runTask {trouble : Trouble}
    (h : (build.runTask plan task).answer = .error trouble) :
    ∃ failure, trouble = .during ("Task '" ++ task ++ "' failed") failure := by
  rw [runTask] at h
  generalize (build.execute task).andThen _ = outcome at h
  cases hanswer : outcome.answer with
  | error failure =>
      exact ⟨failure, (Except.error.inj ((Outcome.answer_onError_of_error hanswer).symm.trans h)).symm⟩
  | ok done => cases (Outcome.answer_onError_eq_ok_iff.2 hanswer).symm.trans h

/-- A task before publishing that leaves the location alone, and then the others. -/
theorem went_cons (hne : task ≠ plan.tasks.publish)
    (hspared : Tree.Spared location before (build.runTask plan task).state.tree)
    (hrest : ∀ middle, (build.runTask plan task).Yields () middle →
      Went plan location before scripts (runTasks plan rest middle).answer
        (runTasks plan rest middle).state.tree) :
    Went plan location before scripts (runTasks plan (task :: rest) build).answer
      (runTasks plan (task :: rest) build).state.tree := by
  rw [runTasks]
  cases hanswer : (build.runTask plan task).answer with
  | error trouble =>
      obtain ⟨failure, rfl⟩ := trouble_of_runTask hanswer
      rw [(Outcome.andThen_of_error hanswer).1, (Outcome.andThen_of_error hanswer).2]
      exact .stopped hne rfl hspared
  | ok done =>
      rw [(Outcome.andThen_of_ok hanswer).1, (Outcome.andThen_of_ok hanswer).2]
      exact hrest _ (Outcome.yields_of_answer hanswer)

theorem went_publish
    (hcall : callOf build.pass.layout.tasks plan plan.tasks.publish = some .publish)
    (hmeans : List.Forall₂ (Script.Means before) scripts build.catalog.plugins)
    (hnodup : (build.catalog.plugins.map Plugin.id).Nodup)
    (hspared : Tree.Spared location before build.tree) :
    Went plan location before scripts (runTasks plan [plan.tasks.publish] build).answer
      (runTasks plan [plan.tasks.publish] build).state.tree := by
  refine Went.andThen ?_ fun done build => ⟨(), [], rfl⟩
  obtain ⟨hanswer, hstate⟩ := Outcome.andThen_ok
    ((build.catalog.publish plan.descriptors build.tree).onState ({ build with tree := · }))
    (fun _ => ()) []
  rw [runTask_of_call hcall, Outcome.state_onError]
  refine .registered hmeans hnodup hspared (congrArg Build.tree hstate) ?_ ?_
  · intro failure hfailure
    refine Outcome.answer_onError_of_error (hanswer.trans ?_)
    rw [Outcome.answer_onState, hfailure]
    rfl
  · intro paths hpaths
    refine ⟨(), Outcome.answer_onError_eq_ok_iff.2 (hanswer.trans ?_)⟩
    rw [Outcome.answer_onState, hpaths]
    rfl

/-- What a build is like once its wrappers are written: whatever happens to the tree then, its
scripts go on to mean what they meant before. -/
structure Written (plan : Plan) (scripts : List Script) (location : Location) (before : Tree)
    (build : Build) : Prop where
  tasks : build.pass.layout.tasks = plan.tasks
  catalog : build.catalog = .empty
  remembers : ∃ laters, build.pass.scripts = some laters ∧
    (∀ later ∈ laters, later.Consistent) ∧
    ∀ tree plugins, List.Forall₂ (Script.Means tree) laters plugins →
      List.Forall₂ (Script.Means before) scripts plugins
  spared : Tree.Spared location before build.tree

theorem Written.declare (h : build.Written plan scripts location before)
    (hdistinct : plan.tasks.Distinct) :
    Went plan location before scripts
      (runTasks plan [plan.tasks.declare, plan.tasks.publish] build).answer
      (runTasks plan [plan.tasks.declare, plan.tasks.publish] build).state.tree := by
  obtain ⟨-, hdeclare, -⟩ := callOf_of_distinct h.tasks hdistinct
  obtain ⟨-, ⟨-, hne⟩, -⟩ := hdistinct.ne
  obtain ⟨laters, hfound, hconsistent, hmeans⟩ := h.remembers
  refine went_cons hne ?_ ?_
  · rw [runTask_of_call hdeclare, Outcome.state_onError, tree_perform_declare]
    exact h.spared
  · intro middle hmiddle
    obtain ⟨count, pass, catalog, hyields, rfl⟩ :=
      perform_declare_yields (perform_of_runTask hdeclare hmiddle)
    obtain ⟨⟨done, hdone⟩, hpass, hcatalog⟩ := Pass.declare_yields hfound hyields
    rw [h.catalog] at hdone hcatalog
    obtain ⟨plugins, hplugins, hregistered, hnodup⟩ := @Catalog.each_declareScript_eq_ok .empty laters
      build.tree hconsistent done List.nodup_nil hdone
    rw [← hcatalog] at hregistered
    have htasks : pass.layout.tasks = plan.tasks := by rw [hpass, ← h.tasks]
    refine went_publish (callOf_of_distinct htasks hdistinct).2.2.2 ?_ ?_ h.spared
    · rw [hregistered]
      exact hmeans build.tree plugins hplugins
    · rw [hregistered]
      exact hnodup

theorem Written.compile (h : build.Written plan scripts location before)
    (hdistinct : plan.tasks.Distinct)
    (hspares : plan.compiles = true →
      Compiler.Spares build.compiler.command plan.programs location) :
    Went plan location before scripts
      (runTasks plan [plan.tasks.compile, plan.tasks.declare, plan.tasks.publish] build).answer
      (runTasks plan [plan.tasks.compile, plan.tasks.declare, plan.tasks.publish]
        build).state.tree := by
  obtain ⟨-, -, hcompile, -⟩ := callOf_of_distinct h.tasks hdistinct
  obtain ⟨-, -, hne⟩ := hdistinct.ne
  obtain ⟨laters, hfound, -⟩ := h.remembers
  have hstate : ∃ tree, (build.runTask plan plan.tasks.compile).state = { build with tree } ∧
      Tree.Spared location before tree := by
    by_cases hcompiles : plan.compiles = true
    · rw [if_pos hcompiles] at hcompile
      rw [runTask_of_call hcompile, Outcome.state_onError, state_perform_compile hfound]
      exact ⟨_, rfl, h.spared.trans (Compiler.spared_compile (hspares hcompiles) _ _ _)⟩
    · rw [if_neg hcompiles] at hcompile
      rw [runTask_of_no_call hcompile]
      exact ⟨build.tree, rfl, h.spared⟩
  obtain ⟨tree, hstate, hspared⟩ := hstate
  refine went_cons hne ?_ ?_
  · rw [hstate]
    exact hspared
  · intro middle hmiddle
    obtain rfl := hstate.symm.trans hmiddle.state
    exact Written.declare ⟨h.tasks, h.catalog, h.remembers, hspared⟩ hdistinct

/-- A build that is about to write its wrappers, all of them away from its scripts and from a
location. -/
structure Ready (plan : Plan) (scripts : List Script) (location : Location) (build : Build) :
    Prop where
  tasks : build.pass.layout.tasks = plan.tasks
  catalog : build.catalog = .empty
  found : build.pass.scripts = some scripts
  discovers : build.pass.layout.Discovers build.tree scripts
  wraps : ∀ script ∈ scripts, build.pass.writer.Wraps script
  wellFormed : build.tree.WellFormed
  linkFree : build.tree.LinkFree
  scripts_wrappers : Tree.Apart (build.tree.place build.pass.layout.sourceRoot)
    (build.tree.place build.pass.writer.directory)
  apart : Tree.Apart (build.tree.place build.pass.writer.directory) location
  bypasses : scripts ≠ [] → build.tree.Bypasses build.pass.writer.directory location
  spares : plan.compiles = true → Compiler.Spares build.compiler.command plan.programs location

theorem Ready.generate (h : build.Ready plan scripts location) (hdistinct : plan.tasks.Distinct) :
    let outcome := runTasks plan [plan.tasks.generate, plan.tasks.compile, plan.tasks.declare,
      plan.tasks.publish] build
    Went plan location build.tree scripts outcome.answer outcome.state.tree := by
  obtain ⟨hgenerate, -⟩ := callOf_of_distinct h.tasks hdistinct
  obtain ⟨⟨-, -, hne⟩, -⟩ := hdistinct.ne
  have hspared := Pass.spared_generate h.found h.linkFree h.wraps h.apart h.bypasses
  refine went_cons hne ?_ ?_
  · rw [runTask_of_call hgenerate, Outcome.state_onError, tree_perform_generate]
    exact hspared
  · intro middle hmiddle
    obtain ⟨wrappers, pass, tree, hyields, rfl⟩ :=
      perform_generate_yields (perform_of_runTask hgenerate hmiddle)
    obtain ⟨laters, rfl, hgenerated⟩ :=
      Pass.generated_of_yields h.found h.linkFree h.wraps hyields
    rw [hyields.state] at hspared
    refine Written.compile ⟨h.tasks, h.catalog, ⟨laters, rfl, hgenerated.consistent, ?_⟩, hspared⟩
      hdistinct h.spares
    intro last plugins hmeans
    exact hgenerated.means h.discovers h.wellFormed h.linkFree
      (fun _ => h.scripts_wrappers.not_prefix) hmeans

variable {settings : Settings} {project : Path} {command : Option String} {tree : Tree}

theorem phase_of_configure {done : Unit} {ready : Build} (h : build.configure.Yields done ready) :
    ready.pass.phase = .configured := by
  obtain ⟨state, hconfigure, rfl⟩ := Outcome.yields_onState_iff.1 h
  obtain ⟨-, scripts, -, -, rfl⟩ := Pass.configure_yields_iff.1 hconfigure
  rfl

theorem exists_finalize (h : build.pass.phase = .configured) :
    ∃ arguments, build.finalize.answer = .ok arguments := by
  rw [finalize, Pass.finalize, h]
  exact ⟨_, rfl⟩

/-- A run that cannot be configured leaves the tree as it is, and any other goes on with its tasks. -/
theorem run_cases (htasks : plan.tasks = settings.tasks) (hdistinct : settings.tasks.Distinct) :
    let run := (new settings project command tree).run plan
    (∃ failure, run.answer = .error (.during "Failed to configure script plugins" failure) ∧
      run.state.tree = tree) ∨
    ∃ scripts ready, (settings.layoutAt project).Discovers tree scripts ∧
      (∀ script ∈ scripts, Identifier.isTypeName script.wrapperClass = true) ∧
      ready.pass.layout = settings.layoutAt project ∧ ready.pass.scripts = some scripts ∧
      ready.compiler.command = command ∧ ready.catalog = .empty ∧ ready.tree = tree ∧
      run.Agrees ((runTasks plan [plan.tasks.generate, plan.tasks.compile, plan.tasks.declare,
        plan.tasks.publish] ready).andThen fun _ build =>
          .ok build.catalog.plugins build [event "Script plugins generated"]) := by
  intro run
  cases hconfigure : (new settings project command tree).configure.answer with
  | error failure =>
      have hfails := Outcome.Fails.onError ⟨hconfigure, rfl⟩
        (Trouble.during "Failed to configure script plugins")
      obtain ⟨hanswer, hstate⟩ := hfails.andThen _
      exact .inl ⟨failure, hanswer, congrArg Build.tree hstate⟩
  | ok done =>
      have hyields := Outcome.yields_of_answer hconfigure
      obtain ⟨scripts, hdiscovers, hnames, hlayout, hfound, horder, hcommand, hcatalog, htree⟩ :=
        configure_new hdistinct hyields
      obtain ⟨arguments, hfinalize⟩ := exists_finalize (phase_of_configure hyields)
      have hfinalized := Outcome.yields_of_answer hfinalize
      obtain ⟨hlayout', hfound', hschedule, hcommand', hcatalog', htree'⟩ := finalize_yields hfinalized
      refine .inr ⟨scripts, _, hdiscovers, hnames, hlayout'.trans hlayout, hfound'.trans hfound,
        hcommand'.trans hcommand, hcatalog'.trans hcatalog, htree'.trans htree, ?_⟩
      rw [htasks, ← horder, ← hschedule]
      exact run_agrees (Outcome.yields_andThen_iff.2 ⟨done, _, hyields, hfinalized⟩)

end Build

namespace Build

variable {plan : Plan} {scripts : List Script} {location : Location} {before after : Tree}

theorem activity_inj {task other : String}
    (h : "Task '" ++ task ++ "' failed" = "Task '" ++ other ++ "' failed") : task = other := by
  simpa using h

theorem activity_ne (task : String) :
    "Task '" ++ task ++ "' failed" ≠ "Failed to configure script plugins" := by
  intro h
  simpa using congrArg (fun text => text.toList.head?) h

namespace Went

variable {α : Type} {answer : Except Trouble α}

theorem ne_configuring (h : Went plan location before scripts answer after) (failure : Failure) :
    answer ≠ .error (.during "Failed to configure script plugins" failure) := by
  intro hanswer
  cases h with
  | @stopped task failed ne fails spared =>
      have hsame := Except.error.inj (fails.symm.trans hanswer)
      exact activity_ne task (Option.some.inj (congrArg Trouble.activity hsame))
  | @registered catalog middle means nodup spared tree fails succeeds =>
      cases hpublish : (catalog.publish plan.descriptors middle).answer with
      | error failed =>
          have hsame := Except.error.inj ((fails failed hpublish).symm.trans hanswer)
          exact activity_ne _ (Option.some.inj (congrArg Trouble.activity hsame))
      | ok paths =>
          obtain ⟨a, ha⟩ := succeeds paths hpublish
          cases ha.symm.trans hanswer

theorem spared_of_fails {trouble : Trouble}
    (h : Went plan location before scripts (.error trouble : Except Trouble α) after)
    (hinvalid : trouble.activity = some ("Task '" ++ plan.tasks.publish ++ "' failed") →
      ∃ id, trouble.failure = .invalidId id) : Tree.Spared location before after := by
  cases h with
  | stopped ne fails spared => exact spared
  | @registered catalog middle means nodup spared tree fails succeeds =>
      cases hpublish : (catalog.publish plan.descriptors middle).answer with
      | error failure =>
          obtain rfl := Except.error.inj (fails failure hpublish)
          obtain ⟨id, rfl⟩ := hinvalid rfl
          rw [tree, Catalog.state_of_publish_eq_invalidId hpublish]
          exact spared
      | ok paths =>
          obtain ⟨a, ha⟩ := succeeds paths hpublish
          cases ha

/-- Two scripts that share an id are never both registered. -/
theorem stopped_of_same_id (h : Went plan location before scripts answer after)
    {first second : Script} {plugin other : Plugin} (hscripts : [first, second].Sublist scripts)
    (hfirst : first.Means before plugin) (hsecond : second.Means before other)
    (hid : plugin.id = other.id) :
    ∃ trouble, answer = .error trouble ∧
      trouble.activity ≠ some ("Task '" ++ plan.tasks.publish ++ "' failed") ∧
      Tree.Spared location before after := by
  cases h with
  | stopped ne fails spared =>
      exact ⟨_, fails, fun hsame => ne (activity_inj (Option.some.inj hsame)), spared⟩
  | registered means nodup spared tree fails succeeds =>
      exact absurd hid (Script.id_ne_of_means means nodup hscripts hfirst hsecond)

/-- An id that is no name is refused when nothing has been published yet. -/
theorem fails_of_unpublishable (h : Went plan location before scripts answer after)
    {script : Script} {plugin : Plugin} (hscript : script ∈ scripts)
    (hmeans : script.Means before plugin) (hid : Catalog.isPublishable plugin.id = false) :
    ∃ trouble, answer = .error trouble ∧ Tree.Spared location before after := by
  cases h with
  | stopped ne fails spared => exact ⟨_, fails, spared⟩
  | @registered catalog middle means nodup spared tree fails succeeds =>
      have hplugin := Script.mem_of_means means hscript hmeans
      have hunpublishable : ¬ catalog.Publishable := fun hpublishable =>
        Bool.false_ne_true (hid.symm.trans (hpublishable plugin hplugin))
      obtain ⟨id, hrefused⟩ :=
        Catalog.publish_of_not_publishable hunpublishable plan.descriptors middle
      rw [tree, hrefused]
      exact ⟨_, fails (.invalidId id) (congrArg Outcome.answer hrefused), spared⟩

end Went

end Build

/-- If there are scripts to write wrappers for, the way to the wrappers is clear of any place that is
apart from them. -/
theorem Settings.bypasses {settings : Settings} {project : Path} {tree : Tree}
    {scripts : List Script} {location : Location} (hfree : tree.LinkFree)
    (hparent : Path.dotDot ∉ settings.layout.generatedDirectory.segments)
    (hproject : settings.layout.sourceRoot.isAbsolute = true →
      Path.dotDot ∉ project.segments ∨ tree.isDirectory project = true ∨
        tree.Bypasses (settings.layoutAt project).generatedDirectory location)
    (hapart : Tree.Apart (tree.place (settings.layoutAt project).generatedDirectory) location)
    (hdiscovers : (settings.layoutAt project).Discovers tree scripts) (hne : scripts ≠ []) :
    tree.Bypasses (settings.layoutAt project).generatedDirectory location := by
  cases habsolute : settings.layout.sourceRoot.isAbsolute with
  | true =>
      rcases hproject habsolute with hdown | hthere | hbypasses
      · exact Tree.bypasses_join hparent (.inl hdown) hapart
      · exact Tree.bypasses_join hparent (.inr (hfree.opens_of_isDirectory hthere)) hapart
      · exact hbypasses
  | false =>
      refine Tree.bypasses_join hparent ?_ hapart
      by_cases hempty : project.bytes = []
      · left
        rw [Path.segments, hempty]
        decide
      · exact .inr ((hdiscovers.leads hfree hne).opens_of_join habsolute hempty)

namespace Command

variable {settings : Settings} {project : Path} {descriptors : Option Path} {compiles : Bool}
  {programs : Programs} {tree : Tree}

/-- The command fails in configuring, or it is a run whose end is known. -/
theorem generate_cases (hwell : tree.WellFormed) (hfree : tree.LinkFree)
    (hdistinct : settings.tasks.Distinct)
    (hextension : '/' ∉ settings.layout.wrapperExtension.toList)
    (hparent : Path.dotDot ∉ settings.layout.generatedDirectory.segments)
    (hproject : settings.layout.sourceRoot.isAbsolute = true →
      Path.dotDot ∉ project.segments ∨ tree.isDirectory project = true ∨
        tree.Bypasses (settings.layoutAt project).generatedDirectory
          (tree.place (settings.descriptorsFor project descriptors)))
    (hseparate : (settings.layoutAt project).Separate
      (settings.descriptorsFor project descriptors) tree)
    (hspares : compiles = true → Compiler.Spares settings.compiler.command programs
      (tree.place (settings.descriptorsFor project descriptors))) :
    let outcome := generate settings project descriptors compiles programs tree
    (∃ failure, outcome.answer =
        .error (.during "Failed to configure script plugins" failure) ∧
      outcome.state.tree = tree) ∨
    ∃ scripts, (settings.layoutAt project).Discovers tree scripts ∧
      Build.Went (settings.planFor project descriptors compiles programs)
        (tree.place (settings.descriptorsFor project descriptors)) tree scripts
        outcome.answer outcome.state.tree := by
  intro outcome
  let plan := settings.planFor project descriptors compiles programs
  have houtcome : outcome = _ := generate_eq settings project descriptors compiles programs tree
  rcases @Build.run_cases plan settings project settings.compiler.command tree rfl hdistinct with
    ⟨failure, hfails, htree⟩ |
    ⟨scripts, ready, hdiscovers, hnames, hlayout, hfound, hcommand, hcatalog, rfl, hrun⟩
  · obtain ⟨hanswer, hstate⟩ := Outcome.andThen_of_error hfails
    rw [houtcome]
    exact .inl ⟨failure, hanswer, (congrArg Build.tree hstate).trans htree⟩
  · have hdirectory : ready.pass.writer.directory = (settings.layoutAt project).generatedDirectory :=
      congrArg Layout.generatedDirectory hlayout
    have hextends : ready.pass.writer.template.extension = settings.layout.wrapperExtension :=
      congrArg Layout.wrapperExtension hlayout
    have hready : ready.Ready plan scripts
        (ready.tree.place (settings.descriptorsFor project descriptors)) :=
      { tasks := congrArg Layout.tasks hlayout
        catalog := hcatalog
        found := hfound
        discovers := hlayout ▸ hdiscovers
        wraps := fun script hscript =>
          WrapperWriter.wraps_of_isTypeName (hdiscovers.consistent script hscript)
            (hnames script hscript) (hextends ▸ hextension)
        wellFormed := hwell
        linkFree := hfree
        scripts_wrappers := by rw [hlayout, hdirectory]; exact hseparate.scripts_wrappers
        apart := by rw [hdirectory]; exact hseparate.wrappers_descriptors
        bypasses := fun hne => by
          rw [hdirectory]
          exact Settings.bypasses hfree hparent hproject hseparate.wrappers_descriptors hdiscovers hne
        spares := hcommand ▸ hspares }
    have hwent := (hready.generate hdistinct).andThen fun _ build =>
      ⟨build.catalog.plugins, [Build.event "Script plugins generated"], rfl⟩
    rw [← hrun.answer, ← hrun.state] at hwent
    refine .inr ⟨scripts, hdiscovers, ?_⟩
    rw [houtcome]
    exact hwent.andThen fun plugins build => ⟨_, _, rfl⟩

/-- **A failure before publishing leaves the descriptors alone.** If anything fails but the writing
of descriptors, be it that an id is no name, nothing has changed where they are kept: neither has
anything been made there, nor has anything gone. If configuring fails, nothing has changed at all. And
two scripts that share an id, or one whose id is no name, are enough for a run to fail so.

The wrappers are written away from the scripts and the descriptors, by a path that only leads down
from the project. If the scripts are found by an absolute path, the project itself may be missing.
The directories on its path are made too then, and if the path also leads up, none of those that are
missing may be where the descriptors are kept. -/
theorem descriptors_spared (settings : Settings) (project : Path) (descriptors : Option Path)
    (compiles : Bool) (programs : Programs) (tree : Tree) (hwell : tree.WellFormed)
    (hfree : tree.LinkFree) (hdistinct : settings.tasks.Distinct)
    (hextension : '/' ∉ settings.layout.wrapperExtension.toList)
    (hparent : Path.dotDot ∉ settings.layout.generatedDirectory.segments)
    (hproject : settings.layout.sourceRoot.isAbsolute = true →
      Path.dotDot ∉ project.segments ∨ tree.isDirectory project = true ∨
        tree.Bypasses (settings.layoutAt project).generatedDirectory
          (tree.place (settings.descriptorsFor project descriptors)))
    (hseparate : (settings.layoutAt project).Separate
      (settings.descriptorsFor project descriptors) tree)
    (hspares : compiles = true → Compiler.Spares settings.compiler.command programs
      (tree.place (settings.descriptorsFor project descriptors))) :
    let outcome := generate settings project descriptors compiles programs tree
    let published := tree.place (settings.descriptorsFor project descriptors)
    let publishing := "Task '" ++ settings.tasks.publish ++ "' failed"
    (∀ trouble, outcome.answer = .error trouble →
      (trouble.activity = some publishing → ∃ id, trouble.failure = .invalidId id) →
      Tree.Spared published tree outcome.state.tree) ∧
    (∀ failure, outcome.answer =
        .error (.during "Failed to configure script plugins" failure) →
      outcome.state.tree = tree) ∧
    ∀ scripts, (settings.layoutAt project).Discovers tree scripts →
      (∀ first second plugin other, [first, second].Sublist scripts →
        first.Means tree plugin → second.Means tree other → plugin.id = other.id →
        ∃ trouble, outcome.answer = .error trouble ∧ trouble.activity ≠ some publishing ∧
          Tree.Spared published tree outcome.state.tree) ∧
      ∀ script ∈ scripts, ∀ plugin, script.Means tree plugin →
        Catalog.isPublishable plugin.id = false →
        ∃ trouble, outcome.answer = .error trouble ∧
          Tree.Spared published tree outcome.state.tree := by
  intro outcome published publishing
  rcases generate_cases hwell hfree hdistinct hextension hparent hproject hseparate hspares with
    ⟨failure, hfails, htree⟩ | ⟨scripts, hdiscovers, hwent⟩
  · have hspared : Tree.Spared published tree outcome.state.tree := by
      rw [htree]
      exact .refl published tree
    refine ⟨fun _ _ _ => hspared, fun _ _ => htree, fun scripts _ => ⟨?_, ?_⟩⟩
    · intro first second plugin other _ _ _ _
      refine ⟨_, hfails, fun hsame => ?_, hspared⟩
      exact Build.activity_ne _ (Option.some.inj hsame).symm
    · exact fun _ _ _ _ _ => ⟨_, hfails, hspared⟩
  · refine ⟨?_, ?_, ?_⟩
    · intro trouble hfails hinvalid
      rw [hfails] at hwent
      exact hwent.spared_of_fails hinvalid
    · exact fun failure hfails => absurd hfails (hwent.ne_configuring failure)
    · intro others hothers
      obtain rfl := hdiscovers.unique hothers
      refine ⟨?_, ?_⟩
      · exact fun _ _ _ _ => hwent.stopped_of_same_id
      · exact fun _ hscript _ => hwent.fails_of_unpublishable hscript

/-- Two scripts of one name, and a descriptor from an earlier run. -/
def twinProject : Tree :=
  let home := Utf8.ofString "home"
  let source := Utf8.ofString "src"
  let descriptors := Utf8.ofString "meta"
  { entries := [([home], .directory), ([home, source], .directory),
      ([home, source, Utf8.ofString "a"], .directory),
      ([home, source, Utf8.ofString "a", Utf8.ofString "tool.gradle.kts"], .file []),
      ([home, source, Utf8.ofString "b"], .directory),
      ([home, source, Utf8.ofString "b", Utf8.ofString "tool.gradle.kts"], .file []),
      ([home, descriptors], .directory),
      ([home, descriptors, Utf8.ofString "tool.properties"],
        .file (Utf8.ofString "implementation-class=Earlier\n"))]
    home := [home] }

def twinSettings : Settings :=
  { nestedSettings with compiler := ⟨some "kotlinc", .ofString "meta"⟩ }

/-- A compiler that makes a directory for its classes. -/
def classCompiler : Programs := fun _ _ tree =>
  (.ok ⟨.code 0, []⟩, tree.put [Utf8.ofString "home", Utf8.ofString "classes"] .directory)

theorem spares_classCompiler : Compiler.Spares twinSettings.compiler.command classCompiler
    [Utf8.ofString "home", Utf8.ofString "meta"] := by
  intro name _ arguments tree inner hinner
  rw [classCompiler, Tree.get?_put tree (by decide), if_neg]
  rintro rfl
  exact absurd hinner (by decide)

/-- The wrapper of the two scripts is written, and then the second one cannot be registered. -/
theorem descriptors_spared_twins :
    let project := Path.ofString "."
    let published := twinSettings.descriptorsFor project none
    let outcome := generate twinSettings project none true classCompiler twinProject
    let home := Utf8.ofString "home"
    twinProject.WellFormed ∧ twinProject.LinkFree ∧ twinSettings.tasks.Distinct ∧
      '/' ∉ twinSettings.layout.wrapperExtension.toList ∧
      Path.dotDot ∉ twinSettings.layout.generatedDirectory.segments ∧
      twinSettings.layout.sourceRoot.isAbsolute = false ∧
      (twinSettings.layoutAt project).Separate published twinProject ∧
      Compiler.Spares twinSettings.compiler.command classCompiler (twinProject.place published) ∧
      outcome.answer = .error
        (.during "Task 'declareScriptPlugins' failed" (.duplicateId "tool" "Tool")) ∧
      (outcome.state.tree.get? [home, Utf8.ofString "out", Utf8.ofString "Tool.kt"]).isSome ∧
      outcome.state.tree.get? [home, Utf8.ofString "classes"] = some .directory ∧
      Tree.Spared [home, Utf8.ofString "meta"] twinProject outcome.state.tree := by
  intro project published outcome home
  have hwell : twinProject.WellFormed := by decide
  have hfree : twinProject.LinkFree := Tree.linkFree_of_entries (by decide)
  have hdistinct : twinSettings.tasks.Distinct := by decide
  have hextension : '/' ∉ twinSettings.layout.wrapperExtension.toList := by decide
  have hparent : Path.dotDot ∉ twinSettings.layout.generatedDirectory.segments := by decide
  have hrelative : twinSettings.layout.sourceRoot.isAbsolute = false := by decide
  have hseparate : (twinSettings.layoutAt project).Separate published twinProject :=
    ⟨by decide, by decide, by decide⟩
  have hplace : twinProject.place published = [home, Utf8.ofString "meta"] := by decide
  have hspares : Compiler.Spares twinSettings.compiler.command classCompiler
      (twinProject.place published) := hplace ▸ spares_classCompiler
  have hanswer : outcome.answer = .error
      (.during "Task 'declareScriptPlugins' failed" (.duplicateId "tool" "Tool")) := by
    decide +kernel
  let first := (twinSettings.layoutAt project).scriptAt (.ofString "./src/a/tool.gradle.kts")
  let second := (twinSettings.layoutAt project).scriptAt (.ofString "./src/b/tool.gradle.kts")
  have hdiscovers : (twinSettings.layoutAt project).Discovers twinProject [first, second] :=
    ⟨[.ofString "./src/a/tool.gradle.kts", .ofString "./src/b/tool.gradle.kts"],
      by decide +kernel, rfl⟩
  have hfirst : first.Means twinProject ⟨"tool", "Tool"⟩ :=
    ⟨none, by decide +kernel, by decide +kernel⟩
  have hsecond : second.Means twinProject ⟨"tool", "Tool"⟩ :=
    ⟨none, by decide +kernel, by decide +kernel⟩
  obtain ⟨-, -, hscripts⟩ := descriptors_spared twinSettings project none true classCompiler
    twinProject hwell hfree hdistinct hextension hparent
    (fun habsolute => absurd (hrelative.symm.trans habsolute) Bool.false_ne_true) hseparate
    (fun _ => hspares)
  obtain ⟨trouble, -, -, hspared⟩ := (hscripts _ hdiscovers).1 first second _ _ (.refl _) hfirst
    hsecond rfl
  rw [hplace] at hspared
  exact ⟨hwell, hfree, hdistinct, hextension, hparent, hrelative, hseparate, hspares, hanswer,
    by decide +kernel, by decide +kernel, hspared⟩

/-- Two scripts of one name, away from a project that is empty. -/
def remoteProject : Tree :=
  let home := Utf8.ofString "home"
  let scripts := [Utf8.ofString "tmp", Utf8.ofString "scripts"]
  let file := Utf8.ofString "tool.gradle.kts"
  { entries := [([home], .directory), ([Utf8.ofString "tmp"], .directory), (scripts, .directory),
      (scripts ++ [Utf8.ofString "a"], .directory), (scripts ++ [Utf8.ofString "a", file], .file []),
      (scripts ++ [Utf8.ofString "b"], .directory), (scripts ++ [Utf8.ofString "b", file], .file [])]
    home := [home] }

def remoteSettings : Settings :=
  { Settings.default with
    layout := { LayoutSettings.default with sourceRoot := .ofString "/tmp/scripts" } }

/-- A run that cannot register a plugin leaves a directory for descriptors that was not there. The
path of the project leads through this directory and out of it again, and with the directory of the
wrappers every directory on its path is made. -/
theorem generate_makes_descriptors :
    let project := Path.ofString "gone/.."
    let given := Path.ofString "gone"
    let published := remoteSettings.descriptorsFor project (some given)
    let outcome := generate remoteSettings project (some given) false silentCompiler remoteProject
    let place := [Utf8.ofString "home", Utf8.ofString "gone"]
    remoteProject.WellFormed ∧ remoteProject.LinkFree ∧ remoteSettings.tasks.Distinct ∧
      '/' ∉ remoteSettings.layout.wrapperExtension.toList ∧
      (∀ path ∈ [remoteSettings.layout.sourceRoot, remoteSettings.layout.generatedDirectory, given],
        Path.dotDot ∉ path.segments) ∧
      (remoteSettings.layoutAt project).Separate published remoteProject ∧
      remoteProject.place published = place ∧
      outcome.answer = .error
        (.during "Task 'declareScriptPlugins' failed" (.duplicateId "tool" "Tool")) ∧
      remoteProject.get? place = none ∧ outcome.state.tree.get? place = some .directory := by
  intro project given published outcome place
  refine ⟨by decide, Tree.linkFree_of_entries (by decide), by decide, by decide, by decide,
    ⟨by decide, by decide, by decide⟩, by decide, ?_, by decide, ?_⟩
  · decide +kernel
  · decide +kernel

end Command

end ScriptPlugins
