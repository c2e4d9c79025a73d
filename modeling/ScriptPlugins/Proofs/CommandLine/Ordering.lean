import ScriptPlugins.Proofs.CommandLine.Trace
import ScriptPlugins.Proofs.CommandLine.Generate

/-!
# The order of calls

Compiling needs the wrappers and publishing needs what has been declared. Wiring puts each task right
before the one that needs it, and a task that stands right before another in an order without
repetition has been run to its end when the other begins.

All of this hangs on the names. The settings may give one name to several tasks, and the first role
that a name has is the only one it is ever run in. Compiling may go by the name of a task of the pass:
then nothing is compiled, but the rest goes well. If publishing has to share its name, or generating
and declaring are one task, then a call is left out, and the wrappers may come too late.
-/

namespace ScriptPlugins

open Text

/-- In an order without repetition, what stands right before a task comes last of all before it. -/
theorem eq_append_of_pair {first second : String} {before rest : List String}
    (hnodup : (before ++ second :: rest).Nodup)
    (hpair : [first, second] <:+: before ++ second :: rest) :
    ∃ front, before = front ++ [first] := by
  obtain ⟨front, back, heq⟩ := hpair
  have hsplit : (front ++ [first]) ++ second :: back = before ++ second :: rest := by
    rw [← heq]
    simp
  rw [← hsplit] at hnodup
  have hnotMem := (List.nodup_cons.1 (List.nodup_middle.1 hnodup)).1
  rw [List.mem_append, not_or] at hnotMem
  obtain ⟨hbefore, -, -⟩ := (List.append_cons_inj_of_notMem hnotMem.1 hnotMem.2).1 hsplit
  exact ⟨front, hbefore.symm⟩

namespace Build

variable {build middle last : Build} {own : TaskNames} {plan : Plan} {task : String}
  {tasks : List String} {call : Call} {done : Unit} {front back : List (Call × Build)}

/-- A call is among those of a run, and it has had its effect. -/
def Completed (plan : Plan) (call : Call) (calls : List (Call × Build)) : Prop :=
  ∃ build after, (call, build) ∈ calls ∧ Effect plan build call after

theorem Follows.completed {items : List (Call × Build)} (h : Follows plan build items (.ok ()) last)
    (hmem : call ∈ items.map Prod.fst) : Completed plan call items := by
  obtain ⟨⟨_, found⟩, hfound, rfl⟩ := List.mem_map.1 hmem
  obtain ⟨after, heffect⟩ := h.exists_effect rfl _ hfound
  exact ⟨found, after, hfound, heffect⟩

theorem completed_of_yields (h : Underway own build) (htask : task ∈ tasks)
    (hcall : callOf own plan task = some call)
    (hrun : (runTasks plan tasks build).Yields done last) :
    Completed plan call (calls plan tasks build) := by
  apply (follows_of_yields hrun).completed
  rw [calls_of_yields h hrun]
  exact List.mem_filterMap.2 ⟨task, htask, hcall⟩

/-- Before compiling, all wrappers have been written, and they are all there. -/
theorem generated_before_compile (h : Underway own build) (hplaced : Pass.Placed own tasks)
    (hplan : plan.tasks = own)
    (hcalls : calls plan tasks build = front ++ (.compile, middle) :: back) :
    Completed plan .generate front ∧
      ∃ wrappers, (middle.pass.wrapperPaths middle.tree).answer = .ok wrappers ∧
        ∀ wrapper ∈ wrappers, middle.tree.exists wrapper = true := by
  obtain ⟨before, task, rest, rfl, hcall, hrun, rfl⟩ := calls_eq_append h hcalls
  obtain ⟨rfl, hgenerate, hdeclare, -⟩ := callOf_eq_compile_iff.1 hcall
  rw [hplan] at hgenerate hdeclare hplaced
  obtain ⟨left, rfl⟩ :=
    eq_append_of_pair hplaced.nodup (hplaced.compile hgenerate hdeclare)
  have hown : callOf own plan own.generate = some .generate := callOf_eq_generate_iff.2 rfl
  refine ⟨completed_of_yields h (by simp) hown hrun, ?_⟩
  -- generating is the last thing that has happened
  obtain ⟨earlier, hearlier, hlast⟩ := runTasks_append_yields_iff.1 hrun
  obtain ⟨after, hstep, hnil⟩ := runTasks_cons_yields_iff.1 hlast
  obtain rfl : after = middle := hnil.state
  have hunderway := h.runTasks hearlier
  obtain ⟨scripts, hscripts⟩ := hunderway.found
  rw [← hunderway.names] at hstep hown
  obtain ⟨paths, later, tree, hgenerated, rfl⟩ :=
    perform_generate_yields (perform_of_runTask hown hstep)
  exact Pass.exists_wrappers_of_generate hunderway.sound hscripts hgenerated

/-- Before publishing, all plugins have been declared. -/
theorem declared_before_publish (h : Underway own build) (hplaced : Pass.Placed own tasks)
    (hplan : plan.tasks = own) (hne : own.declare ≠ own.generate)
    (hcalls : calls plan tasks build = front ++ (.publish, middle) :: back) :
    Completed plan .declare front := by
  obtain ⟨before, task, rest, rfl, hcall, hrun, rfl⟩ := calls_eq_append h hcalls
  obtain ⟨rfl, -⟩ := callOf_eq_publish_iff.1 hcall
  rw [hplan] at hplaced
  obtain ⟨left, rfl⟩ := eq_append_of_pair hplaced.nodup hplaced.publish
  exact completed_of_yields h (by simp) (callOf_eq_declare_iff.2 ⟨rfl, hne⟩) hrun

theorem count_calls (h : Underway own build) (hrun : (runTasks plan tasks build).Yields done last)
    (call : Call) : ((calls plan tasks build).map Prod.fst).count call =
      tasks.countP (callOf own plan · == some call) := by
  rw [calls_of_yields h hrun, List.count_filterMap]

/-- A call that one task comes to, and no other, is made once. -/
theorem count_calls_eq_one (h : Underway own build)
    (hrun : (runTasks plan tasks build).Yields done last) (hnodup : tasks.Nodup)
    (htask : task ∈ tasks) (hcall : ∀ name, callOf own plan name = some call ↔ name = task) :
    ((calls plan tasks build).map Prod.fst).count call = 1 := by
  have hsame : (callOf own plan · == some call) = (· == task) := by
    funext name
    rw [Bool.eq_iff_iff, beq_iff_eq, beq_iff_eq]
    exact hcall name
  rw [count_calls h hrun, hsame]
  exact List.count_eq_one_of_mem hnodup htask

/-- A call that no task comes to is never made. -/
theorem count_calls_eq_zero (h : Underway own build)
    (hrun : (runTasks plan tasks build).Yields done last)
    (hcall : ∀ name, callOf own plan name ≠ some call) :
    ((calls plan tasks build).map Prod.fst).count call = 0 := by
  rw [count_calls h hrun, List.countP_eq_zero]
  intro name _
  rw [beq_iff_eq]
  exact hcall name

/-- A run that succeeds does everything once if the names are orderly, and only then. -/
theorem once_iff_orderly (h : Underway own build) (hplan : plan.tasks = own)
    (hplaced : own.Orderly → Pass.Placed own tasks)
    (hrun : (runTasks plan tasks build).Yields done last) :
    (∀ call ∈ [Call.generate, .declare, .publish],
      ((calls plan tasks build).map Prod.fst).count call = 1) ↔ own.Orderly := by
  constructor
  · intro honce
    have hmade : ∀ call ∈ [Call.generate, .declare, .publish],
        ∃ name, callOf own plan name = some call := by
      intro call hcall
      by_contra hnever
      have hzero := count_calls_eq_zero h hrun (not_exists.1 hnever)
      rw [honce call hcall] at hzero
      cases hzero
    obtain ⟨name, hdeclare⟩ := hmade .declare (by simp)
    obtain ⟨other, hpublish⟩ := hmade .publish (by simp)
    obtain ⟨rfl, hgd⟩ := callOf_eq_declare_iff.1 hdeclare
    obtain ⟨rfl, hpg, hpd, hpc⟩ := callOf_eq_publish_iff.1 hpublish
    rw [hplan] at hpg hpd hpc
    exact ⟨Ne.symm hgd, hpg, hpd, hpc⟩
  · intro horderly call hcall
    have hplaced := hplaced horderly
    obtain ⟨hgd, hpg, hpd, hpc⟩ := horderly
    rw [List.mem_cons, List.mem_pair] at hcall
    rcases hcall with rfl | rfl | rfl
    · exact count_calls_eq_one h hrun hplaced.nodup hplaced.generate fun name =>
        callOf_eq_generate_iff
    · have hmem : own.declare ∈ tasks := hplaced.publish.subset (by simp)
      refine count_calls_eq_one h hrun hplaced.nodup hmem fun name => ?_
      rw [callOf_eq_declare_iff, and_iff_left_iff_imp]
      rintro rfl
      exact Ne.symm hgd
    · have hmem : own.publish ∈ tasks := hplaced.publish.subset (by simp)
      refine count_calls_eq_one h hrun hplaced.nodup hmem fun name => ?_
      rw [callOf_eq_publish_iff, hplan, and_iff_left_iff_imp]
      rintro rfl
      exact ⟨hpg, hpd, hpc⟩

variable {settings : Settings} {project : Path} {command : Option String} {tree : Tree}
  {ready : Build} {arguments : CompilerArguments}

theorem runCalls_of_yields (h : build.arguments.Yields arguments ready) :
    build.runCalls plan = calls plan ready.schedule.order ready := by
  rw [runCalls, h.answer, h.state]

theorem runCalls_of_fails {failure : Failure} (h : build.arguments.answer = .error failure) :
    build.runCalls plan = [] := by
  rw [runCalls, h]

theorem sound_configure (h : build.pass.Sound) : build.configure.state.pass.Sound :=
  h.configure build.schedule build.compiler build.tree

theorem sound_finalize (h : build.pass.Sound) : build.finalize.state.pass.Sound :=
  h.finalize build.compiler

/-- What follows configuring and finalizing is the calls, and then what there is to say. -/
theorem follows_run {α : Type} {next : List Plugin → Build → Outcome Build Trouble α}
    (h : build.arguments.Yields arguments ready)
    (hnext : ∀ plugins build, ∃ a events, next plugins build = .ok a build events) :
    Follows plan ready (calls plan ready.schedule.order ready)
      ((((build.run plan).andThen next).answer.map fun _ => ()).mapError Trouble.failure)
      ((build.run plan).andThen next).state := by
  obtain ⟨hanswer, hstate⟩ := @Outcome.andThen_said _ _ _ _ (build.run plan) next hnext
  obtain ⟨hrun, hend⟩ := @run_agrees _ plan _ _ h
  obtain ⟨hsame, hlast⟩ := @Outcome.andThen_said _ _ _ _
    (runTasks plan ready.schedule.order ready)
    (fun _ build => .ok build.catalog.plugins build [event "Script plugins generated"])
    fun _ build => ⟨build.catalog.plugins, _, rfl⟩
  rw [hanswer, hstate, hrun, hend, hsame, hlast]
  have hfollows := follows_calls plan ready.schedule.order ready
  cases hend : (runTasks plan ready.schedule.order ready).answer with
  | error trouble => rwa [hend] at hfollows
  | ok done => rwa [hend] at hfollows

/-- A build that is ready to run has found its scripts and is wired. -/
theorem underway_of_arguments
    (h : (new settings project command tree).arguments.Yields arguments ready) :
    Underway settings.tasks ready ∧
      (settings.tasks.Orderly → Pass.Placed settings.tasks ready.schedule.order) := by
  obtain ⟨_, configured, hconfigure, hfinalize⟩ := Outcome.yields_andThen_iff.1 h
  have hnew : (new settings project command tree).pass.Reached := .new ..
  have hconfigured := sound_configure hnew.sound
  rw [hconfigure.state] at hconfigured
  have hsound := sound_finalize hconfigured
  rw [hfinalize.state] at hsound
  obtain ⟨⟨pass, schedule, compiler⟩, hpass, rfl⟩ := Outcome.yields_onState_iff.1 hconfigure
  obtain ⟨-, scripts, hfind, hobjection, hstate⟩ := Pass.configure_yields_iff.1 hpass
  obtain ⟨rfl, rfl, rfl⟩ := hstate
  obtain ⟨hlayout, hscripts, hschedule, -⟩ := finalize_yields hfinalize
  obtain ⟨-, hcompile, hpublish⟩ := Pass.objection?_eq_none_iff.1 hobjection
  have hnames : ready.pass.layout.tasks = settings.tasks := by
    rw [hlayout, Pass.layout_find]
    rfl
  refine ⟨⟨hnames, hsound, scripts, hscripts.trans (Pass.scripts_find hfind)⟩, ?_⟩
  intro horderly
  have hnodup := (Schedule.reached_ofTasks [settings.tasks.compile, settings.tasks.publish]).nodup
  rw [hschedule]
  exact Pass.placed_of_wire horderly hnodup
    (Outcome.yields_of_answer (Pass.answer_wire _ _ hcompile hpublish))

/-- A call is made only by a build that is ready to run. -/
theorem exists_underway_of_runCalls
    (h : (new settings project command tree).runCalls plan = front ++ (call, middle) :: back) :
    ∃ ready, Underway settings.tasks ready ∧
      (settings.tasks.Orderly → Pass.Placed settings.tasks ready.schedule.order) ∧
      calls plan ready.schedule.order ready = front ++ (call, middle) :: back := by
  cases hanswer : (new settings project command tree).arguments.answer with
  | error failure =>
      rw [runCalls_of_fails hanswer] at h
      simp at h
  | ok arguments =>
      have hready := Outcome.yields_of_answer hanswer
      obtain ⟨hunderway, hplaced⟩ := underway_of_arguments hready
      rw [runCalls_of_yields hready] at h
      exact ⟨_, hunderway, hplaced, h⟩

end Build

/-- What is settled before the command runs. -/
def Settings.planFor (settings : Settings) (project : Path) (descriptors : Option Path)
    (compiles : Bool) (programs : Programs) : Build.Plan :=
  { tasks := settings.tasks
    compiles
    programs
    descriptors := settings.descriptorsFor project descriptors }

namespace Command

/-- The calls of a run of the command, each with the build that it meets. -/
def generateCalls (settings : Settings) (project : Path) (descriptors : Option Path)
    (compiles : Bool) (programs : Programs) (tree : Tree) : List (Call × Build) :=
  (Build.new settings project settings.compiler.command tree).runCalls
    (settings.planFor project descriptors compiles programs)

theorem generate_eq (settings : Settings) (project : Path) (descriptors : Option Path)
    (compiles : Bool) (programs : Programs) (tree : Tree) :
    generate settings project descriptors compiles programs tree =
      ((Build.new settings project settings.compiler.command tree).run
        (settings.planFor project descriptors compiles programs)).andThen
          fun plugins build => .ok (summary (settings.layoutAt project) plugins) build [] := by
  cases descriptors <;> rfl

/-- With orderly names the compiler never runs before all wrappers are there, nothing is published
before all plugins are declared, and a run that succeeds generates, declares and publishes once. The
calls of which this is said are the run: it leads from the configured build by these calls, each with
its effect, to whatever is left at the end, and it fails as the last of them does. -/
theorem generate_in_order (settings : Settings) (project : Path) (descriptors : Option Path)
    (compiles : Bool) (programs : Programs) (tree : Tree) (horderly : settings.tasks.Orderly) :
    let plan := settings.planFor project descriptors compiles programs
    let start := (Build.new settings project settings.compiler.command tree).arguments
    let run := generate settings project descriptors compiles programs tree
    let calls := generateCalls settings project descriptors compiles programs tree
    (∀ front middle back, calls = front ++ (.compile, middle) :: back →
      Build.Completed plan .generate front ∧
        ∃ wrappers, (middle.pass.wrapperPaths middle.tree).answer = .ok wrappers ∧
          ∀ wrapper ∈ wrappers, middle.tree.exists wrapper = true) ∧
    (∀ front middle back, calls = front ++ (.publish, middle) :: back →
      Build.Completed plan .declare front) ∧
    (∀ failure, start.answer = .error failure →
      calls = [] ∧ ∃ trouble, run.Fails trouble start.state) ∧
    (∀ arguments ready, start.Yields arguments ready →
      Build.Follows plan ready calls ((run.answer.map fun _ => ()).mapError Trouble.failure)
        run.state) ∧
    ∀ output, run.answer = .ok output →
      (∃ arguments ready, start.Yields arguments ready ∧
        Build.Follows plan ready calls (.ok ()) run.state) ∧
      ∀ call ∈ [Call.generate, .declare, .publish],
        (calls.map Prod.fst).count call = 1 ∧ Build.Completed plan call calls := by
  intro plan start run calls
  have hrun : run = _ := generate_eq settings project descriptors compiles programs tree
  have hfollows : ∀ arguments ready, start.Yields arguments ready →
      Build.Follows plan ready calls ((run.answer.map fun _ => ()).mapError Trouble.failure)
        run.state := by
    intro arguments ready hready
    have hsame : calls = _ := Build.runCalls_of_yields hready
    rw [hsame, hrun]
    exact Build.follows_run hready fun plugins build => ⟨_, [], rfl⟩
  refine ⟨?_, ?_, ?_, hfollows, ?_⟩
  · intro front middle back hcalls
    obtain ⟨ready, hunderway, hplaced, hready⟩ := Build.exists_underway_of_runCalls hcalls
    exact Build.generated_before_compile hunderway (hplaced horderly) rfl hready
  · intro front middle back hcalls
    obtain ⟨ready, hunderway, hplaced, hready⟩ := Build.exists_underway_of_runCalls hcalls
    exact Build.declared_before_publish hunderway (hplaced horderly) rfl (Ne.symm horderly.1) hready
  · intro failure hfailure
    obtain ⟨trouble, hfails⟩ := @Build.run_fails _ plan failure hfailure
    refine ⟨Build.runCalls_of_fails hfailure, trouble, ?_⟩
    rw [hrun]
    exact hfails.andThen _
  · intro output houtput
    have hyields := Outcome.yields_of_answer houtput
    rw [hrun] at hyields
    obtain ⟨plugins, after, hyields, -⟩ := Outcome.yields_andThen_iff.1 hyields
    obtain ⟨arguments, ready, hready, htasks, -⟩ := Build.run_yields hyields
    obtain ⟨hunderway, hplaced⟩ := Build.underway_of_arguments hready
    have hall := hfollows arguments ready hready
    rw [houtput] at hall
    refine ⟨⟨arguments, ready, hready, hall⟩, fun call hcall => ?_⟩
    have hsame : calls = _ := Build.runCalls_of_yields hready
    have hcount := (Build.once_iff_orderly hunderway rfl hplaced htasks).2 horderly call hcall
    rw [← hsame] at hcount
    have hmade : 0 < (calls.map Prod.fst).count call := by omega
    exact ⟨hcount, hall.completed (List.count_pos_iff.1 hmade)⟩

/-- A compiler that changes nothing and never complains. -/
def silentCompiler : Programs :=
  fun _ _ tree => (.ok ⟨.code 0, []⟩, tree)

def settingsWith (tasks : TaskNames) : Settings :=
  { nestedSettings with tasks }

/-- The calls of a run over a small project. -/
def nestedCalls (tasks : TaskNames) : List (Call × Build) :=
  generateCalls (settingsWith tasks) (.ofString ".") none true silentCompiler nestedProject

theorem generate_in_order_nested :
    let plan := (settingsWith .default).planFor (.ofString ".") none true silentCompiler
    let run := generate (settingsWith .default) (.ofString ".") none true silentCompiler nestedProject
    (settingsWith .default).tasks.Orderly ∧
      run.answer = .ok ("Generated 2 script plugin(s) into ./out\n" ++
        "  org.acme.my-plugin -> MyPlugin\n  tool -> Tool\n") ∧
      (nestedCalls .default).map Prod.fst = [.generate, .compile, .declare, .publish] ∧
      (∃ front middle back, nestedCalls .default = front ++ (.compile, middle) :: back ∧
        Build.Completed plan .generate front ∧
        ∃ wrappers, (middle.pass.wrapperPaths middle.tree).answer = .ok wrappers ∧
          ∀ wrapper ∈ wrappers, middle.tree.exists wrapper = true) ∧
      (∃ ready, Build.Follows plan ready (nestedCalls .default) (.ok ()) run.state) ∧
      Build.Completed plan .publish (nestedCalls .default) := by
  intro plan run
  have horderly : (settingsWith .default).tasks.Orderly := by decide
  have hanswer : run.answer = .ok ("Generated 2 script plugin(s) into ./out\n" ++
      "  org.acme.my-plugin -> MyPlugin\n  tool -> Tool\n") := by
    decide +kernel
  have hcalls : (nestedCalls .default).map Prod.fst = [.generate, .compile, .declare, .publish] := by
    decide +kernel
  obtain ⟨hcompile, -, -, -, hsucceeds⟩ := generate_in_order (settingsWith .default) (.ofString ".")
    none true silentCompiler nestedProject horderly
  obtain ⟨⟨arguments, ready, -, hfollows⟩, hmade⟩ := hsucceeds _ hanswer
  refine ⟨horderly, hanswer, hcalls, ?_, ⟨ready, hfollows⟩, (hmade .publish (by simp)).2⟩
  have hmem : Call.compile ∈ (nestedCalls .default).map Prod.fst := by
    rw [hcalls]
    decide
  obtain ⟨⟨_, middle⟩, hfound, rfl⟩ := List.mem_map.1 hmem
  obtain ⟨front, back, hsplit⟩ := List.append_of_mem hfound
  exact ⟨front, middle, back, hsplit, hcompile front middle back hsplit⟩

/-- Settings are accepted by which a run succeeds and nothing is published, so that not even the
directory for it is made, and others by which the compiler runs before a wrapper has been written. -/
theorem validate_accepts_disorder :
    let declares : TaskNames := { TaskNames.default with declare := "pluginDescriptors" }
    let generates : TaskNames :=
      { TaskNames.default with declare := "generateScriptPluginAdapters" }
    let run := generate (settingsWith declares) (.ofString ".") none true silentCompiler nestedProject
    (settingsWith declares).validate = .ok () ∧
      run.answer = .ok ("Generated 2 script plugin(s) into ./out\n" ++
        "  org.acme.my-plugin -> MyPlugin\n  tool -> Tool\n") ∧
      (nestedCalls declares).map Prod.fst = [.generate, .compile, .declare] ∧
      run.state.tree.get? [Utf8.ofString "home", Utf8.ofString "meta"] = none ∧
      (settingsWith generates).validate = .ok () ∧
      (nestedCalls generates).map Prod.fst = [.compile, .generate, .publish] := by
  decide +kernel

end Command

end ScriptPlugins
