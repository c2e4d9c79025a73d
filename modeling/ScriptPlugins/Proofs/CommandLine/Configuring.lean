import ScriptPlugins.CommandLine.Build
import ScriptPlugins.Proofs.Plugins.Configuring

/-!
# Configuring a build

A build whose pass does not let itself be configured is the build that it was, but for what the pass
has seen of the project. So it can be completed and configured again, and nothing shows that the
first attempt was made.
-/

namespace ScriptPlugins.Build

open Text

variable {build : Build} {failure : Failure} {scripts : List Script} {anchor : String}

theorem state_configure {pass : Pass} {schedule : Schedule} {compiler : Compiler}
    (h : (build.pass.configure build.schedule build.compiler build.tree).state =
      (pass, schedule, compiler)) :
    build.configure.state = { build with pass, schedule, compiler } := by
  rw [configure, Outcome.state_onState, h]

/-- **Configuring is all or nothing.** A build that is refused is as it was, but for the scripts that
its pass has found and the number of its searches. Neither of the two insertions can be what fails,
since both anchors have been seen before. And if a missing anchor was all that was wrong, then in any
schedule with both anchors the build takes its place as if a new pass over the same scripts did. -/
theorem configure_all_or_nothing (build : Build) (hpass : build.pass.Reached) :
    let tasks := build.pass.layout.tasks
    let outcome := build.configure
    (∀ failure, outcome.answer = .error failure →
      Pass.Refused build.pass build.schedule build.tree failure ∧
      ∃ scripts searches,
        outcome.state = { build with pass := { build.pass with scripts, searches } }) ∧
    (∀ inputs schedule, tasks.compile ∈ schedule.order → tasks.publish ∈ schedule.order →
      (Pass.wire build.pass.layout inputs schedule).answer = .ok ()) ∧
    ∀ anchor scripts, outcome.answer = .error (.unknownTask anchor) →
      (build.pass.find build.tree).answer = .ok scripts →
      ∀ (schedule : Schedule) (tree : Tree) (host : Host) (source : ScriptSource),
        tasks.compile ∈ schedule.order → tasks.publish ∈ schedule.order →
        (source 0 build.pass.layout.sourceRoot build.pass.layout.scriptPattern tree).1 =
          .ok (scripts.map Script.path) →
        let retried := { outcome.state with schedule, tree }.configure
        let fresh := { build with
          pass := .new build.pass.layout host source, schedule, tree }.configure
        retried.answer = .ok () ∧ fresh.answer = .ok () ∧
          retried.state.schedule = fresh.state.schedule ∧
          retried.state.compiler = fresh.state.compiler := by
  intro tasks outcome
  refine ⟨?_, ?_, ?_⟩
  · intro failure hanswer
    obtain ⟨hrefused, scripts, searches, hstate⟩ := Pass.refused_of_configure hanswer
    exact ⟨hrefused, scripts, searches, state_configure hstate⟩
  · intro inputs schedule hcompile hpublish
    exact Pass.answer_wire build.pass.layout inputs hcompile hpublish
  · intro anchor scripts hanswer hfind schedule tree host source hcompile hpublish hsource
    obtain ⟨hphase, hnames, hstate⟩ := Pass.configure_of_missing hanswer hfind
    have hlayout := Pass.layout_find build.pass build.tree
    have hsame : outcome.state = { build with pass := (build.pass.find build.tree).state } :=
      state_configure hstate
    rw [hsame]
    obtain ⟨hretried, hfresh, hafter⟩ := @Pass.configure_again (build.pass.find build.tree).state
      schedule build.compiler tree scripts (hpass.find build.tree).sound
      ((Pass.phase_find build.pass build.tree).trans hphase) (Pass.scripts_find hfind) hnames host
      source (by rwa [hlayout]) (by rwa [hlayout]) (by rwa [hlayout])
    rw [hlayout] at hfresh hafter
    exact ⟨hretried, hfresh, congrArg Prod.fst hafter, congrArg Prod.snd hafter⟩

/-- One script, and a layout that lets the task of publishing write the wrappers. -/
def onePath : ScriptSource :=
  fun _ _ _ _ => (.ok [.ofString "tool.gradle.kts"], [])

def sharedLayout : Layout :=
  { Layout.default with tasks := ⟨"publish", "check", "compile", "publish"⟩ }

/-- A build without a task for publishing. -/
def unpublished : Build :=
  { pass := .new sharedLayout (.ofImports []) onePath
    schedule := .ofTasks ["compile"]
    compiler := .new none
    catalog := .empty
    tree := .empty }

/-- The same build with that task. -/
def completed : Build :=
  { unpublished with schedule := unpublished.schedule.push "publish" }

theorem configure_all_or_nothing_unpublished :
    let outcome := unpublished.configure
    let retried :=
      { outcome.state with schedule := completed.schedule, tree := completed.tree }.configure
    unpublished.pass.Reached ∧ outcome.answer = .error (.unknownTask "publish") ∧
      outcome.state.schedule = unpublished.schedule ∧ retried.answer = .ok () ∧
      retried.state.schedule = completed.configure.state.schedule ∧
      retried.state.compiler = completed.configure.state.compiler ∧
      completed.configure.state.schedule.order = ["check", "publish", "compile"] := by
  intro outcome retried
  have hpass : unpublished.pass.Reached := .new ..
  have hanswer : outcome.answer = .error (.unknownTask "publish") := by decide +kernel
  obtain ⟨hrefused, -, hagain⟩ := configure_all_or_nothing unpublished hpass
  obtain ⟨-, scripts, searches, hstate⟩ := hrefused _ hanswer
  have hkept : outcome.state.schedule = unpublished.schedule := by
    rw [hstate]
  obtain ⟨hretried, -, hschedule, hcompiler⟩ := hagain "publish" _ hanswer rfl completed.schedule
    completed.tree (.ofImports []) onePath (by decide +kernel) (by decide +kernel) rfl
  exact ⟨hpass, hanswer, hkept, hretried, hschedule, hcompiler, by decide +kernel⟩

end ScriptPlugins.Build
