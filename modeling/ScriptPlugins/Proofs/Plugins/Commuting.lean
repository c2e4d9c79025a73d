import Mathlib.Data.List.Infix
import ScriptPlugins.Proofs.Files.Detached
import ScriptPlugins.Proofs.Plugins.Noting
import ScriptPlugins.Proofs.Plugins.Sparing

/-!
# Generating and declaring in either order

Generating writes files and has no use for the catalog. Declaring fills the catalog and writes
nothing. They share two things: both read the scripts, and both let the scripts remember what was
asked of them. What one of them asks for does not change what the other gets, so a script ends up with
the same memory in either order. And since what generating does to the files cannot reach the scripts,
both orders read the same texts, wherever each of the two stops.
-/

namespace ScriptPlugins

open Text

/-- Two actions on one thing, each with a state of its own, do and answer the same in either order. -/
structure Commutes {ι σ τ α β : Type} (first : ι → σ → Outcome (ι × σ) Failure α)
    (second : ι → τ → Outcome (ι × τ) Failure β) (start : ι) (left : σ) (right : τ) : Prop where
  firstAnswer : (first (second start right).state.1 left).answer = (first start left).answer
  firstState : (first (second start right).state.1 left).state.2 = (first start left).state.2
  secondAnswer : (second (first start left).state.1 right).answer = (second start right).answer
  secondState : (second (first start left).state.1 right).state.2 = (second start right).state.2
  meet : (first (second start right).state.1 left).state.1 =
    (second (first start left).state.1 right).state.1

namespace Script

variable {σ τ α β : Type} {act first : Script → σ → Outcome (Script × σ) Failure α}
  {second : Script → τ → Outcome (Script × τ) Failure β} {scripts : List Script}

theorem each_congr {other : Script → σ → Outcome (Script × σ) Failure α}
    (h : ∀ script ∈ scripts, act script = other script) (state : σ) :
    each act scripts state = each other scripts state := by
  induction scripts generalizing state with
  | nil => rfl
  | cons script rest ih =>
      have hrest := ih fun later hlater => h later (List.mem_cons_of_mem _ hlater)
      simp only [each, h script List.mem_cons_self, hrest]

/-- Going through the scripts with one action and then with the other comes to the same, wherever
each of them stops, if the actions commute on every script. -/
theorem each_commutes {P : σ → Prop} {left : σ} (hleft : P left)
    (hkeeps : ∀ script ∈ scripts, ∀ left, P left → P (first script left).state.2)
    (h : ∀ script ∈ scripts, ∀ left right, P left → Commutes first second script left right)
    (right : τ) : Commutes (each first) (each second) scripts left right := by
  induction scripts generalizing left right with
  | nil => exact ⟨rfl, rfl, rfl, rfl, rfl⟩
  | cons script rest ih =>
      have hscript := h script List.mem_cons_self left right hleft
      have hrest := ih (hkeeps script List.mem_cons_self left hleft)
        (fun other hother => hkeeps other (List.mem_cons_of_mem _ hother))
        (fun other hother => h other (List.mem_cons_of_mem _ hother)) (second script right).state.2
      obtain ⟨hfirstAnswer, hfirstState, hsecondAnswer, hsecondState, hmeet⟩ := hscript
      -- each action stops at this script or goes on to the rest, where the other has gone on or not
      cases hfirst : (first script left).answer <;> cases hsecond : (second script right).answer <;>
        constructor <;>
        simp [each, hfirst, hsecond, hfirstAnswer, hfirstState, hsecondAnswer, hsecondState, hmeet,
          hrest.firstAnswer, hrest.firstState, hrest.secondAnswer, hrest.secondState, hrest.meet]

end Script

namespace Pass

variable {pass : Pass} {writer : WrapperWriter} {script : Script} {scripts : List Script}
  {tree before after : Tree}

/-- Neither action has a use for what the other lets the script remember. -/
theorem commutes_script (hscript : script.Consistent) (h : script.load after = script.load before)
    (catalog : Catalog) :
    Commutes (writeWrapper writer) (declareScript before) script after catalog := by
  cases hspace : script.spaceIn before with
  | error failure =>
      have hspace' := (Script.spaceIn_congr_load h).trans hspace
      have hwrite := writer.writeWrapper_of_spaceIn_eq_error hscript hspace'
      have hdeclare : declareScript before script catalog =
          .error failure (script, catalog) [] := by
        rw [declareScript, hscript.plugin_eq_error hspace]
      constructor <;> simp only [hwrite, hdeclare, Outcome.state_error]
  | ok space =>
      have hspace' := (Script.spaceIn_congr_load h).trans hspace
      obtain ⟨hwrapper, hwrite, hwritten⟩ := writer.writeWrapper_notes hscript hspace'
      obtain ⟨hdeclare, hdeclared⟩ := declareScript_notes hscript hspace catalog
      have hplugin := hscript.learnt_notePlugin hspace
      obtain ⟨-, hwrite', hwritten'⟩ :=
        writer.writeWrapper_notes hplugin.consistent (hplugin.spaceIn after)
      obtain ⟨hdeclare', hdeclared'⟩ :=
        declareScript_notes hwrapper.consistent (hwrapper.spaceIn before) catalog
      have hdeposit : writer.deposit (script.notePlugin space) (script.notePlugin space) space after =
          (writer.deposit script script space after).onState fun state =>
            (script.notePlugin space, state.2) := by
        rw [WrapperWriter.deposit_of_forget hscript hplugin.consistent hplugin.forget,
          WrapperWriter.deposit_onState]
      rw [hdeposit] at hwrite' hwritten'
      refine ⟨?_, ?_, ?_, ?_, ?_⟩
      · rw [hdeclared, hwrite', hwrite, Outcome.answer_onState]
      · rw [hdeclared, hwritten', hwritten, Outcome.state_onState]
      · rw [hwritten, hdeclare', hdeclare]
        rfl
      · rw [hwritten, hdeclared', hdeclared]
        rfl
      · rw [hwritten, hdeclared, hwritten', hdeclared']
        exact (script.notePlugin_noteWrapper space).symm

/-- Generating, as an action on the scripts that have been found. -/
def refresh (writer : WrapperWriter) (scripts : List Script) (tree : Tree) :
    Outcome (List Script × Tree) Failure (List Path) :=
  ((writer.clean tree).onState (scripts, ·)).andThen fun _ state =>
    Script.each (writeWrapper writer) state.1 state.2

theorem refresh_of_uncleaned {failure : Failure}
    (h : (writer.clean tree).answer = .error failure) (scripts : List Script) :
    (refresh writer scripts tree).answer = .error failure ∧
      (refresh writer scripts tree).state = (scripts, (writer.clean tree).state) := by
  have hcleaned : ((writer.clean tree).onState (scripts, ·)).answer = .error failure := h
  exact Outcome.andThen_of_error hcleaned

theorem refresh_of_cleaned (h : (writer.clean tree).answer = .ok ()) (scripts : List Script) :
    let run := Script.each (writeWrapper writer) scripts (writer.clean tree).state
    (refresh writer scripts tree).answer = run.answer ∧
      (refresh writer scripts tree).state = run.state := by
  have hcleaned : ((writer.clean tree).onState (scripts, ·)).answer = .ok () := h
  exact Outcome.andThen_of_ok hcleaned

theorem generate_of_scripts (hfound : pass.scripts = some scripts) (tree : Tree) :
    (pass.generate tree).answer = (refresh pass.writer scripts tree).answer ∧
      (pass.generate tree).state =
        ({ pass with scripts := some (refresh pass.writer scripts tree).state.1 },
          (refresh pass.writer scripts tree).state.2) := by
  have hfind := find_of_scripts hfound tree
  have hscripts : (pass.find tree).answer = .ok scripts := congrArg Outcome.answer hfind
  have hsame : (pass.find tree).state = pass := congrArg Outcome.state hfind
  cases hclean : (pass.writer.clean tree).answer with
  | error failure =>
      obtain ⟨hanswer, hstate⟩ := generate_of_uncleaned hscripts hclean
      obtain ⟨hanswer', hstate'⟩ := refresh_of_uncleaned hclean scripts
      refine ⟨hanswer.trans hanswer'.symm, ?_⟩
      rw [hstate, hstate', hsame, ← hfound]
  | ok done =>
      obtain ⟨hanswer, hstate⟩ := generate_of_cleaned hscripts hclean
      obtain ⟨hanswer', hstate'⟩ := refresh_of_cleaned hclean scripts
      refine ⟨hanswer.trans hanswer'.symm, ?_⟩
      rw [hstate, hstate', hsame]

/-- The files as generating may have left them: nothing has changed but in the directory of the
wrappers and on the way to it, and nothing at the scripts. -/
structure Untouched (writer : WrapperWriter) (scripts : List Script) (before after : Tree) :
    Prop where
  within : Tree.Within (before.place writer.directory <+: ·) (before.OnWay writer.directory) before
    after
  spared : ∀ script ∈ scripts, Tree.Spared (before.place script.path) before after

/-- Scripts that generating does not reach. -/
structure Remote (writer : WrapperWriter) (scripts : List Script) (tree : Tree) : Prop where
  linkFree : tree.LinkFree
  wellFormed : tree.WellFormed
  wraps : ∀ script ∈ scripts, writer.Wraps script
  detached : ∀ script ∈ scripts, tree.Detached writer.directory script.path

theorem Remote.clean (h : Remote writer scripts tree) :
    Untouched writer scripts tree (writer.clean tree).state :=
  ⟨writer.within_clean h.linkFree _, fun script hscript =>
    WrapperWriter.spared_clean h.linkFree (h.detached script hscript).apart⟩

theorem Remote.writeWrapper (h : Remote writer scripts before)
    (hafter : Untouched writer scripts before after) {script : Script} (hscript : script ∈ scripts) :
    Untouched writer scripts before (Pass.writeWrapper writer script after).state.2 := by
  have hwraps := h.wraps script hscript
  have hframe := hafter.within.frame
  have hfree := hframe.linkFree h.linkFree
  have hplace := hframe.place writer.directory
  have hwithin := WrapperWriter.within_writeWrapper hfree hwraps
  rw [hplace, hframe.onWay] at hwithin
  refine ⟨hafter.within.trans hwithin, ?_⟩
  intro other hother
  have hspared := hafter.spared other hother
  have hdetached := h.detached other hother
  have hpast := hdetached.bypasses.of_spared hframe.home hspared
  refine hspared.trans (WrapperWriter.spared_writeWrapper hfree hwraps ?_ hpast)
  rw [hplace]
  exact hdetached.apart

theorem Remote.load_eq (h : Remote writer scripts before)
    (hafter : Untouched writer scripts before after) {script : Script} (hscript : script ∈ scripts) :
    script.load after = script.load before := by
  rw [Script.load, Script.load, (h.detached script hscript).readText_eq h.linkFree h.wellFormed
    hafter.within (hafter.spared script hscript)]

theorem Remote.refresh (h : Remote writer scripts tree) :
    Untouched writer scripts tree (Pass.refresh writer scripts tree).state.2 := by
  cases hclean : (writer.clean tree).answer with
  | error failure =>
      rw [(refresh_of_uncleaned hclean scripts).2]
      exact h.clean
  | ok done =>
      rw [(refresh_of_cleaned hclean scripts).2]
      exact Script.each_keeps h.clean fun script hscript later hlater =>
        h.writeWrapper hlater hscript

/-- Wherever generating stops, and wherever declaring does. -/
theorem Remote.commutes (h : Remote writer scripts tree) (catalog : Catalog) :
    Commutes (Pass.refresh writer) (Script.each (declareScript tree)) scripts tree catalog := by
  have hrun := Script.each_commutes h.clean
    (fun script hscript later hlater => h.writeWrapper hlater hscript)
    (fun script hscript later catalog hlater => commutes_script
      (h.wraps script hscript).consistent (h.load_eq hlater hscript) catalog) catalog
  cases hclean : (writer.clean tree).answer with
  | error failure =>
      have hrefresh := @refresh_of_uncleaned writer tree failure hclean
      constructor <;> simp only [hrefresh]
  | ok done =>
      have hrefresh := @refresh_of_cleaned writer tree hclean
      obtain ⟨hfirst, hleft, hsecond, hright, hmeet⟩ := hrun
      constructor <;> simp only [hrefresh]
      all_goals assumption

theorem forall₂_refresh (hscripts : ∀ script ∈ scripts, script.Consistent) (tree : Tree) :
    List.Forall₂ Script.Becomes scripts (Pass.refresh writer scripts tree).state.1 := by
  cases hclean : (writer.clean tree).answer with
  | error failure =>
      rw [(refresh_of_uncleaned hclean scripts).2]
      exact List.forall₂_same.2 fun script hscript => (hscripts script hscript).becomes
  | ok done =>
      rw [(refresh_of_cleaned hclean scripts).2]
      exact Script.forall₂_each (fun _ => Script.Consistent.becomes)
        (fun script tree hscript => Script.becomes_writeWrapper writer hscript tree) hscripts _

/-- Declaring after generating reads what it would have read before. -/
theorem Remote.declareScript_eq (h : Remote writer scripts tree) {script : Script}
    (hscript : script ∈ (Pass.refresh writer scripts tree).state.1) :
    declareScript (Pass.refresh writer scripts tree).state.2 script = declareScript tree script := by
  have hconsistent := fun script hscript => (h.wraps script hscript).consistent
  obtain ⟨source, hsource, hbecomes⟩ :=
    Script.exists_of_forall₂ (forall₂_refresh hconsistent tree) hscript
  have hforget := hbecomes.kept.forget
  refine declareScript_congr ?_
  rw [Script.load_of_forget hforget, Script.load_of_forget hforget, h.load_eq h.refresh hsource]

/-- **Generating and declaring commute** in a configured pass none of whose scripts depends on the
directory of the wrappers: each task gives the same answer whether it runs first or second, be it a
success or a failure, and the catalog, the files and all that the scripts remember are the same in
the end. -/
theorem generate_declare_comm {pass : Pass} {tree : Tree} (hreached : pass.Reached)
    (hconfigured : pass.phase ≠ .created)
    (hextension : '/' ∉ pass.layout.wrapperExtension.toList) (hwell : tree.WellFormed)
    (hfree : tree.LinkFree)
    (hdetached : ∀ scripts, pass.scripts = some scripts → ∀ script ∈ scripts,
      tree.Detached pass.layout.generatedDirectory script.path) (catalog : Catalog) :
    let generated := pass.generate tree
    let thenDeclared := generated.state.1.declare catalog generated.state.2
    let declared := pass.declare catalog tree
    let thenGenerated := declared.state.1.generate tree
    thenGenerated.answer = generated.answer ∧ thenDeclared.answer = declared.answer ∧
      thenDeclared.state.2 = declared.state.2 ∧ thenGenerated.state.2 = generated.state.2 ∧
      thenDeclared.state.1 = thenGenerated.state.1 := by
  intro generated thenDeclared declared thenGenerated
  obtain ⟨scripts, hfound, hnames⟩ := hreached.vetted.accepted hconfigured
  have hremote : Remote pass.writer scripts tree := by
    refine ⟨hfree, hwell, ?_, hdetached scripts hfound⟩
    intro script hscript
    exact WrapperWriter.wraps_of_isTypeName
      (hreached.vetted.consistent scripts hfound script hscript) (hnames script hscript) hextension
  let refreshed := Pass.refresh pass.writer scripts tree
  let run := Script.each (declareScript tree) scripts catalog
  obtain ⟨hgenerated, hrefreshed⟩ := generate_of_scripts hfound tree
  obtain ⟨hdeclared, hfilled⟩ := declare_of_scripts hfound catalog tree
  have hafter : thenGenerated = generate { pass with scripts := some run.state.1 } tree := by
    simp only [thenGenerated, declared, hfilled, run]
  have hafter' : thenDeclared =
      declare { pass with scripts := some refreshed.state.1 } catalog refreshed.state.2 := by
    simp only [thenDeclared, generated, hrefreshed, refreshed]
  obtain ⟨hthenGenerated, hthenRefreshed⟩ :=
    @generate_of_scripts { pass with scripts := some run.state.1 } _ rfl tree
  obtain ⟨hthenDeclared, hthenFilled⟩ :=
    @declare_of_scripts { pass with scripts := some refreshed.state.1 } _ rfl catalog
      refreshed.state.2
  rw [Script.each_congr fun script hscript => hremote.declareScript_eq hscript]
    at hthenDeclared hthenFilled
  obtain ⟨hfirst, hleft, hsecond, hright, hmeet⟩ := hremote.commutes catalog
  rw [hafter, hafter']
  refine ⟨?_, ?_, ?_, ?_, ?_⟩
  · exact hthenGenerated.trans (hfirst.trans hgenerated.symm)
  · exact hthenDeclared.trans ((congrArg (Except.map List.length) hsecond).trans hdeclared.symm)
  · rw [hthenFilled, hfilled]
    exact hright
  · rw [hthenRefreshed, hrefreshed]
    exact hleft
  · rw [hthenFilled, hthenRefreshed]
    exact congrArg (fun scripts => { pass with scripts := some scripts }) hmeet.symm

/-- A pass over the scripts at some paths, configured for a build that compiles and publishes. -/
def configuredFor (layout : Layout) (paths : List Path) : Pass :=
  ((new layout (.ofImports []) fun _ _ _ _ => (.ok paths, [])).configure
    (.ofTasks [layout.tasks.compile, layout.tasks.publish]) (.new none) .empty).state.1

/-- One script is there, and the way to the other leads through a directory that is missing and that
nobody makes. -/
def halfProject : Tree :=
  let home := Utf8.ofString "home"
  let source := Utf8.ofString "src"
  { entries := [([home], .directory), ([home, source], .directory),
      ([home, source, Utf8.ofString "tool.gradle.kts"], .file (Utf8.ofString "package a\n"))]
    home := [home] }

def halfPaths : List Path :=
  [.ofString "src/tool.gradle.kts", .ofString "lib/../tool.gradle.kts"]

theorem detached_half : ∀ path ∈ halfPaths,
    halfProject.Detached Layout.default.generatedDirectory path := by
  have hdirectory : Path.dotDot ∉ Layout.default.generatedDirectory.segments := by decide +kernel
  have hapart : ∀ path ∈ halfPaths,
      Tree.Apart (halfProject.place Layout.default.generatedDirectory) (halfProject.place path) := by
    decide +kernel
  have hplain : Tree.Plain (.ofString "src/tool.gradle.kts") :=
    ⟨by decide +kernel, by decide +kernel⟩
  have haround : ∀ front ∈ (Path.ofString "lib/../tool.gradle.kts").segments.inits,
      ¬ halfProject.place Layout.default.generatedDirectory <+:
        Tree.resolve halfProject.home front := by
    decide +kernel
  rw [halfPaths, List.forall_mem_cons, List.forall_mem_singleton] at hapart ⊢
  refine ⟨hplain.detached hdirectory hapart.1, hapart.2, ?_,
    Tree.bypasses_of_noParent hdirectory hapart.2, .inr (.inr ?_)⟩
  · rintro location ⟨front, hfront, rfl⟩
    exact haround front ((List.mem_inits _ _).2 hfront)
  · refine .past (.inl (by decide +kernel)) (by decide +kernel) ?_
    refine .missing (by decide +kernel) ?_
    unfold Tree.OnWay
    decide +kernel

theorem generate_declare_comm_half :
    let pass := configuredFor .default halfPaths
    let generated := pass.generate halfProject
    let declared := pass.declare .empty halfProject
    (pass.Reached ∧ pass.phase ≠ .created ∧ '/' ∉ pass.layout.wrapperExtension.toList ∧
      halfProject.WellFormed ∧ halfProject.LinkFree ∧ ∀ scripts, pass.scripts = some scripts →
        ∀ script ∈ scripts, halfProject.Detached pass.layout.generatedDirectory script.path) ∧
      generated.answer = .error (.files (.ofString "lib/../tool.gradle.kts") .notFound) ∧
      (declared.state.1.generate halfProject).answer = generated.answer ∧
      (generated.state.1.declare .empty generated.state.2).state.2 = ⟨[⟨"a.tool", "Tool"⟩]⟩ ∧
      (generated.state.1.declare .empty generated.state.2).state.1 =
        (declared.state.1.generate halfProject).state.1 := by
  intro pass generated declared
  have hreached : pass.Reached := .configure (.new ..) _ _ _
  have hphase : pass.phase ≠ .created := by decide +kernel
  have hlayout : pass.layout = .default := by decide +kernel
  have hextension : '/' ∉ pass.layout.wrapperExtension.toList := by
    rw [hlayout]
    decide
  have hwell : halfProject.WellFormed := by decide
  have hfree : halfProject.LinkFree := Tree.linkFree_of_entries (by decide)
  have hscripts : pass.scripts = some (halfPaths.map Layout.default.scriptAt) := by decide +kernel
  have hdetached : ∀ scripts, pass.scripts = some scripts → ∀ script ∈ scripts,
      halfProject.Detached pass.layout.generatedDirectory script.path := by
    intro scripts hfound script hscript
    obtain rfl := Option.some.inj (hscripts.symm.trans hfound)
    obtain ⟨path, hpath, rfl⟩ := List.mem_map.1 hscript
    rw [hlayout]
    exact detached_half path hpath
  obtain ⟨hgenerate, hdeclare, hcatalog, htree, hpass⟩ :=
    generate_declare_comm hreached hphase hextension hwell hfree hdetached .empty
  have hfails : generated.answer =
      .error (.files (.ofString "lib/../tool.gradle.kts") .notFound) := by
    decide +kernel
  have hfilled : declared.state.2 = ⟨[⟨"a.tool", "Tool"⟩]⟩ := by decide +kernel
  exact ⟨⟨hreached, hphase, hextension, hwell, hfree, hdetached⟩, hfails, hgenerate,
    hcatalog.trans hfilled, hpass⟩

/-- The way to the second script goes through a directory that is missing. -/
def detouredProject : Tree :=
  let home := Utf8.ofString "home"
  let source := Utf8.ofString "src"
  { entries := [([home], .directory), ([home, source], .directory),
      ([home, source, Utf8.ofString "a.gradle.kts"], .file []),
      ([home, source, Utf8.ofString "b.gradle.kts"], .file [])]
    home := [home] }

/-- Making the directory of the wrappers can open the way to a script that is apart from it. -/
theorem generate_opens_detour :
    let layout := { Layout.default with generatedDirectory := .ofString "new/out" }
    let paths : List Path := [.ofString "src/a.gradle.kts", .ofString "new/../src/b.gradle.kts"]
    let pass := configuredFor layout paths
    let generated := pass.generate detouredProject
    pass.Reached ∧ pass.phase ≠ .created ∧ '/' ∉ pass.layout.wrapperExtension.toList ∧
      detouredProject.WellFormed ∧ detouredProject.LinkFree ∧
      pass.scripts.map (List.map Script.path) = some paths ∧
      (∀ path ∈ paths, Tree.Apart (detouredProject.place layout.generatedDirectory)
        (detouredProject.place path)) ∧
      (pass.declare .empty detouredProject).answer =
        .error (.files (.ofString "new/../src/b.gradle.kts") .notFound) ∧
      generated.answer = .ok [.ofString "new/out/A.kt", .ofString "new/out/B.kt"] ∧
      (generated.state.1.declare .empty generated.state.2).answer = .ok 2 := by
  intro layout paths pass generated
  refine ⟨.configure (.new ..) _ _ _, by decide +kernel, by decide +kernel, by decide,
    Tree.linkFree_of_entries (by decide), by decide +kernel, by decide +kernel, by decide +kernel,
    ?_, ?_⟩
  · decide +kernel
  · decide +kernel

end Pass

end ScriptPlugins
