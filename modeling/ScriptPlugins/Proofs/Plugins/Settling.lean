import ScriptPlugins.Proofs.Plugins.Standing

/-!
# What scripts have settled on

A script that has found out its namespace keeps to it, so its wrapper and its plugin are settled from
then on. What generating and declaring do can therefore be told from any later state of the scripts,
however their files have been edited in between: it is the same namespace that stands in the source
of a wrapper and in the id of the plugin.

This holds in all trees, with links or without.
-/

namespace ScriptPlugins

open Text

namespace Script

variable {σ α : Type} {act : Script → σ → Outcome (Script × σ) Failure α} {state : σ}
  {script later : Script} {scripts laters : List Script} {answers : List α}
  {space : Option String} {writer : WrapperWriter}

structure Settled (script : Script) : Prop where
  consistent : script.Consistent
  declared : ∃ space, script.declared = some space

theorem Learnt.settled (h : script.Learnt space later) : later.Settled :=
  ⟨h.consistent, space, h.declared⟩

theorem Settled.learnt (hscript : script.Settled) (h : Becomes script later) :
    script.Learnt script.knownSpace later := by
  obtain ⟨space, hspace⟩ := hscript.declared
  refine ⟨h.kept.consistent, ?_, h.kept.forget⟩
  rw [knownSpace, hspace, Option.getD_some]
  exact h.declared space hspace

def knownPlugin (script : Script) : Plugin :=
  script.pluginIn script.knownSpace

theorem Learnt.knownPlugin (h : script.Learnt space later) :
    later.knownPlugin = script.pluginIn space := by
  rw [Script.knownPlugin, pluginIn, pluginIn, h.knownSpace, (forget_eq_iff.1 h.forget).2.2.1]

theorem Settled.knownPlugin_eq (hscript : script.Settled) (h : Becomes script later) :
    later.knownPlugin = script.knownPlugin :=
  (hscript.learnt h).knownPlugin

theorem Settled.fileOf_eq (hscript : script.Settled) (h : Becomes script later) :
    writer.fileOf later = writer.fileOf script :=
  writer.fileOf_of_learnt hscript.consistent (hscript.learnt h)

/-- Whatever of a script stays once it is settled is the same for the scripts at a later time. -/
theorem map_of_forall₂_becomes {β : Type} {f : Script → β}
    (hf : ∀ script later, script.Settled → Becomes script later → f later = f script)
    (hscripts : ∀ script ∈ scripts, script.Settled) (h : List.Forall₂ Becomes scripts laters) :
    laters.map f = scripts.map f := by
  induction h with
  | nil => rfl
  | cons hbecomes _ ih =>
      rw [List.map_cons, List.map_cons, hf _ _ (hscripts _ List.mem_cons_self) hbecomes,
        ih fun other hother => hscripts other (List.mem_cons_of_mem _ hother)]

/-- A run has done what the scripts come to that have settled, up to the one that it stops at. -/
theorem exists_take_each (record : σ → Script → σ)
    (hact : ∀ script state, script.Consistent →
      (act script state).state.1.Settled ∧
          (act script state).state.2 = record state (act script state).state.1 ∨
        (∃ failure, (act script state).answer = .error failure) ∧
          (act script state).state.2 = state)
    (hscripts : ∀ script ∈ scripts, script.Consistent) (state : σ) :
    let after := (each act scripts state).state
    ∃ count, (∀ later ∈ after.1.take count, later.Settled) ∧
      after.2 = (after.1.take count).foldl record state ∧
      ∀ answers, (each act scripts state).answer = .ok answers → count = after.1.length := by
  induction scripts generalizing state with
  | nil => exact ⟨0, by simp, rfl, fun _ _ => rfl⟩
  | cons script rest ih =>
      intro after
      have hfirst := hact script state (hscripts script List.mem_cons_self)
      cases hanswer : (act script state).answer with
      | error failure =>
          have hafter : after = ((act script state).state.1 :: rest, (act script state).state.2) := by
            simp only [after, each, hanswer, Outcome.state_error]
          have hfails : ∀ answers, (each act (script :: rest) state).answer ≠ .ok answers := by
            simp [each, hanswer]
          rw [hafter]
          rcases hfirst with ⟨hsettled, hstate⟩ | ⟨-, hstate⟩
          · refine ⟨1, ?_, hstate, fun answers h => absurd h (hfails answers)⟩
            intro later hlater
            obtain rfl := List.mem_singleton.1 hlater
            exact hsettled
          · exact ⟨0, by simp, hstate, fun answers h => absurd h (hfails answers)⟩
      | ok answer =>
          have hothers : ∀ other ∈ rest, other.Consistent := fun other hother =>
            hscripts other (List.mem_cons_of_mem _ hother)
          obtain ⟨hsettled, hstate⟩ := hfirst.resolve_right (by simp [hanswer])
          obtain ⟨count, hlaters, htaken, hall⟩ := ih hothers (act script state).state.2
          have hafter : after = _ := state_each_cons hanswer
          rw [hafter]
          refine ⟨count + 1, ?_, ?_, ?_⟩
          · intro later hlater
            rcases List.mem_cons.1 hlater with rfl | hlater
            · exact hsettled
            · exact hlaters later hlater
          · rw [List.take_succ_cons, List.foldl_cons, ← hstate]
            exact htaken
          · intro answers h
            obtain ⟨_, others, -, hrest, -⟩ := each_cons_eq_ok_iff.1 h
            rw [List.length_cons, hall others hrest]

theorem answers_each {f : Script → α}
    (hact : ∀ script state answer, script.Consistent → (act script state).answer = .ok answer →
      answer = f (act script state).state.1)
    (hscripts : ∀ script ∈ scripts, script.Consistent)
    (h : (each act scripts state).answer = .ok answers) :
    answers = (each act scripts state).state.1.map f := by
  induction scripts generalizing state answers with
  | nil => exact (Except.ok.inj h).symm
  | cons script rest ih =>
      obtain ⟨answer, others, hfirst, hrest, rfl⟩ := each_cons_eq_ok_iff.1 h
      have hothers : ∀ other ∈ rest, other.Consistent := fun other hother =>
        hscripts other (List.mem_cons_of_mem _ hother)
      rw [state_each_cons hfirst, List.map_cons, ← ih hothers hrest,
        ← hact script state answer (hscripts script List.mem_cons_self) hfirst]

end Script

namespace WrapperWriter

variable {writer : WrapperWriter} {script later : Script} {scripts : List Script} {tree : Tree}
  {space : Option String} {path : Path} {paths : List Path}

/-- What the tree becomes when the file of a wrapper is put in its place, or as far as that goes. -/
def leave (writer : WrapperWriter) (tree : Tree) (file : Path × Bytes) : Tree :=
  match tree.makeDirectories writer.directory with
  | (.error _, made) => made
  | (.ok (), made) => (made.write file.1 file.2).toOption.getD made

theorem state_snd_deposit : (writer.deposit script later space tree).state.2 =
    writer.leave tree (writer.pathOf script, writer.sourceOf script space) := by
  rw [deposit, leave]
  rcases tree.makeDirectories writer.directory with ⟨answer, made⟩
  cases answer with
  | error fault => rfl
  | ok done =>
      cases hwrite : made.write (writer.pathOf script) (writer.sourceOf script space) with
      | error fault => simp only [hwrite, Outcome.state_error, Except.toOption, Option.getD_none]
      | ok after => simp only [hwrite, Outcome.state_ok, Except.toOption, Option.getD_some]

/-- What the wrapper of a script looks up and the id of its plugin are in the same namespace. -/
theorem exists_space (writer : WrapperWriter) (script : Script) : ∃ space,
    script.knownPlugin.id = Script.qualify space script.stem ∧
      (writer.fileOf script).2 = Utf8.ofString (writer.template.render
        (Naming.wrapperClass script.stem)
        (Script.qualify space (Naming.compiledClass script.fileName))) := by
  refine ⟨script.knownSpace, ?_, ?_⟩
  · rw [Script.knownPlugin, Script.pluginIn]
  · rw [fileOf, sourceOf]

theorem writeWrapper_records (hscript : script.Consistent) (tree : Tree) :
    let outcome := Pass.writeWrapper writer script tree
    outcome.state.1.Settled ∧
        outcome.state.2 = writer.leave tree (writer.fileOf outcome.state.1) ∨
      (∃ failure, outcome.answer = .error failure) ∧ outcome.state.2 = tree := by
  intro outcome
  cases hspace : script.spaceIn tree with
  | error failure =>
      have houtcome : outcome = _ := writer.writeWrapper_of_spaceIn_eq_error hscript hspace
      rw [houtcome]
      exact .inr ⟨⟨failure, rfl⟩, rfl⟩
  | ok space =>
      obtain ⟨later, hlearnt, -, hstate⟩ := writer.writeWrapper_of_spaceIn_eq_ok hscript hspace
      left
      change outcome.state = _ at hstate
      rw [hstate, state_fst_deposit, state_snd_deposit, fileOf_of_learnt hscript hlearnt]
      exact ⟨hlearnt.settled, rfl⟩

/-- The tree after writing wrappers is told by the scripts that were settled in time. -/
theorem each_writeWrapper_records (hscripts : ∀ script ∈ scripts, script.Consistent) (tree : Tree) :
    let outcome := Script.each (Pass.writeWrapper writer) scripts tree
    ∃ count, (∀ later ∈ outcome.state.1.take count, later.Settled) ∧
      outcome.state.2 = ((outcome.state.1.take count).map writer.fileOf).foldl writer.leave tree ∧
      ∀ paths, outcome.answer = .ok paths →
        count = outcome.state.1.length ∧ paths = outcome.state.1.map writer.pathOf := by
  intro outcome
  obtain ⟨count, hsettled, hstate, hall⟩ :=
    Script.exists_take_each (fun tree script => writer.leave tree (writer.fileOf script))
      (fun script tree hscript => writeWrapper_records hscript tree) hscripts tree
  refine ⟨count, hsettled, hstate.trans List.foldl_map.symm, ?_⟩
  intro paths hpaths
  refine ⟨hall paths hpaths, Script.answers_each ?_ hscripts hpaths⟩
  intro script tree path hscript hpath
  have hkept := (Script.becomes_writeWrapper writer hscript tree).kept
  rw [pathOf_of_forget hscript hkept.consistent hkept.forget]
  exact (find_writeWrapper hscript hpath).1

end WrapperWriter

namespace Catalog

variable {script : Script} {scripts : List Script} {catalog : Catalog}

def add (catalog : Catalog) (plugin : Plugin) : Catalog :=
  ⟨catalog.plugins ++ [plugin]⟩

theorem plugins_foldl_add (catalog : Catalog) (plugins : List Plugin) :
    (plugins.foldl add catalog).plugins = catalog.plugins ++ plugins := by
  induction plugins generalizing catalog with
  | nil => exact (List.append_nil _).symm
  | cons plugin rest ih => rw [List.foldl_cons, ih, add, List.append_assoc, List.singleton_append]

theorem declareScript_records (hscript : script.Consistent) (tree : Tree) (catalog : Catalog) :
    let outcome := Pass.declareScript tree script catalog
    outcome.state.1.Settled ∧ outcome.state.2 = catalog.add outcome.state.1.knownPlugin ∨
      (∃ failure, outcome.answer = .error failure) ∧ outcome.state.2 = catalog := by
  intro outcome
  cases hspace : script.spaceIn tree with
  | error failure =>
      have houtcome : outcome = .error failure (script, catalog) [] := by
        simp only [outcome, Pass.declareScript, hscript.plugin_eq_error hspace]
      rw [houtcome]
      exact .inr ⟨⟨failure, rfl⟩, rfl⟩
  | ok space =>
      obtain ⟨later, hplugin, hlearnt⟩ := hscript.plugin_eq_ok hspace
      have houtcome : outcome = ((catalog.register (script.pluginIn space)).onState
          (later, ·)).andThen fun _ state => .ok () state [Pass.event .debug "Declared script plugin"] := by
        simp only [outcome, Pass.declareScript, hplugin]
        rfl
      rw [houtcome, register]
      cases catalog.find? (script.pluginIn space).id with
      | some taken => exact .inr ⟨⟨_, rfl⟩, rfl⟩
      | none => exact .inl ⟨hlearnt.settled, congrArg catalog.add hlearnt.knownPlugin.symm⟩

/-- What is registered by a run are the plugins of the scripts that were settled in time. -/
theorem each_declareScript_records (hscripts : ∀ script ∈ scripts, script.Consistent) (tree : Tree)
    (catalog : Catalog) :
    let outcome := Script.each (Pass.declareScript tree) scripts catalog
    ∃ count, (∀ later ∈ outcome.state.1.take count, later.Settled) ∧
      outcome.state.2.plugins =
        catalog.plugins ++ (outcome.state.1.take count).map Script.knownPlugin ∧
      ∀ done, outcome.answer = .ok done → count = outcome.state.1.length := by
  intro outcome
  obtain ⟨count, hsettled, hstate, hall⟩ :=
    Script.exists_take_each (fun catalog script => catalog.add script.knownPlugin)
      (fun script catalog hscript => declareScript_records hscript tree catalog) hscripts catalog
  refine ⟨count, hsettled, ?_, hall⟩
  rw [← plugins_foldl_add, List.foldl_map]
  exact congrArg Catalog.plugins hstate

end Catalog

namespace Pass

variable {pass : Pass} {scripts : List Script} {tree : Tree} {failure : Failure}

theorem writer_find (pass : Pass) (tree : Tree) : (pass.find tree).state.writer = pass.writer := by
  obtain ⟨scripts, searches, hstate⟩ := find_keeps pass tree
  rw [hstate]
  rfl

theorem generate_of_uncleaned (hfind : (pass.find tree).answer = .ok scripts)
    (hclean : (pass.writer.clean tree).answer = .error failure) :
    (pass.generate tree).answer = .error failure ∧
      (pass.generate tree).state = ((pass.find tree).state, (pass.writer.clean tree).state) := by
  have hfound : ((pass.find tree).onState (·, tree)).answer = .ok scripts := hfind
  have hcleaned : ((pass.writer.clean tree).onState ((pass.find tree).state, ·)).answer =
      .error failure := hclean
  rw [generate, (Outcome.andThen_of_ok hfound).1, (Outcome.andThen_of_ok hfound).2]
  simp only [Outcome.state_onState, writer_find]
  rw [(Outcome.andThen_of_error hcleaned).1, (Outcome.andThen_of_error hcleaned).2]
  exact ⟨rfl, rfl⟩

theorem generate_of_cleaned (hfind : (pass.find tree).answer = .ok scripts)
    (hclean : (pass.writer.clean tree).answer = .ok ()) :
    let run := Script.each (writeWrapper pass.writer) scripts (pass.writer.clean tree).state
    (pass.generate tree).answer = run.answer ∧
      (pass.generate tree).state =
        ({ (pass.find tree).state with scripts := some run.state.1 }, run.state.2) := by
  intro run
  have hfound : ((pass.find tree).onState (·, tree)).answer = .ok scripts := hfind
  have hcleaned : ((pass.writer.clean tree).onState ((pass.find tree).state, ·)).answer = .ok () :=
    hclean
  obtain ⟨hanswer, hstate⟩ := each_of_scripts (scripts_find hfind) (writeWrapper pass.writer)
    (pass.writer.clean tree).state (pass.writer.clean tree).state
  rw [generate, (Outcome.andThen_of_ok hfound).1, (Outcome.andThen_of_ok hfound).2]
  simp only [Outcome.state_onState, writer_find]
  rw [(Outcome.andThen_of_ok hcleaned).1, (Outcome.andThen_of_ok hcleaned).2]
  simp only [Outcome.state_onState, writer_find]
  cases hrun : run.answer with
  | error failure =>
      have hfails := hanswer.trans hrun
      rw [(Outcome.andThen_of_error hfails).1, (Outcome.andThen_of_error hfails).2, hstate]
      exact ⟨rfl, rfl⟩
  | ok paths =>
      have hwrites := hanswer.trans hrun
      rw [(Outcome.andThen_of_ok hwrites).1, (Outcome.andThen_of_ok hwrites).2, hstate]
      exact ⟨rfl, rfl⟩

/-- What generating leaves, told by the scripts as it leaves them. -/
theorem generate_records (hfound : pass.scripts = some scripts)
    (hscripts : ∀ script ∈ scripts, script.Consistent) (tree : Tree) :
    ∃ laters count, (pass.generate tree).state.1 = { pass with scripts := some laters } ∧
      List.Forall₂ Script.Becomes scripts laters ∧
      (∀ later ∈ laters.take count, later.Settled) ∧
      (pass.generate tree).state.2 =
        ((laters.take count).map pass.writer.fileOf).foldl pass.writer.leave
          (pass.writer.clean tree).state ∧
      ∀ paths, (pass.generate tree).answer = .ok paths →
        count = laters.length ∧ paths = laters.map pass.writer.pathOf := by
  have hfind : (pass.find tree).answer = .ok scripts := by
    rw [find_of_scripts hfound]
    rfl
  have hsame : (pass.find tree).state = pass := by
    rw [find_of_scripts hfound]
    rfl
  cases hclean : (pass.writer.clean tree).answer with
  | error failure =>
      obtain ⟨hanswer, hstate⟩ := generate_of_uncleaned hfind hclean
      refine ⟨scripts, 0, ?_, ?_, nofun, congrArg Prod.snd hstate, ?_⟩
      · rw [hstate, hsame, ← hfound]
      · exact List.forall₂_same.2 fun script hscript => (hscripts script hscript).becomes
      · intro paths hpaths
        cases hanswer.symm.trans hpaths
  | ok done =>
      obtain ⟨hanswer, hstate⟩ := generate_of_cleaned hfind hclean
      obtain ⟨count, hsettled, htree, hall⟩ := WrapperWriter.each_writeWrapper_records hscripts
        (pass.writer.clean tree).state
      refine ⟨_, count, ?_, ?_, hsettled, ?_, ?_⟩
      · rw [hstate, hsame]
      · exact Script.forall₂_each (fun _ => Script.Consistent.becomes)
          (fun script tree hscript => Script.becomes_writeWrapper pass.writer hscript tree) hscripts _
      · rw [hstate]
        exact htree
      · intro paths hpaths
        exact hall paths (hanswer.symm.trans hpaths)

/-- What declaring leaves. -/
theorem declare_records (hfound : pass.scripts = some scripts)
    (hscripts : ∀ script ∈ scripts, script.Consistent) (catalog : Catalog) (tree : Tree) :
    ∃ laters count, (pass.declare catalog tree).state.1 = { pass with scripts := some laters } ∧
      List.Forall₂ Script.Becomes scripts laters ∧
      (∀ later ∈ laters.take count, later.Settled) ∧
      (pass.declare catalog tree).state.2.plugins =
        catalog.plugins ++ (laters.take count).map Script.knownPlugin ∧
      ∀ registered, (pass.declare catalog tree).answer = .ok registered →
        count = laters.length ∧ registered = laters.length := by
  obtain ⟨hanswer, hstate⟩ := declare_of_scripts hfound catalog tree
  obtain ⟨count, hsettled, hplugins, hall⟩ :=
    Catalog.each_declareScript_records hscripts tree catalog
  refine ⟨_, count, ?_, ?_, hsettled, ?_, ?_⟩
  · exact congrArg Prod.fst hstate
  · exact Script.forall₂_each (fun _ => Script.Consistent.becomes)
      (fun script catalog hscript => Script.becomes_declareScript hscript tree catalog) hscripts
      catalog
  · rw [← hplugins, hstate]
  · intro registered hregistered
    rw [hanswer] at hregistered
    cases hrun : (Script.each (declareScript tree) scripts catalog).answer with
    | error failure =>
        rw [hrun] at hregistered
        cases hregistered
    | ok done =>
        rw [hrun] at hregistered
        obtain rfl := Except.ok.inj hregistered
        have hdone := Script.answers_each (f := fun _ => ()) (fun _ _ _ _ _ => rfl) hscripts hrun
        exact ⟨hall done hrun, by rw [hdone, List.length_map]⟩

theorem ask_plugin_records {script : Script} (hscript : script.Consistent) (tree : Tree)
    (state : Unit) :
    let outcome := Script.ask (·.plugin tree) script state
    outcome.state.1.Settled ∧ outcome.answer = .ok outcome.state.1.knownPlugin ∨
      ∃ failure, outcome.answer = .error failure := by
  intro outcome
  cases hspace : script.spaceIn tree with
  | error failure =>
      right
      refine ⟨failure, ?_⟩
      simp only [outcome, Script.ask, hscript.plugin_eq_error hspace, Outcome.answer_error]
  | ok space =>
      obtain ⟨later, hplugin, hlearnt⟩ := hscript.plugin_eq_ok hspace
      left
      simp only [outcome, Script.ask, hplugin, Outcome.answer_ok, Outcome.state_ok]
      exact ⟨hlearnt.settled, congrArg Except.ok hlearnt.knownPlugin.symm⟩

/-- What asking for the plugins leaves. -/
theorem plugins_records (hfound : pass.scripts = some scripts)
    (hscripts : ∀ script ∈ scripts, script.Consistent) (tree : Tree) :
    ∃ laters, (pass.plugins tree).state = { pass with scripts := some laters } ∧
      List.Forall₂ Script.Becomes scripts laters ∧
      ∀ plugins, (pass.plugins tree).answer = .ok plugins →
        (∀ later ∈ laters, later.Settled) ∧ plugins = laters.map Script.knownPlugin := by
  obtain ⟨hanswer, hstate⟩ := each_of_scripts hfound (Script.ask (·.plugin tree)) tree ()
  obtain ⟨count, hsettled, -, hall⟩ := Script.exists_take_each (fun (_ : Unit) (_ : Script) => ())
    (fun script state hscript => (ask_plugin_records hscript tree state).imp
      (fun h => ⟨h.1, rfl⟩) fun h => ⟨h, rfl⟩) hscripts ()
  refine ⟨_, congrArg Prod.fst hstate, ?_, ?_⟩
  · exact Script.forall₂_each (fun _ => Script.Consistent.becomes)
      (fun script state hscript => Script.becomes_ask_plugin hscript tree state) hscripts ()
  · intro plugins hplugins
    have hrun := hanswer.symm.trans hplugins
    obtain rfl := hall plugins hrun
    rw [List.take_length] at hsettled
    refine ⟨hsettled, Script.answers_each ?_ hscripts hrun⟩
    intro script state plugin hscript hplugin
    rcases ask_plugin_records hscript tree state with ⟨-, hknown⟩ | ⟨failure, hfails⟩
    · exact Except.ok.inj (hplugin.symm.trans hknown)
    · cases hplugin.symm.trans hfails

end Pass

end ScriptPlugins
