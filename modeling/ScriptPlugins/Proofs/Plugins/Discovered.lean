import ScriptPlugins.Proofs.Plugins.Generation
import ScriptPlugins.Proofs.Plugins.Interview

/-!
# What a pass has discovered

A pass keeps the scripts of its first search that succeeded. Whatever it does afterwards, it goes
through the same list, and all that happens to a script is that it learns its names. So the scripts
of a pass are at every time those of the paths that its source has answered once, in that order.

Each operation is a search, an action on every script, or leaves the scripts alone, and `Sound`
has to be shown for these three only.
-/

namespace ScriptPlugins

namespace Script

variable {σ α : Type} {act : Script → σ → Outcome (Script × σ) Failure α}
  {script later last : Script} {scripts : List Script} {tree : Tree} {space : Option String}

/-- What a script can become: it remembers more, and agrees with itself. -/
structure Kept (script later : Script) : Prop where
  consistent : later.Consistent
  forget : later.forget = script.forget

theorem Consistent.kept (h : script.Consistent) : Kept script script :=
  ⟨h, rfl⟩

theorem Kept.trans (h : Kept script later) (h' : Kept later last) : Kept script last :=
  ⟨h'.consistent, h'.forget.trans h.forget⟩

theorem Learnt.kept (h : script.Learnt space later) : Kept script later :=
  ⟨h.consistent, h.forget⟩

theorem Kept.path (h : Kept script later) : later.path = script.path :=
  (forget_eq_iff.1 h.forget).1

theorem Kept.wrapperClass (h : Kept script later) (hscript : script.Consistent) :
    later.wrapperClass = script.wrapperClass := by
  rw [h.consistent.wrapperClass_eq, hscript.wrapperClass_eq, (forget_eq_iff.1 h.forget).2.2.1]

/-- What becomes of a script: it takes nothing back that it has found out. -/
structure Becomes (script later : Script) : Prop where
  kept : Kept script later
  declared : ∀ space, script.declared = some space → later.declared = some space

theorem Consistent.becomes (h : script.Consistent) : Becomes script script :=
  ⟨h.kept, fun _ hspace => hspace⟩

theorem Becomes.trans (h : Becomes script later) (h' : Becomes later last) : Becomes script last :=
  ⟨h.kept.trans h'.kept, fun space hspace => h'.declared space (h.declared space hspace)⟩

theorem Learnt.becomes (h : script.Learnt space later) (hspace : script.spaceIn tree = .ok space) :
    Becomes script later := by
  refine ⟨h.kept, ?_⟩
  intro known hknown
  obtain rfl : known = space := Except.ok.inj ((spaceIn_of_declared hknown tree).symm.trans hspace)
  exact h.declared

/-- A script after an action that may ask for its text: it is as it was, or has learnt what the text
says. -/
inductive Consulted (tree : Tree) (script : Script) : Script → Prop
  | untold : Consulted tree script script
  | told {space : Option String} {later : Script} (reads : script.spaceIn tree = .ok space)
      (learnt : script.Learnt space later) : Consulted tree script later

theorem consulted_writeWrapper (writer : WrapperWriter) (hscript : script.Consistent) (tree : Tree) :
    Consulted tree script (Pass.writeWrapper writer script tree).state.1 := by
  cases hspace : script.spaceIn tree with
  | error failure =>
      rw [writer.writeWrapper_of_spaceIn_eq_error hscript hspace]
      exact .untold
  | ok space =>
      obtain ⟨later, hlearnt, -, hstate⟩ := writer.writeWrapper_of_spaceIn_eq_ok hscript hspace
      rw [hstate, WrapperWriter.state_fst_deposit]
      exact .told hspace hlearnt

theorem consulted_declareScript (hscript : script.Consistent) (tree : Tree) (catalog : Catalog) :
    Consulted tree script (Pass.declareScript tree script catalog).state.1 := by
  cases hspace : script.spaceIn tree with
  | error failure =>
      rw [Pass.declareScript, hscript.plugin_eq_error hspace]
      exact .untold
  | ok space =>
      obtain ⟨later, hplugin, hlearnt⟩ := hscript.plugin_eq_ok hspace
      rw [Pass.declareScript, hplugin]
      exact @Outcome.andThen_keeps _ _ _ _
        (fun state : Script × Catalog => Consulted tree script state.1) _ _ (.told hspace hlearnt)
        fun _ _ hconsulted => hconsulted

theorem consulted_ask_plugin (hscript : script.Consistent) (tree : Tree) (state : σ) :
    Consulted tree script (ask (·.plugin tree) script state).state.1 := by
  cases hspace : script.spaceIn tree with
  | error failure =>
      rw [ask, hscript.plugin_eq_error hspace]
      exact .untold
  | ok space =>
      obtain ⟨later, hplugin, hlearnt⟩ := hscript.plugin_eq_ok hspace
      rw [ask, hplugin]
      exact .told hspace hlearnt

theorem Consulted.becomes (h : Consulted tree script later) (hscript : script.Consistent) :
    Becomes script later := by
  cases h with
  | untold => exact hscript.becomes
  | told hspace hlearnt => exact hlearnt.becomes hspace

theorem becomes_writeWrapper (writer : WrapperWriter) (hscript : script.Consistent) (tree : Tree) :
    Becomes script (Pass.writeWrapper writer script tree).state.1 :=
  (consulted_writeWrapper writer hscript tree).becomes hscript

theorem becomes_declareScript (hscript : script.Consistent) (tree : Tree) (catalog : Catalog) :
    Becomes script (Pass.declareScript tree script catalog).state.1 :=
  (consulted_declareScript hscript tree catalog).becomes hscript

theorem becomes_ask_plugin (hscript : script.Consistent) (tree : Tree) (state : σ) :
    Becomes script (ask (·.plugin tree) script state).state.1 :=
  (consulted_ask_plugin hscript tree state).becomes hscript

theorem becomes_answer (hscript : script.Consistent) (tree : Tree) (question : Question) :
    Becomes script (script.answer tree question).2 := by
  obtain ⟨hconsistent, hforget⟩ := hscript.answer tree question
  refine ⟨⟨hconsistent, hforget⟩, ?_⟩
  intro space hspace
  rw [declared_answer hscript, hspace, Option.some_or]

/-- What every action does to its script, a run does to each of its scripts: to those that have their
turn and to those that do not. -/
theorem forall₂_each {related : Script → Script → Prop}
    (hsame : ∀ script, script.Consistent → related script script)
    (hact : ∀ script state, script.Consistent → related script (act script state).state.1)
    (hscripts : ∀ script ∈ scripts, script.Consistent) (state : σ) :
    List.Forall₂ related scripts (each act scripts state).state.1 := by
  induction scripts generalizing state with
  | nil => exact .nil
  | cons script rest ih =>
      have hfirst := hact script state (hscripts script List.mem_cons_self)
      have hrest : ∀ other ∈ rest, other.Consistent := fun other hother =>
        hscripts other (List.mem_cons_of_mem _ hother)
      rw [each]
      cases hanswer : (act script state).answer with
      | error failure =>
          refine .cons hfirst (List.forall₂_same.2 ?_)
          exact fun other hother => hsame other (hrest other hother)
      | ok answer => exact .cons hfirst (ih hrest _)

theorem forall₂_kept (h : ∀ script ∈ scripts, script.Consistent) :
    List.Forall₂ Kept scripts scripts := by
  rw [List.forall₂_same]
  exact fun script hscript => (h script hscript).kept

theorem forall₂_kept_each (hact : ∀ script state, script.Consistent →
    Becomes script (act script state).state.1) (hscripts : ∀ script ∈ scripts, script.Consistent)
    (state : σ) : List.Forall₂ Kept scripts (each act scripts state).state.1 :=
  forall₂_each (fun _ => Consistent.kept) (fun script state hscript => (hact script state hscript).kept)
    hscripts state

theorem map_path_of_forall₂_kept {laters : List Script} (h : List.Forall₂ Kept scripts laters) :
    laters.map path = scripts.map path := by
  induction h with
  | nil => rfl
  | cons hkept _ ih => rw [List.map_cons, List.map_cons, hkept.path, ih]

theorem consistent_of_forall₂_kept {laters : List Script}
    (h : List.Forall₂ Kept scripts laters) : ∀ later ∈ laters, later.Consistent := by
  intro later hlater
  obtain ⟨script, -, hkept⟩ := exists_of_forall₂ h hlater
  exact hkept.consistent

theorem forall₂_trans {related : Script → Script → Prop}
    (htrans : ∀ script later last, related script later → related later last → related script last)
    {laters lasts : List Script} (h : List.Forall₂ related scripts laters)
    (h' : List.Forall₂ related laters lasts) : List.Forall₂ related scripts lasts := by
  induction h generalizing lasts with
  | nil => exact h'
  | cons hrelated _ ih =>
      cases h' with
      | cons hrelated' hrest => exact .cons (htrans _ _ _ hrelated hrelated') (ih hrest)

end Script

namespace Pass

variable {pass : Pass} {scripts : List Script} {tree : Tree}

/-- The passes that there can be. -/
inductive Reached : Pass → Prop where
  | new (layout : Layout) (host : Host) (source : ScriptSource) :
      Reached (.new layout host source)
  | find {pass : Pass} (h : Reached pass) (tree : Tree) : Reached (pass.find tree).state
  | asked {pass : Pass} (h : Reached pass) {front back : List Script} {script : Script}
      (hfound : pass.scripts = some (front ++ script :: back)) (tree : Tree)
      (question : Script.Question) :
      Reached { pass with scripts := some (front ++ (script.answer tree question).2 :: back) }
  | plugins {pass : Pass} (h : Reached pass) (tree : Tree) : Reached (pass.plugins tree).state
  | wrapperPaths {pass : Pass} (h : Reached pass) (tree : Tree) :
      Reached (pass.wrapperPaths tree).state
  | configure {pass : Pass} (h : Reached pass) (schedule : Schedule) (compiler : Compiler)
      (tree : Tree) : Reached (pass.configure schedule compiler tree).state.1
  | finalize {pass : Pass} (h : Reached pass) (compiler : Compiler) :
      Reached (pass.finalize compiler).state.1
  | generate {pass : Pass} (h : Reached pass) (tree : Tree) : Reached (pass.generate tree).state.1
  | declare {pass : Pass} (h : Reached pass) (catalog : Catalog) (tree : Tree) :
      Reached (pass.declare catalog tree).state.1
  | execute {pass : Pass} (h : Reached pass) (task : String) (catalog : Catalog) (tree : Tree) :
      Reached (pass.execute task catalog tree).state.1

/-- What a pass keeps are the scripts of the paths that its source has answered. -/
def Sound (pass : Pass) : Prop :=
  ∀ scripts, pass.scripts = some scripts → ∃ search seen paths,
    (pass.source search pass.layout.sourceRoot pass.layout.scriptPattern seen).1 = .ok paths ∧
      List.Forall₂ Script.Kept (paths.map pass.layout.scriptAt) scripts

theorem sound_new (layout : Layout) (host : Host) (source : ScriptSource) :
    (new layout host source).Sound :=
  nofun

theorem Sound.consistent (h : pass.Sound) (hfound : pass.scripts = some scripts) :
    ∀ script ∈ scripts, script.Consistent := by
  obtain ⟨-, -, paths, -, hkept⟩ := h scripts hfound
  exact Script.consistent_of_forall₂_kept hkept

theorem Sound.paths (h : pass.Sound) (hfound : pass.scripts = some scripts) :
    ∃ search seen, (pass.source search pass.layout.sourceRoot pass.layout.scriptPattern seen).1 =
      .ok (scripts.map Script.path) := by
  obtain ⟨search, seen, paths, hpaths, hkept⟩ := h scripts hfound
  have hsame : (paths.map pass.layout.scriptAt).map Script.path = paths := by
    rw [List.map_map]
    exact List.map_id paths
  rw [Script.map_path_of_forall₂_kept hkept, hsame]
  exact ⟨search, seen, hpaths⟩

theorem Sound.kept (h : pass.Sound) (hfound : pass.scripts = some scripts) :
    ∀ script ∈ scripts, Script.Kept (pass.layout.scriptAt script.path) script := by
  obtain ⟨-, -, paths, -, hkept⟩ := h scripts hfound
  intro script hscript
  obtain ⟨source, hsource, hlater⟩ := Script.exists_of_forall₂ hkept hscript
  obtain ⟨path, -, rfl⟩ := List.mem_map.1 hsource
  have hpath : script.path = path := hlater.path
  rwa [hpath]

/-- Scripts that have learnt more are as good as those that were discovered. -/
theorem Sound.of_kept (h : pass.Sound) {laters : List Script} (hfound : pass.scripts = some scripts)
    (hlaters : List.Forall₂ Script.Kept scripts laters) :
    Sound { pass with scripts := some laters } := by
  obtain ⟨search, seen, paths, hpaths, hkept⟩ := h scripts hfound
  rintro _ ⟨⟩
  exact ⟨search, seen, paths, hpaths, Script.forall₂_trans (fun _ _ _ h h' => h.trans h') hkept hlaters⟩

theorem Sound.find (h : pass.Sound) (tree : Tree) : (pass.find tree).state.Sound := by
  cases hfound : pass.scripts with
  | some scripts =>
      rw [find_of_scripts hfound]
      exact h
  | none =>
      rw [find_of_unfound hfound]
      rcases hanswer : pass.source pass.searches pass.layout.sourceRoot pass.layout.scriptPattern tree
        with ⟨answer, events⟩
      cases answer with
      | error failure =>
          intro scripts hscripts
          exact h scripts hscripts
      | ok paths =>
          rintro _ ⟨⟩
          refine ⟨pass.searches, tree, paths, congrArg Prod.fst hanswer, Script.forall₂_kept ?_⟩
          intro script hscript
          obtain ⟨path, -, rfl⟩ := List.mem_map.1 hscript
          exact pass.layout.consistent_scriptAt path

theorem scripts_find (h : (pass.find tree).answer = .ok scripts) :
    (pass.find tree).state.scripts = some scripts := by
  cases hfound : pass.scripts with
  | some found =>
      rw [find_of_scripts hfound] at h ⊢
      obtain rfl := Except.ok.inj h
      exact hfound
  | none => rw [state_find hfound h]

theorem Sound.each {σ α : Type} {act : Script → σ → Outcome (Script × σ) Failure α}
    (h : pass.Sound) (hact : ∀ script state, script.Consistent →
      Script.Becomes script (act script state).state.1) (tree : Tree) (state : σ) :
    (pass.each act tree state).state.1.Sound := by
  have hfind := h.find tree
  rw [Pass.each]
  cases hanswer : ((pass.find tree).onState (·, state)).answer with
  | error failure =>
      rw [(Outcome.andThen_of_error hanswer).2]
      exact hfind
  | ok scripts =>
      have hscripts := scripts_find hanswer
      rw [(Outcome.andThen_of_ok hanswer).2]
      exact hfind.of_kept hscripts
        (Script.forall₂_kept_each hact (hfind.consistent hscripts) state)

theorem Sound.congr {later : Pass} (h : pass.Sound) (hlayout : later.layout = pass.layout)
    (hsource : later.source = pass.source) (hscripts : later.scripts = pass.scripts) :
    later.Sound := by
  intro scripts hfound
  rw [hlayout, hsource]
  exact h scripts (hscripts.symm.trans hfound)

theorem Sound.asked (h : pass.Sound) {front back : List Script} {script : Script}
    (hfound : pass.scripts = some (front ++ script :: back)) (tree : Tree)
    (question : Script.Question) :
    Sound { pass with scripts := some (front ++ (script.answer tree question).2 :: back) } := by
  have hconsistent := h.consistent hfound
  have hscript : script.Consistent :=
    hconsistent script (List.mem_append_right _ List.mem_cons_self)
  obtain ⟨hlater, hforget⟩ := hscript.answer tree question
  refine h.of_kept hfound (List.rel_append ?_ (.cons ⟨hlater, hforget⟩ ?_))
  · exact Script.forall₂_kept fun other hother =>
      hconsistent other (List.mem_append_left _ hother)
  · exact Script.forall₂_kept fun other hother =>
      hconsistent other (List.mem_append_right _ (List.mem_cons_of_mem _ hother))

theorem Sound.plugins (h : pass.Sound) (tree : Tree) : (pass.plugins tree).state.Sound :=
  h.each (fun _ state hscript => Script.becomes_ask_plugin hscript tree state) tree ()

theorem Sound.wrapperPaths (h : pass.Sound) (tree : Tree) :
    (pass.wrapperPaths tree).state.Sound :=
  Outcome.andThen_keeps (h.find tree) fun _ _ hpass => hpass

/-- An action that goes on after another leaves a sound pass if both do. -/
theorem sound_andThen {σ α β : Type} {outcome : Outcome (Pass × σ) Failure α}
    {next : α → Pass × σ → Outcome (Pass × σ) Failure β} (h : outcome.state.1.Sound)
    (hnext : ∀ a state, state.1.Sound → (next a state).state.1.Sound) :
    (outcome.andThen next).state.1.Sound :=
  @Outcome.andThen_keeps _ _ _ _ (fun state : Pass × σ => state.1.Sound) _ _ h hnext

theorem Sound.configure (h : pass.Sound) (schedule : Schedule) (compiler : Compiler)
    (tree : Tree) : (pass.configure schedule compiler tree).state.1.Sound := by
  rw [Pass.configure]
  by_cases hphase : pass.phase ≠ .created
  · rw [if_pos hphase]
    exact h
  · rw [if_neg hphase]
    refine sound_andThen (h.find tree) ?_
    rintro scripts ⟨found, schedule, compiler⟩ hfound
    cases hobjection : objection? found.layout scripts schedule with
    | some failure =>
        simp only [hobjection]
        exact hfound
    | none =>
        simp only [hobjection]
        refine sound_andThen hfound ?_
        intro _ state hstate
        exact hstate.congr rfl rfl rfl

theorem Sound.finalize (h : pass.Sound) (compiler : Compiler) :
    (pass.finalize compiler).state.1.Sound := by
  rw [Pass.finalize]
  cases pass.phase with
  | created => exact h
  | finalized => exact h
  | configured => exact h.congr rfl rfl rfl

theorem Sound.generate (h : pass.Sound) (tree : Tree) : (pass.generate tree).state.1.Sound := by
  refine sound_andThen (h.find tree) ?_
  intro _ state hfound
  refine sound_andThen hfound ?_
  rintro _ ⟨cleared, tree⟩ hcleared
  have heach : (cleared.each (writeWrapper cleared.writer) tree tree).state.1.Sound :=
    hcleared.each (fun _ tree hscript => Script.becomes_writeWrapper _ hscript tree) tree tree
  exact sound_andThen heach fun _ _ hlater => hlater

theorem Sound.declare (h : pass.Sound) (catalog : Catalog) (tree : Tree) :
    (pass.declare catalog tree).state.1.Sound := by
  have heach : (pass.each (declareScript tree) tree catalog).state.1.Sound :=
    h.each (fun _ catalog hscript => Script.becomes_declareScript hscript tree catalog) tree catalog
  exact sound_andThen heach fun _ _ hlater => hlater

theorem Sound.execute (h : pass.Sound) (task : String) (catalog : Catalog) (tree : Tree) :
    (pass.execute task catalog tree).state.1.Sound := by
  rw [Pass.execute]
  by_cases hgenerate : task = pass.layout.tasks.generate
  · rw [if_pos hgenerate]
    exact sound_andThen (h.generate tree) fun _ _ hlater => hlater
  · rw [if_neg hgenerate]
    by_cases hdeclare : task = pass.layout.tasks.declare
    · rw [if_pos hdeclare]
      exact sound_andThen (h.declare catalog tree) fun _ _ hlater => hlater
    · rw [if_neg hdeclare]
      exact h

/-- Whatever has been done with a pass, its scripts are those that a search has answered. -/
theorem Reached.sound (h : pass.Reached) : pass.Sound := by
  induction h with
  | new layout host source => exact sound_new layout host source
  | find _ tree ih => exact ih.find tree
  | asked _ hfound tree question ih => exact ih.asked hfound tree question
  | plugins _ tree ih => exact ih.plugins tree
  | wrapperPaths _ tree ih => exact ih.wrapperPaths tree
  | configure _ schedule compiler tree ih => exact ih.configure schedule compiler tree
  | finalize _ compiler ih => exact ih.finalize compiler
  | generate _ tree ih => exact ih.generate tree
  | declare _ catalog tree ih => exact ih.declare catalog tree
  | execute _ task catalog tree ih => exact ih.execute task catalog tree

end Pass

end ScriptPlugins
