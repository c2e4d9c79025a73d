import ScriptPlugins.Plugins.Listing
import ScriptPlugins.Proofs.Plugins.Discovery
import ScriptPlugins.Proofs.Plugins.Publishing
import ScriptPlugins.Proofs.Plugins.Wiring
import ScriptPlugins.Proofs.Plugins.Wrapping

/-!
# The tasks of a pass

The scripts of a pass are found before its tasks run, and from then on every task goes through the
same list. Generating reads the scripts in trees that it changes itself, listing reads them in a tree
that nothing changes. Still both come to the same plugins, because the scripts are found where
generating does not write.
-/

namespace ScriptPlugins

open Text

namespace Layout

variable {layout : Layout} {tree later : Tree} {path : Path} {space : Option String}

theorem consistent_scriptAt (layout : Layout) (path : Path) : (layout.scriptAt path).Consistent :=
  (Script.consistent_ofPath path layout.scriptSuffix).withKeywords layout.namespaceKeywords

theorem spaceIn_scriptAt_eq_ok_iff :
    (layout.scriptAt path).spaceIn tree = .ok space ↔ ∃ text, tree.readText path = .ok text ∧
      Namespace.declaredIn text layout.namespaceKeywords = space := by
  have hpath : (layout.scriptAt path).path = path := rfl
  have htext : (layout.scriptAt path).text = none := rfl
  have hdeclared : (layout.scriptAt path).declared = none := rfl
  have hkeywords : (layout.scriptAt path).keywords = layout.namespaceKeywords := rfl
  rw [Script.spaceIn, hdeclared, Script.load, htext, hpath, hkeywords]
  cases hread : tree.readText path with
  | error fault => simp [Except.map]
  | ok text => simp [Except.map]

/-- A pattern finds the same scripts in a tree every time. -/
def Discovers (layout : Layout) (tree : Tree) (scripts : List Script) : Prop :=
  ∃ paths, (Discovery.find tree layout.sourceRoot layout.scriptPattern).1 = .ok paths ∧
    scripts = paths.map layout.scriptAt

theorem Discovers.consistent {scripts : List Script} (h : layout.Discovers tree scripts) :
    ∀ script ∈ scripts, script.Consistent := by
  obtain ⟨paths, -, rfl⟩ := h
  intro script hscript
  obtain ⟨path, -, rfl⟩ := List.mem_map.1 hscript
  exact layout.consistent_scriptAt path

theorem Discovers.unique {scripts others : List Script} (h : layout.Discovers tree scripts)
    (h' : layout.Discovers tree others) : scripts = others := by
  obtain ⟨paths, hpaths, rfl⟩ := h
  obtain ⟨found, hfound, rfl⟩ := h'
  rw [Except.ok.inj (hpaths.symm.trans hfound)]

/-- Scripts can only be found in a root that is there. -/
theorem Discovers.leads {scripts : List Script} (h : layout.Discovers tree scripts)
    (hfree : tree.LinkFree) (hne : scripts ≠ []) : tree.Leads layout.sourceRoot := by
  obtain ⟨paths, hpaths, rfl⟩ := h
  obtain ⟨path, hpath⟩ := List.exists_mem_of_ne_nil paths fun hnil => hne (by rw [hnil]; rfl)
  obtain ⟨name, hname⟩ := Discovery.mem_candidates_of_find hpaths hpath
  rw [Discovery.candidates] at hname
  cases hfind : tree.find layout.sourceRoot with
  | error fault => simp [hfind] at hname
  | ok found => exact (hfree.find_eq_ok_iff.1 hfind).1

/-- What a discovered script declares later, it declared when it was discovered, if nothing has
happened at the source root or below. -/
theorem Discovers.spaceIn_of_frame {scripts : List Script} {script : Script}
    {region : Location → Prop} (h : layout.Discovers tree scripts) (hscript : script ∈ scripts)
    (hwell : tree.WellFormed) (hfree : tree.LinkFree) (hframe : Tree.Frame region tree later)
    (hout : ∀ location, tree.place layout.sourceRoot <+: location → ¬ region location)
    (hspace : script.spaceIn later = .ok space) : script.spaceIn tree = .ok space := by
  obtain ⟨paths, hpaths, rfl⟩ := h
  obtain ⟨path, hpath, rfl⟩ := List.mem_map.1 hscript
  obtain ⟨name, hname⟩ := Discovery.mem_candidates_of_find hpaths hpath
  obtain ⟨names, contents, rfl, hholds⟩ :=
    Discovery.holds_of_mem_candidates hfree hwell hname
  obtain ⟨text, hread, hdeclared⟩ := spaceIn_scriptAt_eq_ok_iff.1 hspace
  refine spaceIn_scriptAt_eq_ok_iff.2 ⟨text, ?_, hdeclared⟩
  exact hholds.readText_of_frame hwell hfree hframe (hout _ (List.prefix_append _ _)) hread

end Layout

namespace Listing

variable {project : Path} {tree : Tree} {script : Script} {scripts : List Script}
  {plugins : List Plugin} {space : Option String}

def Entry.plugin (entry : Entry) : Plugin :=
  ⟨entry.id, entry.implementationClass⟩

theorem entryOf_eq_ok (project : Path) (hscript : script.Consistent)
    (hspace : script.spaceIn tree = .ok space) : ∃ entry later,
      entryOf project tree script = .ok (entry, later) ∧ entry.plugin = script.pluginIn space := by
  obtain ⟨named, hid, hnamed⟩ := hscript.id_eq_ok hspace
  obtain ⟨later, htype, hlater⟩ := hnamed.consistent.compiledType_eq_ok (hnamed.spaceIn tree)
  have hclass := hlater.consistent.wrapperClass_eq
  rw [(Script.forget_eq_iff.1 (hnamed.trans hlater).forget).2.2.1] at hclass
  refine ⟨⟨Script.qualify space script.stem, Naming.wrapperClass script.stem,
    Script.qualify space (Naming.compiledClass named.fileName),
    ((later.path.below? project).getD later.path).display⟩, later, ?_, rfl⟩
  simp only [entryOf, hid, htype, hclass, bind, Except.bind, pure, Except.pure]

/-- The entries of all scripts show the plugins that the scripts mean. -/
theorem each_entryOf (project : Path) (hscripts : ∀ script ∈ scripts, script.Consistent)
    (hmeans : List.Forall₂ (Script.Means tree) scripts plugins) : ∃ entries,
      (Script.each (Script.ask (entryOf project tree)) scripts ()).answer = .ok entries ∧
        entries.map Entry.plugin = plugins := by
  induction hmeans with
  | nil => exact ⟨[], rfl, rfl⟩
  | cons hmeans _ ih =>
      obtain ⟨space, hspace, rfl⟩ := hmeans
      obtain ⟨entry, later, hentry, hplugin⟩ :=
        entryOf_eq_ok project (hscripts _ List.mem_cons_self) hspace
      obtain ⟨entries, hentries, hplugins⟩ :=
        ih fun other hother => hscripts other (List.mem_cons_of_mem _ hother)
      refine ⟨entry :: entries, Script.each_cons_eq_ok_iff.2 ⟨entry, entries, ?_, ?_, rfl⟩, ?_⟩
      · rw [Script.ask, hentry]
        rfl
      · exact hentries
      · rw [List.map_cons, hplugin, hplugins]

end Listing

namespace Pass

variable {pass later : Pass} {scripts : List Script} {tree after : Tree}
  {catalog registered : Catalog} {paths : List Path} {count : Nat} {plugins : List Plugin}
  {taken : Bool}

theorem find_of_unfound (hunfound : pass.scripts = none) (tree : Tree) :
    pass.find tree =
      match pass.source pass.searches pass.layout.sourceRoot pass.layout.scriptPattern tree with
      | (.error failure, events) =>
        .error failure { pass with searches := pass.searches + 1 } events
      | (.ok paths, events) =>
        .ok (paths.map pass.layout.scriptAt)
          { pass with
              searches := pass.searches + 1
              scripts := some (paths.map pass.layout.scriptAt) }
          (events ++ [event .info "Discovered script plugins"]) := by
  cases hfound : pass.source pass.searches pass.layout.sourceRoot pass.layout.scriptPattern tree with
  | mk answer events =>
      simp only [find, hunfound, hfound]
      cases answer <;> rfl

/-- A pass that has not looked for scripts finds what its layout discovers. -/
theorem find_eq_ok_iff (hunfound : pass.scripts = none) (hsource : pass.source = .files) :
    (pass.find tree).answer = .ok scripts ↔ pass.layout.Discovers tree scripts := by
  have hfiles : pass.source pass.searches pass.layout.sourceRoot pass.layout.scriptPattern tree =
      Discovery.find tree pass.layout.sourceRoot pass.layout.scriptPattern := by
    rw [hsource]
    rfl
  rw [find_of_unfound hunfound, hfiles, Layout.Discovers]
  cases Discovery.find tree pass.layout.sourceRoot pass.layout.scriptPattern with
  | mk answer events =>
      cases answer with
      | error failure => simp
      | ok paths => simp [eq_comm]

theorem state_find (hunfound : pass.scripts = none) (h : (pass.find tree).answer = .ok scripts) :
    (pass.find tree).state =
      { pass with searches := pass.searches + 1, scripts := some scripts } := by
  rw [find_of_unfound hunfound] at h ⊢
  generalize pass.source pass.searches pass.layout.sourceRoot pass.layout.scriptPattern tree = found
    at h ⊢
  obtain ⟨answer, events⟩ := found
  cases answer with
  | error failure => cases h
  | ok paths =>
      obtain rfl := Except.ok.inj h
      rfl

theorem find_of_scripts (hfound : pass.scripts = some scripts) (tree : Tree) :
    pass.find tree = .ok scripts pass [] := by
  rw [find, hfound]

theorem answer_find_of_scripts (hfound : pass.scripts = some scripts) (tree : Tree) :
    (pass.find tree).answer = .ok scripts := by
  rw [find_of_scripts hfound]
  rfl

theorem each_of_find {σ α : Type} (hfind : (pass.find tree).answer = .ok scripts)
    (act : Script → σ → Outcome (Script × σ) Failure α) (state : σ) :
    (pass.each act tree state).answer = (Script.each act scripts state).answer ∧
      (pass.each act tree state).state =
        ({ (pass.find tree).state with scripts := some (Script.each act scripts state).state.1 },
          (Script.each act scripts state).state.2) := by
  have hanswer : ((pass.find tree).onState (·, state)).answer = .ok scripts := hfind
  rw [each]
  exact Outcome.andThen_of_ok hanswer

/-- Declaring is a run over the scripts, and tells how many there are. -/
theorem declare_of_find (hfind : (pass.find tree).answer = .ok scripts) (catalog : Catalog) :
    let run := Script.each (declareScript tree) scripts catalog
    (pass.declare catalog tree).answer = run.answer.map List.length ∧
      (pass.declare catalog tree).state =
        ({ (pass.find tree).state with scripts := some run.state.1 }, run.state.2) := by
  obtain ⟨hanswer, hstate⟩ := each_of_find hfind (declareScript tree) catalog
  obtain ⟨hdeclared, hafter⟩ := (pass.each (declareScript tree) tree catalog).andThen_ok
    List.length [event .info "Declared script plugins"]
  exact ⟨hdeclared.trans (congrArg _ hanswer), hafter.trans hstate⟩

theorem each_of_scripts {σ α : Type} (hfound : pass.scripts = some scripts)
    (act : Script → σ → Outcome (Script × σ) Failure α) (tree : Tree) (state : σ) :
    (pass.each act tree state).answer = (Script.each act scripts state).answer ∧
      (pass.each act tree state).state =
        ({ pass with scripts := some (Script.each act scripts state).state.1 },
          (Script.each act scripts state).state.2) := by
  obtain ⟨hanswer, hstate⟩ := each_of_find (answer_find_of_scripts hfound tree) act state
  rw [find_of_scripts hfound] at hstate
  exact ⟨hanswer, hstate⟩

theorem declare_of_scripts (hfound : pass.scripts = some scripts) (catalog : Catalog)
    (tree : Tree) :
    let run := Script.each (declareScript tree) scripts catalog
    (pass.declare catalog tree).answer = run.answer.map List.length ∧
      (pass.declare catalog tree).state =
        ({ pass with scripts := some run.state.1 }, run.state.2) := by
  obtain ⟨hanswer, hstate⟩ := declare_of_find (answer_find_of_scripts hfound tree) catalog
  rw [find_of_scripts hfound] at hstate
  exact ⟨hanswer, hstate⟩

theorem generate_yields (hfound : pass.scripts = some scripts)
    (h : (pass.generate tree).Yields paths (later, after)) :
    ∃ cleaned, (pass.writer.clean tree).Yields () cleaned ∧
      (Script.each (writeWrapper pass.writer) scripts cleaned).answer = .ok paths ∧
      later = { pass with
        scripts := some (Script.each (writeWrapper pass.writer) scripts cleaned).state.1 } ∧
      after = (Script.each (writeWrapper pass.writer) scripts cleaned).state.2 := by
  rw [generate, find_of_scripts hfound] at h
  obtain ⟨found, state, hfind, h⟩ := Outcome.yields_andThen_iff.1 h
  obtain rfl := hfind.state
  obtain ⟨_, state, hstep, h⟩ := Outcome.yields_andThen_iff.1 h
  obtain ⟨cleaned, hclean, rfl⟩ := Outcome.yields_onState_iff.1 hstep
  obtain ⟨written, state, heach, hlast⟩ := Outcome.yields_andThen_iff.1 h
  obtain ⟨hanswer, hstate⟩ := each_of_scripts hfound (writeWrapper pass.writer) cleaned cleaned
  obtain ⟨rfl, rfl⟩ := Prod.mk.inj (hstate.symm.trans (heach.state.trans hlast.state))
  obtain rfl := Except.ok.inj hlast.answer
  exact ⟨cleaned, hclean, hanswer.symm.trans heach.answer, rfl, rfl⟩

theorem declare_yields (hfound : pass.scripts = some scripts)
    (h : (pass.declare catalog tree).Yields count (later, registered)) :
    (∃ done, (Script.each (declareScript tree) scripts catalog).answer = .ok done) ∧
      later = { pass with
        scripts := some (Script.each (declareScript tree) scripts catalog).state.1 } ∧
      registered = (Script.each (declareScript tree) scripts catalog).state.2 := by
  obtain ⟨done, state, heach, hlast⟩ := Outcome.yields_andThen_iff.1 h
  obtain ⟨hanswer, hstate⟩ := each_of_scripts hfound (declareScript tree) tree catalog
  obtain ⟨rfl, rfl⟩ := Prod.mk.inj (hstate.symm.trans (heach.state.trans hlast.state))
  exact ⟨⟨done, hanswer.symm.trans heach.answer⟩, rfl, rfl⟩

theorem execute_of_ne {task : String} (hgenerate : task ≠ pass.layout.tasks.generate)
    (hdeclare : task ≠ pass.layout.tasks.declare) (catalog : Catalog) (tree : Tree) :
    pass.execute task catalog tree = .ok false (pass, catalog, tree) [] := by
  rw [execute, if_neg hgenerate, if_neg hdeclare]

structure Generated (writer : WrapperWriter) (scripts laters : List Script) (before after : Tree) :
    Prop where
  frame : Tree.Frame (before.place writer.directory <+: ·) before after
  learnt : List.Forall₂ (fun script later => ∃ seen space,
    Tree.Frame (before.place writer.directory <+: ·) before seen ∧
      script.spaceIn seen = .ok space ∧ script.Learnt space later) scripts laters
  wrapper : ∀ script ∈ scripts, ∃ contents, after.find (writer.pathOf script) =
    .ok (before.place writer.directory ++ [writer.nameOf script], .file contents)

theorem generated_of_yields (hfound : pass.scripts = some scripts) (hfree : tree.LinkFree)
    (hscripts : ∀ script ∈ scripts, pass.writer.Wraps script)
    (h : (pass.generate tree).Yields paths (later, after)) :
    ∃ laters, later = { pass with scripts := some laters } ∧
      Generated pass.writer scripts laters tree after := by
  obtain ⟨cleaned, hcleaned, hanswer, rfl, rfl⟩ := generate_yields hfound h
  have hclean := pass.writer.frame_clean hfree
  rw [hcleaned.state] at hclean
  have hcleanedFree := hclean.linkFree hfree
  have hframe := WrapperWriter.frame_each hcleanedFree hscripts
  have hlearnt := WrapperWriter.learnt_each hcleanedFree hscripts hanswer
  have hwrapper := WrapperWriter.find_each hcleanedFree hscripts hanswer
  rw [hclean.place] at hframe hlearnt hwrapper
  refine ⟨_, rfl, hclean.trans hframe, hlearnt.imp ?_, hwrapper⟩
  rintro script later ⟨seen, space, hseen, hspace, hlater⟩
  exact ⟨seen, space, hclean.trans hseen, hspace, hlater⟩

theorem Generated.consistent {writer : WrapperWriter} {laters : List Script} {before after : Tree}
    (h : Generated writer scripts laters before after) : ∀ later ∈ laters, later.Consistent := by
  intro later hlater
  obtain ⟨script, -, seen, space, -, -, hlearnt⟩ := Script.exists_of_forall₂ h.learnt hlater
  exact hlearnt.consistent

/-- What scripts mean after generating, whatever happens to the tree then, they meant when they were
discovered. -/
theorem Generated.means {writer : WrapperWriter} {layout : Layout} {laters : List Script}
    {before after last : Tree} (h : Generated writer scripts laters before after)
    (hdiscovers : layout.Discovers before scripts) (hwell : before.WellFormed)
    (hfree : before.LinkFree)
    (hout : ∀ location, before.place layout.sourceRoot <+: location →
      ¬ before.place writer.directory <+: location)
    (hmeans : List.Forall₂ (Script.Means last) laters plugins) :
    List.Forall₂ (Script.Means before) scripts plugins := by
  have hspace : ∀ script ∈ scripts, ∀ seen,
      Tree.Frame (before.place writer.directory <+: ·) before seen →
        ∀ space, script.spaceIn seen = .ok space → script.spaceIn before = .ok space :=
    fun script hscript seen hseen space =>
      hdiscovers.spaceIn_of_frame hscript hwell hfree hseen hout
  have hlearnt := h.learnt
  clear h hdiscovers
  induction hlearnt generalizing plugins with
  | nil =>
      cases hmeans
      exact .nil
  | cons hfirst _ ih =>
      obtain ⟨seen, space, hseen, hfound, hlearnt⟩ := hfirst
      cases hmeans with
      | cons hmeans hrest =>
          refine .cons ⟨space, ?_, hlearnt.means hmeans⟩ ?_
          · exact hspace _ List.mem_cons_self seen hseen space hfound
          · exact ih hrest fun other hother => hspace other (List.mem_cons_of_mem _ hother)

end Pass

end ScriptPlugins
