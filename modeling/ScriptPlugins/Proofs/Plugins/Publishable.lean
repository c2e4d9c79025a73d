import ScriptPlugins.Proofs.Plugins.Continuing
import ScriptPlugins.Proofs.Source.Provenance

/-!
# Ids that name files

The catalog refuses an id that cannot name a file, and nobody who makes ids asks it. What makes them
fit is checked elsewhere: configuring accepts a script only for the name of its class, and no character
that leads out of a directory gets lost between the stem and the class. The namespace in front of the
stem is made of parts of identifiers and dots, unless it is quoted.

The second half follows the scripts of a pass through its operations, so that every id that it
declares is known to be such an id.
-/

namespace ScriptPlugins

open Text Grammar

theorem Grammar.Spelled.plain {text : List Char} (h : Spelled text) (htick : '`' ∉ text) :
    ∀ c ∈ text, Identifier.isPart c = true ∨ c = '.' := by
  induction h with
  | nil => nofun
  | char hchar _ ih =>
      intro c hc
      rcases List.mem_cons.1 hc with rfl | hc
      · exact hchar
      · exact ih (fun hmem => htick (List.mem_cons_of_mem _ hmem)) c hc
  | quoted => exact absurd List.mem_cons_self htick

theorem Lexer.spelled_of_mem_drawAll {lexer : Lexer} {token : Token}
    (h : token ∈ lexer.drawAll.1) (hname : token.isNamePart = true) : Spelled token.text := by
  induction hlength : lexer.rest.length using Nat.strongRecOn generalizing lexer with
  | ind length ih =>
      subst hlength
      obtain ⟨position, rest⟩ := lexer
      cases rest with
      | nil =>
          rw [drawAll_nil] at h
          cases h
      | cons c more =>
          rcases hcut : Token.cut (position == 0) c more with ⟨kind, text, after⟩
          rw [drawAll_cons hcut] at h
          rcases List.mem_cons.1 h with rfl | h
          · exact (Token.spelled_of_cut hcut hname).1
          · exact ih _ (length_rest_lt (next?_cons hcut)) h rfl

theorem Namespace.spelled_of_declaredIn {source name : String} {keywords : List String}
    (h : declaredIn source keywords = some name) : Spelled name.toList := by
  obtain ⟨first, found, hfound, -, hname⟩ := declaredIn_eq_some h
  have htokens : ∀ token ∈ (found.dropWhile Token.isTrivia).takeWhile Token.isNamePart,
      Spelled token.text := by
    intro token htoken
    have hmem : token ∈ found := List.dropWhile_subset _ (List.takeWhile_subset _ htoken)
    have hsignificant : token ∈ (Lexer.ofList source.toList).significant := by
      rw [hfound]
      exact List.mem_cons_of_mem _ hmem
    exact Lexer.spelled_of_mem_drawAll (List.dropWhile_subset Token.isTrivia hsignificant)
      (List.mem_takeWhile_imp htoken)
  rw [hname]
  generalize (found.dropWhile Token.isTrivia).takeWhile Token.isNamePart = parts at htokens
  clear hname hfound h
  induction parts with
  | nil => exact .nil
  | cons token rest ih =>
      rw [List.flatMap_cons]
      refine (htokens token List.mem_cons_self).append (ih ?_)
      exact fun other hother => htokens other (List.mem_cons_of_mem _ hother)

namespace Catalog

theorem isPublishable_iff {id : String} : isPublishable id = true ↔
    id ≠ "" ∧ id ≠ "." ∧ id ≠ ".." ∧ '/' ∉ id.toList ∧ '\\' ∉ id.toList := by
  simp [isPublishable, and_assoc]

/-- No namespace, or one that is written without quotes. -/
def Unquoted (space : Option String) : Prop :=
  ∀ name, space = some name → '`' ∉ name.toList

/-- The id of a script that configuring accepts names a file. -/
theorem isPublishable_qualify {stem : String} {space : Option String}
    (hclass : Identifier.isTypeName (Naming.wrapperClass stem) = true)
    (hspace : ∀ name, space = some name →
      ∀ c ∈ name.toList, Identifier.isPart c = true ∨ c = '.') :
    isPublishable (Script.qualify space stem) = true := by
  have hslash : '/' ∉ stem.toList :=
    Naming.notMem_stem hclass (by decide) (by decide) (by decide) (by decide)
  have hbackslash : '\\' ∉ stem.toList :=
    Naming.notMem_stem hclass (by decide) (by decide) (by decide) (by decide)
  have hodd : ∀ odd ∈ ["", ".", ".."], stem ≠ odd := by
    intro odd hmem hstem
    have hrefused : ∀ odd ∈ ["", ".", ".."],
        Identifier.isTypeName (Naming.wrapperClass odd) = false := by
      decide +kernel
    rw [hstem, hrefused odd hmem] at hclass
    cases hclass
  rw [isPublishable_iff]
  cases space with
  | none => exact ⟨hodd _ (by simp), hodd _ (by simp), hodd _ (by simp), hslash, hbackslash⟩
  | some name =>
      have htext : (Script.qualify (some name) stem).toList =
          name.toList ++ '.' :: stem.toList := by
        simp [Script.qualify]
      have hname : ∀ c, Identifier.isPart c = false → c ≠ '.' → c ∉ name.toList := by
        intro c hpart hdot hmem
        rcases hspace name rfl c hmem with hc | hc
        · rw [hpart] at hc
          cases hc
        · exact hdot hc
      have hne : stem.toList ≠ [] := fun hnil => hodd "" (by simp) (String.toList_inj.1 hnil)
      have hlength := congrArg List.length htext
      rw [List.length_append, List.length_cons] at hlength
      have hpositive := List.length_pos_iff.2 hne
      have hlong : ∀ odd : String, odd.toList.length ≤ 1 → Script.qualify (some name) stem ≠ odd := by
        rintro odd hshort rfl
        omega
      refine ⟨hlong "" (by decide), hlong "." (by decide), ?_, ?_, ?_⟩
      · intro hdots
        rw [hdots] at htext hlength
        have hlengths : name.toList.length = 0 ∧ stem.toList.length = 1 := by
          change 2 = _ at hlength
          omega
        rw [List.length_eq_zero_iff.1 hlengths.1] at htext
        exact hodd "." (by simp) (String.toList_inj.1 (List.cons.inj htext).2.symm)
      · rw [htext, List.mem_append, List.mem_cons]
        simp [hslash, hname '/' (by decide) (by decide)]
      · rw [htext, List.mem_append, List.mem_cons]
        simp [hbackslash, hname '\\' (by decide) (by decide)]

end Catalog

namespace Script

variable {script later : Script} {tree : Tree} {space : Option String}

/-- What the script is known to declare is declared by some text. -/
def Sourced (script : Script) : Prop :=
  ∀ space, script.declared = some space →
    ∃ text, Namespace.declaredIn text script.keywords = space

theorem Sourced.of_spaceIn (h : script.Sourced) (hspace : script.spaceIn tree = .ok space) :
    ∃ text, Namespace.declaredIn text script.keywords = space := by
  rw [spaceIn] at hspace
  cases hdeclared : script.declared with
  | some found =>
      rw [hdeclared] at hspace
      obtain rfl := Except.ok.inj hspace
      exact h found hdeclared
  | none =>
      rw [hdeclared] at hspace
      cases hload : script.load tree with
      | error failure =>
          rw [hload] at hspace
          cases hspace
      | ok text =>
          rw [hload] at hspace
          exact ⟨text, Except.ok.inj hspace⟩

theorem Reads.sourced (h : Reads script later) (hscript : script.Sourced) : later.Sourced := by
  intro space hspace
  rw [(forget_eq_iff.1 h.kept.forget).2.2.2.1]
  rcases h.declared with hsame | ⟨tree, found, hfound, hlater⟩
  · exact hscript space (hsame.symm.trans hspace)
  · obtain rfl := Option.some.inj (hlater.symm.trans hspace)
    exact hscript.of_spaceIn hfound

/-- An accepted script whose namespace is not quoted has an id that names a file. -/
theorem Sourced.isPublishable (h : script.Sourced) (hscript : script.Consistent)
    (hclass : Identifier.isTypeName script.wrapperClass = true)
    (hspace : script.spaceIn tree = .ok space) (hunquoted : Catalog.Unquoted space) :
    Catalog.isPublishable (script.pluginIn space).id = true := by
  rw [hscript.wrapperClass_eq] at hclass
  refine Catalog.isPublishable_qualify hclass ?_
  rintro name rfl
  obtain ⟨text, htext⟩ := h.of_spaceIn hspace
  exact (Namespace.spelled_of_declaredIn htext).plain (hunquoted name rfl)

theorem Reached.sourced (h : script.Reached) : script.Sourced := by
  induction h with
  | ofPath => exact nofun
  | ofText => exact nofun
  | asked hscript tree question ih => exact (reads_answer hscript.consistent tree question).sourced ih
  | withKeywords => exact nofun

end Script

namespace Pass

variable {pass later : Pass} {tree : Tree} {scripts : List Script}

/-- What is known of the scripts of a pass, and more of them once it has been configured. -/
structure Vetted (pass : Pass) : Prop where
  consistent : pass.Consistent
  sourced : ∀ scripts, pass.scripts = some scripts → ∀ script ∈ scripts, script.Sourced
  accepted : pass.phase ≠ .created → ∃ scripts, pass.scripts = some scripts ∧
    ∀ script ∈ scripts, Identifier.isTypeName script.wrapperClass = true

theorem Vetted.continues (h : pass.Vetted) (hlater : pass.Continues later) : later.Vetted := by
  refine ⟨hlater.consistent, ?_, ?_⟩
  · intro laters hlaters script hscript
    cases hfound : pass.scripts with
    | some scripts =>
        obtain ⟨others, hothers, hreads⟩ := hlater.known scripts hfound
        obtain rfl := Option.some.inj (hothers.symm.trans hlaters)
        obtain ⟨source, hsource, hread⟩ := Script.exists_of_forall₂ hreads hscript
        exact hread.sourced (h.sourced scripts hfound source hsource)
    | none =>
        obtain ⟨paths, hreads⟩ := hlater.found laters hfound hlaters
        obtain ⟨source, hsource, hread⟩ := Script.exists_of_forall₂ hreads hscript
        obtain ⟨path, -, rfl⟩ := List.mem_map.1 hsource
        exact hread.sourced nofun
  · intro hphase
    rw [hlater.kept] at hphase
    obtain ⟨scripts, hfound, hnames⟩ := h.accepted hphase
    obtain ⟨laters, hlaters, hreads⟩ := hlater.known scripts hfound
    refine ⟨laters, hlaters, ?_⟩
    intro script hscript
    obtain ⟨source, hsource, hread⟩ := Script.exists_of_forall₂ hreads hscript
    rw [hread.kept.wrapperClass (h.consistent scripts hfound source hsource)]
    exact hnames source hsource

theorem Consistent.asked (h : pass.Consistent) {front back : List Script} {script : Script}
    (hfound : pass.scripts = some (front ++ script :: back)) (tree : Tree)
    (question : Script.Question) :
    pass.Continues
      { pass with scripts := some (front ++ (script.answer tree question).2 :: back) } := by
  have hscripts := h _ hfound
  refine Consistent.continues_of_reads hfound (List.rel_append ?_ (.cons ?_ ?_))
  · exact List.forall₂_same.2 fun other hother =>
      (hscripts other (List.mem_append_left _ hother)).reads
  · exact Script.reads_answer (hscripts script (by simp)) tree question
  · exact List.forall₂_same.2 fun other hother => (hscripts other (by simp [hother])).reads

theorem Vetted.configure (h : pass.Vetted) (schedule : Schedule) (compiler : Compiler)
    (tree : Tree) : (pass.configure schedule compiler tree).state.1.Vetted := by
  have hfind := h.continues (h.consistent.find tree)
  by_cases hphase : pass.phase = .created
  · cases hfound : (pass.find tree).answer with
    | error failure =>
        rw [(configure_of_search hphase hfound).2]
        exact hfind
    | ok scripts =>
        obtain ⟨hobjected, hconfigured⟩ :=
          @configure_of_found pass schedule compiler tree scripts hphase hfound
        cases hobjection : objection? pass.layout scripts schedule with
        | some failure =>
            rw [(hobjected failure hobjection).2]
            exact hfind
        | none =>
            rw [(hconfigured hobjection).2]
            obtain ⟨hnames, -, -⟩ := objection?_eq_none_iff.1 hobjection
            exact ⟨hfind.consistent, hfind.sourced, fun _ => ⟨scripts, scripts_find hfound, hnames⟩⟩
  · rw [Pass.configure, if_pos hphase]
    exact h

theorem Vetted.finalize (h : pass.Vetted) (compiler : Compiler) :
    (pass.finalize compiler).state.1.Vetted := by
  rw [Pass.finalize]
  cases hphase : pass.phase with
  | created => exact h
  | finalized => exact h
  | configured =>
      have haccepted := h.accepted (by simp [hphase])
      exact ⟨h.consistent, h.sourced, fun _ => haccepted⟩

theorem Reached.vetted (h : pass.Reached) : pass.Vetted := by
  induction h with
  | new layout host source => exact ⟨nofun, nofun, fun hphase => absurd rfl hphase⟩
  | find _ tree ih => exact ih.continues (ih.consistent.find tree)
  | asked _ hfound tree question ih => exact ih.continues (ih.consistent.asked hfound tree question)
  | plugins _ tree ih => exact ih.continues (ih.consistent.plugins tree)
  | wrapperPaths _ tree ih => exact ih.continues (ih.consistent.wrapperPaths tree)
  | configure _ schedule compiler tree ih => exact ih.configure schedule compiler tree
  | finalize _ compiler ih => exact ih.finalize compiler
  | generate _ tree ih => exact ih.continues (ih.consistent.generate tree)
  | declare _ catalog tree ih => exact ih.continues (ih.consistent.declare catalog tree)
  | execute _ task catalog tree ih =>
      exact ih.continues (ih.consistent.execute task catalog tree)

/-- A configured pass none of whose scripts declares a quoted namespace in this tree. -/
structure Declares (pass : Pass) (tree : Tree) : Prop where
  reached : pass.Reached
  configured : pass.phase ≠ .created
  unquoted : ∀ scripts, pass.scripts = some scripts → ∀ script ∈ scripts,
    ∀ space later, script.namespace? tree = .ok (space, later) → Catalog.Unquoted space

end Pass

namespace Catalog

variable {catalog : Catalog} {pass : Pass} {tree : Tree} {script : Script}

/-- The catalogs that there can be if nobody registers plugins but passes that are configured. -/
inductive Filled : Catalog → Prop where
  | empty : Filled .empty
  | declare {catalog : Catalog} (h : Filled catalog) {pass : Pass} {tree : Tree}
      (hpass : pass.Declares tree) : Filled (pass.declare catalog tree).state.2
  | execute {catalog : Catalog} (h : Filled catalog) {pass : Pass} {tree : Tree}
      (hpass : pass.Declares tree) (task : String) :
      Filled (pass.execute task catalog tree).state.2.1

def Publishable (catalog : Catalog) : Prop :=
  ∀ plugin ∈ catalog.plugins, isPublishable plugin.id = true

theorem Publishable.declareScript (h : catalog.Publishable) (hscript : script.Consistent)
    (hid : ∀ space, script.spaceIn tree = .ok space →
      isPublishable (script.pluginIn space).id = true) :
    (Pass.declareScript tree script catalog).state.2.Publishable := by
  rw [Pass.declareScript]
  cases hspace : script.spaceIn tree with
  | error failure =>
      rw [hscript.plugin_eq_error hspace]
      exact h
  | ok space =>
      obtain ⟨later, hplugin, -⟩ := hscript.plugin_eq_ok hspace
      rw [hplugin]
      refine @Outcome.andThen_keeps _ _ _ _ (fun state : Script × Catalog => state.2.Publishable)
        _ _ ?_ fun _ _ hstate => hstate
      change (catalog.register (script.pluginIn space)).state.Publishable
      cases hfind : catalog.find? (script.pluginIn space).id with
      | some taken => rwa [(register_of_find?_eq_some hfind).state]
      | none =>
          rw [(register_of_find?_eq_none hfind).state]
          intro plugin hmem
          rcases List.mem_append.1 hmem with hmem | hmem
          · exact h plugin hmem
          · rw [List.mem_singleton.1 hmem]
            exact hid space hspace

theorem Publishable.declare (h : catalog.Publishable) (hpass : pass.Declares tree) :
    (pass.declare catalog tree).state.2.Publishable := by
  have hvetted := hpass.reached.vetted
  obtain ⟨scripts, hfound, hnames⟩ := hvetted.accepted hpass.configured
  have hids : ∀ script ∈ scripts, ∀ space, script.spaceIn tree = .ok space →
      isPublishable (script.pluginIn space).id = true := by
    intro script hscript space hspace
    have hconsistent := hvetted.consistent scripts hfound script hscript
    obtain ⟨later, hspace?, -⟩ := hconsistent.namespace?_eq_ok hspace
    exact (hvetted.sourced scripts hfound script hscript).isPublishable hconsistent
      (hnames script hscript) hspace (hpass.unquoted scripts hfound script hscript space later hspace?)
  have hrun := Script.each_keeps h fun script hscript catalog hcatalog =>
    hcatalog.declareScript (hvetted.consistent scripts hfound script hscript) (hids script hscript)
  obtain ⟨-, hstate⟩ := Pass.each_of_scripts hfound (Pass.declareScript tree) tree catalog
  refine @Outcome.andThen_keeps _ _ _ _ (fun state : Pass × Catalog => state.2.Publishable)
    _ _ ?_ fun _ _ hlater => hlater
  rw [hstate]
  exact hrun

theorem Publishable.execute (h : catalog.Publishable) (hpass : pass.Declares tree) (task : String) :
    (pass.execute task catalog tree).state.2.1.Publishable := by
  rw [Pass.execute]
  split_ifs
  · exact @Outcome.andThen_keeps _ _ _ _
      (fun state : Pass × Catalog × Tree => state.2.1.Publishable) _ _ h fun _ _ hlater => hlater
  · exact @Outcome.andThen_keeps _ _ _ _
      (fun state : Pass × Catalog × Tree => state.2.1.Publishable) _ _ (h.declare hpass)
      fun _ _ hlater => hlater
  · exact h

theorem Filled.publishable (h : catalog.Filled) : catalog.Publishable := by
  induction h with
  | empty => nofun
  | declare _ hpass ih => exact ih.declare hpass
  | execute _ hpass task ih => exact ih.execute hpass task

/-- Once the ids are found to be names, only files can fail. -/
theorem failure_of_writeEach {directory : Path} {plugins : List Plugin} {failure : Failure}
    (h : (writeEach directory plugins tree).answer = .error failure) :
    ∃ path fault, failure = .files path fault := by
  induction plugins generalizing tree with
  | nil => cases h
  | cons plugin rest ih =>
      rw [writeEach] at h
      cases hwrite : tree.write (pathOf directory plugin) (Utf8.ofString (properties plugin)) with
      | error fault =>
          rw [hwrite] at h
          exact ⟨_, fault, (Except.error.inj h).symm⟩
      | ok written =>
          rw [hwrite] at h
          cases hrest : (writeEach directory rest written).answer with
          | error failed =>
              obtain rfl := Except.error.inj ((Outcome.andThen_of_error hrest).1.symm.trans h)
              exact ih hrest
          | ok paths => cases (Outcome.andThen_of_ok hrest).1.symm.trans h

theorem publish_of_empty (h : catalog.plugins = []) (directory : Path) (tree : Tree) :
    catalog.publish directory tree = .ok [] tree [] := by
  rw [publish, h]
  rfl

/-- An id that cannot be published is found before anything is done. -/
theorem publish_of_find {plugin : Plugin}
    (h : catalog.plugins.find? (!isPublishable ·.id) = some plugin) (directory : Path)
    (tree : Tree) : catalog.publish directory tree = .error (.invalidId plugin.id) tree [] := by
  have hne : catalog.plugins.isEmpty = false :=
    List.isEmpty_eq_false_iff.2 (List.ne_nil_of_mem (List.mem_of_find?_eq_some h))
  rw [publish, hne, if_neg Bool.false_ne_true]
  simp only [h]

theorem publish_of_not_publishable (h : ¬ catalog.Publishable) (directory : Path) (tree : Tree) :
    ∃ id, catalog.publish directory tree = .error (.invalidId id) tree [] := by
  cases hfind : catalog.plugins.find? (!isPublishable ·.id) with
  | none =>
      refine absurd ?_ h
      simpa [Publishable] using hfind
  | some plugin => exact ⟨plugin.id, publish_of_find hfind directory tree⟩

/-- If no id is refused, the directory is made and then all files are written. -/
theorem Publishable.publish_cases (h : catalog.Publishable) (hne : catalog.plugins ≠ [])
    (directory : Path) (tree : Tree) :
    let made := tree.makeDirectories directory
    let outcome := catalog.publish directory tree
    (∃ fault, outcome.answer = .error (.files directory fault) ∧ outcome.state = made.2) ∨
      outcome.answer = (writeEach directory catalog.plugins made.2).answer ∧
        outcome.state = (writeEach directory catalog.plugins made.2).state := by
  intro made outcome
  have hnone : catalog.plugins.find? (!isPublishable ·.id) = none := by
    simpa [Publishable] using h
  have houtcome : outcome = catalog.publish directory tree := rfl
  rw [publish, List.isEmpty_eq_false_iff.2 hne, if_neg Bool.false_ne_true] at houtcome
  simp only [hnone] at houtcome
  rcases hmade : tree.makeDirectories directory with ⟨answer, later⟩
  simp only [made, hmade] at houtcome ⊢
  cases answer with
  | error fault => exact .inl ⟨fault, by rw [houtcome]; exact ⟨rfl, rfl⟩⟩
  | ok done =>
      right
      rw [houtcome]
      cases hwritten : (writeEach directory catalog.plugins later).answer with
      | error failure => exact Outcome.andThen_of_error hwritten
      | ok paths => exact Outcome.andThen_of_ok hwritten

theorem Publishable.publish_ne_invalidId (h : catalog.Publishable) (directory : Path) (tree : Tree)
    (id : String) : (catalog.publish directory tree).answer ≠ .error (.invalidId id) := by
  intro hrefused
  by_cases hempty : catalog.plugins = []
  · rw [publish_of_empty hempty] at hrefused
    cases hrefused
  · rcases h.publish_cases hempty directory tree with ⟨fault, hanswer, -⟩ | ⟨hanswer, -⟩
    · cases hanswer.symm.trans hrefused
    · obtain ⟨path, fault, hfiles⟩ := failure_of_writeEach (hanswer.symm.trans hrefused)
      cases hfiles

/-- **Ids of accepted scripts are publishable.** If configuring accepts the class that a file name
stands for, and the source declares no namespace or one without backticks, then the id can be
published, whatever the suffix and the keywords. So it can for every script, however much it has
learnt. And a catalog that is filled by configured passes over such scripts is never refused for an
id. -/
theorem ids_of_accepted_scripts :
    (∀ fileName suffix source keywords,
      Identifier.isTypeName (Naming.wrapperClass (Naming.stem fileName suffix)) = true →
      Unquoted (Namespace.declaredIn source keywords) →
      isPublishable (Script.qualify (Namespace.declaredIn source keywords)
        (Naming.stem fileName suffix)) = true) ∧
      (∀ script : Script, script.Reached → Identifier.isTypeName script.wrapperClass = true →
        ∀ tree id later, script.id tree = .ok (id, later) →
        (∀ space known, script.namespace? tree = .ok (space, known) → Unquoted space) →
        isPublishable id = true) ∧
      ∀ catalog : Catalog, catalog.Filled → ∀ directory tree id,
        (catalog.publish directory tree).answer ≠ .error (.invalidId id) := by
  refine ⟨?_, ?_, ?_⟩
  · intro fileName suffix source keywords hclass hunquoted
    refine isPublishable_qualify hclass ?_
    intro name hname
    exact (Namespace.spelled_of_declaredIn hname).plain (hunquoted name hname)
  · intro script hscript hclass tree id later hid hunquoted
    have hconsistent := hscript.consistent
    cases hspace : script.spaceIn tree with
    | error failure => cases (hconsistent.id_eq_error hspace).symm.trans hid
    | ok space =>
        obtain ⟨known, hknown, -⟩ := hconsistent.namespace?_eq_ok hspace
        obtain ⟨named, hnamed, -⟩ := hconsistent.id_eq_ok hspace
        obtain ⟨rfl, -⟩ := Prod.mk.inj (Except.ok.inj (hnamed.symm.trans hid))
        exact hscript.sourced.isPublishable hconsistent hclass hspace (hunquoted space known hknown)
  · intro catalog hfilled
    exact hfilled.publishable.publish_ne_invalidId

/-- The file of the single script, with a namespace. -/
def spacedTool : Tree :=
  Tree.empty.put [Utf8.ofString "home", Utf8.ofString "tool.gradle.kts"]
    (.file (Utf8.ofString "package org.acme\n"))

theorem ids_of_accepted_scripts_single :
    let pass := (Pass.single.configure Pass.disarranged (.new none) spacedTool).state.1
    let catalog := (pass.declare .empty spacedTool).state.2
    pass.Declares spacedTool ∧ catalog.plugins = [⟨"org.acme.tool", "Tool"⟩] ∧
      isPublishable "org.acme.tool" = true ∧
      ∀ id, (catalog.publish (.ofString "out") spacedTool).answer ≠ .error (.invalidId id) := by
  intro pass catalog
  let script := Pass.single.layout.scriptAt (.ofString "tool.gradle.kts")
  have hspace : Namespace.declaredIn "package org.acme\n" ["package"] = some "org.acme" := by
    decide +kernel
  have hscripts : pass.scripts = some [script] := by decide +kernel
  have hknown : script.namespace? spacedTool =
      .ok (some "org.acme", { script with declared := some (some "org.acme") }) := by
    decide +kernel
  have hunquoted : Unquoted (some "org.acme") := by
    rintro name ⟨⟩
    decide
  have hdeclares : pass.Declares spacedTool := by
    refine ⟨.configure (.new ..) _ _ _, by decide +kernel, ?_⟩
    intro scripts hfound other hother space later hlater
    obtain rfl := Option.some.inj (hscripts.symm.trans hfound)
    obtain rfl := List.mem_singleton.1 hother
    obtain ⟨rfl, -⟩ := Prod.mk.inj (Except.ok.inj (hknown.symm.trans hlater))
    exact hunquoted
  obtain ⟨hids, -, hpublish⟩ := ids_of_accepted_scripts
  have hid := hids "tool.gradle.kts" ".gradle.kts" "package org.acme\n" ["package"]
    (by decide +kernel) (hspace ▸ hunquoted)
  rw [hspace] at hid
  exact ⟨hdeclares, by decide +kernel, hid, hpublish catalog (.declare .empty hdeclares) _ _⟩

end Catalog

end ScriptPlugins
