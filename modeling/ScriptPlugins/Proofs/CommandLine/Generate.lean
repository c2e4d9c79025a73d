import ScriptPlugins.CommandLine.Run
import ScriptPlugins.Proofs.CommandLine.Build

/-!
# Generating what is listed

Listing shows what generating will do. If generating succeeds, it reports the plugins that a listing
would have shown before, in the same order, and no two of them have the same id. Each has then its
descriptor and its wrapper, and nothing else has happened to the files of the project.

For this the scripts, the wrappers and the descriptors have to be in different places. Where a path
leads can be told from the path alone as long as there are no links, so the condition is on places
and not on what the tree has in them.
-/

namespace ScriptPlugins

open Text

/-- Scripts, wrappers and descriptors each have a place of their own. -/
structure Layout.Separate (layout : Layout) (descriptors : Path) (tree : Tree) : Prop where
  scripts_wrappers : Tree.Apart (tree.place layout.sourceRoot) (tree.place layout.generatedDirectory)
  scripts_descriptors : Tree.Apart (tree.place layout.sourceRoot) (tree.place descriptors)
  wrappers_descriptors : Tree.Apart (tree.place layout.generatedDirectory) (tree.place descriptors)

/-- Where plugins are published: as the command says, or else as the settings do. -/
def Settings.descriptorsFor (settings : Settings) (project : Path) : Option Path → Path
  | some directory => project.join directory
  | none => settings.descriptorsAt project

theorem Build.list_new {settings : Settings} {project : Path} {tree : Tree} {scripts : List Script}
    {plugins : List Plugin} (hdiscovers : (settings.layoutAt project).Discovers tree scripts)
    (hmeans : List.Forall₂ (Script.Means tree) scripts plugins) :
    ∃ entries, ((new settings project none tree).list project).answer = .ok entries ∧
      entries.map Listing.Entry.plugin = plugins := by
  have hconsistent : ∀ script ∈ scripts, script.Consistent := hdiscovers.consistent
  obtain ⟨entries, hentries, hplugins⟩ := Listing.each_entryOf project hconsistent hmeans
  refine ⟨entries, ?_, hplugins⟩
  have hfind := (@Pass.find_eq_ok_iff (new settings project none tree).pass scripts tree rfl rfl).2
    hdiscovers
  have hasked : ((new settings project none tree).pass.each
      (Script.ask (Listing.entryOf project tree)) tree ()).answer = .ok entries := by
    rw [Pass.each]
    exact Outcome.andThen_eq_ok_iff.2 ⟨scripts, hfind, hentries⟩
  exact hasked

/-- What a run leaves before it publishes: the wrappers, and the plugins that the scripts meant when
they were discovered. -/
theorem Build.Ran.registered {pass : Pass} {directory : Path} {scripts : List Script}
    {catalog : Catalog} {before after : Tree} (h : Ran pass directory before catalog after)
    (hwell : before.WellFormed) (hfree : before.LinkFree) (hfound : pass.scripts = some scripts)
    (hdiscovers : pass.layout.Discovers before scripts)
    (hwraps : ∀ script ∈ scripts, pass.writer.Wraps script)
    (hapart : Tree.Apart (before.place pass.layout.sourceRoot)
      (before.place pass.writer.directory)) :
    ∃ laters made files, Pass.Generated pass.writer scripts laters before made ∧
      List.Forall₂ (Script.Means before) scripts catalog.plugins ∧
      (catalog.plugins.map Plugin.id).Nodup ∧
      (catalog.publish directory made).Yields files after := by
  obtain ⟨wrappers, count, files, middle, last, made, hgenerate, hdeclare, hpublish⟩ := h.steps
  obtain ⟨laters, hmiddle, hgenerated⟩ := Pass.generated_of_yields hfound hfree hwraps hgenerate
  have hlaters : middle.scripts = some laters := by rw [hmiddle]
  obtain ⟨⟨done, hdone⟩, -, hcatalog⟩ := Pass.declare_yields hlaters hdeclare
  obtain ⟨plugins, hmeans, hplugins, hnodup⟩ := @Catalog.each_declareScript_eq_ok .empty laters made
    hgenerated.consistent done List.nodup_nil hdone
  rw [← hcatalog] at hplugins
  refine ⟨laters, made, files, hgenerated, ?_, ?_, hpublish⟩
  · rw [hplugins]
    exact hgenerated.means hdiscovers hwell hfree (fun _ => hapart.not_prefix) hmeans
  · rw [hplugins]
    exact hnodup

namespace Command

/-- A run of the command that succeeds is a run of the build, and reports what was registered. -/
theorem generate_eq_ok {settings : Settings} {project : Path} {descriptors : Option Path}
    {compiles : Bool} {programs : Programs} {tree : Tree} {output : String}
    (hdistinct : settings.tasks.Distinct)
    (hquiet : compiles = true → Compiler.Quiet settings.compiler.command programs)
    (h : (generate settings project descriptors compiles programs tree).answer = .ok output) :
    ∃ scripts pass build, (settings.layoutAt project).Discovers tree scripts ∧
      (∀ script ∈ scripts, Identifier.isTypeName script.wrapperClass = true) ∧
      pass.layout = settings.layoutAt project ∧ pass.scripts = some scripts ∧
      Build.Ran pass (settings.descriptorsFor project descriptors) tree build.catalog build.tree ∧
      output = summary (settings.layoutAt project) build.catalog.plugins ∧
      (generate settings project descriptors compiles programs tree).state = build := by
  obtain ⟨plugins, build, hrun, hlast⟩ :=
    Outcome.yields_andThen_iff.1 (Outcome.yields_of_answer h)
  obtain ⟨scripts, pass, hdiscovers, hnames, hlayout, hfound, hran, rfl⟩ :=
    Build.run_new rfl hdistinct hquiet hrun
  refine ⟨scripts, pass, build, hdiscovers, hnames, hlayout, hfound, ?_,
    (Except.ok.inj hlast.answer).symm, hlast.state.symm⟩
  cases descriptors <;> exact hran

/-- Generating reports what listing shows, and leaves a descriptor and a wrapper for each entry. -/
theorem generate_listed (settings : Settings) (project : Path) (descriptors : Option Path)
    (compiles : Bool) (programs : Programs) (tree : Tree) {output : String}
    (hwell : tree.WellFormed) (hfree : tree.LinkFree) (hdistinct : settings.tasks.Distinct)
    (hextension : '/' ∉ settings.layout.wrapperExtension.toList)
    (hseparate : (settings.layoutAt project).Separate
      (settings.descriptorsFor project descriptors) tree)
    (hquiet : compiles = true → Compiler.Quiet settings.compiler.command programs)
    (h : (generate settings project descriptors compiles programs tree).answer = .ok output) :
    let after := (generate settings project descriptors compiles programs tree).state.tree
    let wrappers := (settings.layoutAt project).generatedDirectory
    let published := settings.descriptorsFor project descriptors
    ∃ entries, ((Build.new settings project none tree).list project).answer = .ok entries ∧
      output = printed
        (("Generated " ++ toString entries.length ++ " script plugin(s) into " ++ wrappers.display) ::
          entries.map fun entry => "  " ++ entry.id ++ " -> " ++ entry.implementationClass) ∧
      (entries.map Listing.Entry.id).Nodup ∧
      (∀ entry ∈ entries,
        let descriptor := Utf8.ofString (entry.id ++ ".properties")
        let wrapper := Utf8.ofString
          (entry.implementationClass ++ "." ++ settings.layout.wrapperExtension)
        after.find (published.join ⟨descriptor⟩) = .ok (tree.place published ++ [descriptor], .file
          (Utf8.ofString ("implementation-class=" ++ entry.implementationClass ++ "\n"))) ∧
        ∃ contents, after.find (wrappers.join ⟨wrapper⟩) =
          .ok (tree.place wrappers ++ [wrapper], .file contents)) ∧
      ∀ location, ¬ tree.place wrappers <+: location → ¬ tree.place published <+: location →
        after.get? location = tree.get? location ∨
          tree.get? location = none ∧ after.get? location = some .directory := by
  intro after wrappers published
  obtain ⟨scripts, pass, build, hdiscovers, hnames, hlayout, hfound, hran, houtput, hbuild⟩ :=
    generate_eq_ok hdistinct hquiet h
  have hdirectory : pass.writer.directory = wrappers := congrArg Layout.generatedDirectory hlayout
  have hextends : pass.writer.template.extension = settings.layout.wrapperExtension :=
    congrArg Layout.wrapperExtension hlayout
  have hwraps : ∀ script ∈ scripts, pass.writer.Wraps script := by
    intro script hscript
    have hconsistent := hdiscovers.consistent script hscript
    refine ⟨hconsistent, WrapperTemplate.isName_fileName _ ?_ (hextends ▸ hextension)⟩
    rw [← hconsistent.wrapperClass_eq]
    exact hnames script hscript
  obtain ⟨laters, made, files, hgenerated, hmeans, hnodup, hpublish⟩ :=
    hran.registered hwell hfree hfound (hlayout ▸ hdiscovers) hwraps
      (by rw [hlayout, hdirectory]; exact hseparate.scripts_wrappers)
  have hmadeFree := hgenerated.frame.linkFree hfree
  obtain ⟨hframe, hgrows, hdescriptor⟩ := Catalog.publish_eq_ok hmadeFree hnodup hpublish.answer
  have hafter : build.tree = after := congrArg Build.tree hbuild.symm
  rw [hpublish.state, hafter] at hframe hgrows hdescriptor
  rw [hgenerated.frame.place] at hframe hdescriptor
  obtain ⟨entries, hentries, hplugins⟩ := Build.list_new hdiscovers hmeans
  refine ⟨entries, hentries, ?_, ?_, ?_, ?_⟩
  · rw [houtput, ← hplugins, summary, List.length_map, List.map_map]
    rfl
  · rw [← hplugins, List.map_map] at hnodup
    exact hnodup
  · intro entry hentry
    have hmem : entry.plugin ∈ build.catalog.plugins := by
      rw [← hplugins]
      exact List.mem_map_of_mem hentry
    refine ⟨hdescriptor entry.plugin hmem, ?_⟩
    obtain ⟨script, hscript, space, -, hplugin⟩ := Script.exists_means_of_mem hmeans hmem
    have hclass : entry.implementationClass = Naming.wrapperClass script.stem :=
      congrArg Plugin.implementationClass hplugin
    have hname : pass.writer.nameOf script = Utf8.ofString
        (entry.implementationClass ++ "." ++ settings.layout.wrapperExtension) := by
      rw [WrapperWriter.nameOf, WrapperTemplate.fileName, hextends, hclass]
    obtain ⟨contents, hfind⟩ := hgenerated.wrapper script hscript
    rw [WrapperWriter.pathOf_eq _ (hdiscovers.consistent script hscript), hname, hdirectory] at hfind
    have hout := hseparate.wrappers_descriptors.not_prefix (List.prefix_append
      (tree.place wrappers) [Utf8.ofString
        (entry.implementationClass ++ "." ++ settings.layout.wrapperExtension)])
    have hkept := hframe.get?_of_some hout (Tree.find_eq_ok_iff.1 hfind).2
    exact ⟨contents, hmadeFree.find_grows (hframe.linkFree hmadeFree) hgrows hfind hkept⟩
  · intro location hwrappers hpublished
    have hboth := (hgenerated.frame.mono fun _ => Or.inl).trans (hframe.mono fun _ => Or.inr)
    rw [hdirectory] at hboth
    exact hboth.outside location (not_or.2 ⟨hwrappers, hpublished⟩)

/-- A project with one script right in the source root and one further below, and with a wrapper that
no script has any more. -/
def nestedProject : Tree :=
  let home := Utf8.ofString "home"
  let source := Utf8.ofString "src"
  let wrappers := Utf8.ofString "out"
  { entries := [([home], .directory), ([home, source], .directory),
      ([home, source, Utf8.ofString "jobs"], .directory),
      ([home, source, Utf8.ofString "jobs", Utf8.ofString "my-plugin.gradle.kts"],
        .file (Utf8.ofString "package org.acme\n")),
      ([home, source, Utf8.ofString "tool.gradle.kts"], .file []),
      ([home, wrappers], .directory),
      ([home, wrappers, Utf8.ofString "Stale.kt"], .file [])]
    home := [home] }

/-- Settings with a compiler, and with a way back in the path of the descriptors. -/
def nestedSettings : Settings :=
  { Settings.default with
    layout := { LayoutSettings.default with
      sourceRoot := .ofString "src", generatedDirectory := .ofString "out" }
    compiler := ⟨some "kotlinc", .ofString "out/../meta"⟩ }

theorem generate_listed_nested :
    let compiler : Programs := fun _ _ tree => (.ok ⟨.code 0, []⟩, tree)
    let outcome := generate nestedSettings (.ofString ".") none true compiler nestedProject
    let published := nestedSettings.descriptorsFor (.ofString ".") none
    nestedProject.WellFormed ∧ nestedProject.LinkFree ∧ nestedSettings.tasks.Distinct ∧
      '/' ∉ nestedSettings.layout.wrapperExtension.toList ∧
      (nestedSettings.layoutAt (.ofString ".")).Separate published nestedProject ∧
      Compiler.Quiet nestedSettings.compiler.command compiler ∧
      outcome.answer = .ok ("Generated 2 script plugin(s) into ./out\n" ++
        "  org.acme.my-plugin -> MyPlugin\n  tool -> Tool\n") ∧
      ∃ entries, ((Build.new nestedSettings (.ofString ".") none nestedProject).list
          (.ofString ".")).answer = .ok entries ∧
        (entries.map Listing.Entry.id).Nodup ∧
        ∀ entry ∈ entries, ∃ contents,
          outcome.state.tree.find (published.join (.ofString (entry.id ++ ".properties"))) =
            .ok ([Utf8.ofString "home", Utf8.ofString "meta",
              Utf8.ofString (entry.id ++ ".properties")], .file contents) := by
  intro compiler outcome published
  have hwell : nestedProject.WellFormed := by decide
  have hfree : nestedProject.LinkFree := Tree.linkFree_of_entries (by decide)
  have hdistinct : nestedSettings.tasks.Distinct := by decide
  have hextension : '/' ∉ nestedSettings.layout.wrapperExtension.toList := by decide
  have hseparate : (nestedSettings.layoutAt (.ofString ".")).Separate published nestedProject :=
    ⟨by decide, by decide, by decide⟩
  have hquiet : Compiler.Quiet nestedSettings.compiler.command compiler :=
    fun _ _ _ _ => rfl
  have hanswer : outcome.answer = .ok ("Generated 2 script plugin(s) into ./out\n" ++
      "  org.acme.my-plugin -> MyPlugin\n  tool -> Tool\n") := by decide +kernel
  obtain ⟨entries, hentries, -, hnodup, hfiles, -⟩ := generate_listed nestedSettings (.ofString ".")
    none true compiler nestedProject hwell hfree hdistinct hextension hseparate (fun _ => hquiet)
    hanswer
  refine ⟨hwell, hfree, hdistinct, hextension, hseparate, hquiet, hanswer, entries, hentries, hnodup,
    ?_⟩
  intro entry hentry
  exact ⟨_, (hfiles entry hentry).1⟩

end Command

end ScriptPlugins
