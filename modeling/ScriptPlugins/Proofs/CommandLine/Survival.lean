import ScriptPlugins.Proofs.Plugins.Configuring
import ScriptPlugins.Proofs.Plugins.Settling
import ScriptPlugins.Settings.Basic

/-!
# What becomes of the scripts

Generating removes a directory and writes files, and both are at paths that the settings choose. The
settings do not say that these must be away from the scripts. So a script is gone after generating if
it stands in the directory that is removed, and it is not a script any more if the path of a wrapper
leads to it.

Nothing else can happen to a script, whether generating succeeds or fails, and whatever links the
tree has. This is about where a script stands and not about its path: a link that is the generated
directory is removed itself, which may take away the path to a script, but not the script.
-/

namespace ScriptPlugins

open Text

namespace Tree

variable {tree : Tree} {path : Path} {location : Location} {contents : Bytes}

/-- A location lies in the directory that a path leads to, and the path is not itself a link. -/
def Clears (tree : Tree) (path : Path) (location : Location) : Prop :=
  tree.linkAt? path = none ∧
    ∃ top, tree.find path = .ok (top, .directory) ∧ isBelow top location = true

theorem get?_erase_of_file (hentry : tree.get? location = some (.file contents)) {other : Location}
    {entry : Entry} (hother : tree.get? other = some entry) (hne : other ≠ [])
    (hkind : entry ≠ .file contents) : (tree.erase other).get? location = some (.file contents) := by
  have hdifferent : location ≠ other := by
    rintro rfl
    exact hkind (Option.some.inj (hother.symm.trans hentry))
  rw [get?_erase tree hne, if_neg hdifferent, hentry]

theorem get?_removeEmpty (hentry : tree.get? location = some (.file contents)) :
    (tree.removeEmpty path).2.get? location = some (.file contents) := by
  rcases removeEmpty_cases tree path with hsame | ⟨parent, name, -, hdirectory, herased⟩
  · rw [hsame]
    exact hentry
  · rw [herased]
    exact get?_erase_of_file hentry hdirectory (by simp) (by simp)

/-- A file is only removed with a directory that it is in. -/
theorem get?_removeAll (hentry : tree.get? location = some (.file contents))
    (houtside : ¬ tree.Clears path location) :
    (tree.removeAll path).2.get? location = some (.file contents) := by
  rw [removeAll]
  cases hlink : tree.linkAt? path with
  | some there =>
      obtain ⟨target, htarget⟩ := linkAt?_eq_some hlink
      have hthere : tree.get? there ≠ some .directory := by simp [htarget]
      exact get?_erase_of_file hentry htarget (ne_nil_of_get? hthere) (by simp)
  | none =>
      cases hfind : tree.find path with
      | error fault => exact hentry
      | ok found =>
          obtain ⟨top, entry⟩ := found
          cases entry with
          | file kept => exact hentry
          | link target => exact hentry
          | directory =>
              refine get?_removeEmpty ?_
              have hbelow : ¬ isBelow top location = true := fun hbelow =>
                houtside ⟨hlink, top, hfind, hbelow⟩
              rw [get?_clear, if_neg hbelow, hentry]

end Tree

theorem WrapperWriter.get?_clean {writer : WrapperWriter} {tree : Tree} {location : Location}
    {contents : Bytes} (hentry : tree.get? location = some (.file contents))
    (houtside : ¬ tree.Clears writer.directory location) :
    (writer.clean tree).state.get? location = some (.file contents) := by
  rw [state_clean]
  split_ifs
  · exact Tree.get?_removeAll hentry houtside
  · exact hentry

namespace Pass

variable {pass : Pass} {schedule : Schedule} {compiler : Compiler} {tree : Tree}
  {scripts : List Script} {location : Location} {contents : Bytes}

/-- Generating leaves a file alone that is not in the generated directory, unless the path of a
wrapper leads there. -/
theorem get?_generate (hsound : pass.Sound) (hfound : pass.scripts = some scripts)
    (hentry : tree.get? location = some (.file contents))
    (houtside : ¬ tree.Clears pass.layout.generatedDirectory location)
    (haside : ∀ script ∈ scripts,
      (pass.generate tree).state.2.locate (pass.writer.pathOf script) ≠ .ok location) :
    (pass.generate tree).state.2.get? location = some (.file contents) := by
  have hkept := @WrapperWriter.get?_clean pass.writer _ _ _ hentry houtside
  have hfind : (pass.find tree).answer = .ok scripts := by
    rw [find_of_scripts hfound]
    rfl
  cases hclean : (pass.writer.clean tree).answer with
  | error failure =>
      rw [(generate_of_uncleaned hfind hclean).2]
      exact hkept
  | ok done =>
      rw [(generate_of_cleaned hfind hclean).2] at haside ⊢
      exact WrapperWriter.get?_each (hsound.consistent hfound) hkept haside

/-- If generating succeeds, whatever the path of a wrapper leads to has become a wrapper. -/
theorem find_wrapper_generate {paths : List Path} (hsound : pass.Sound)
    (hfound : pass.scripts = some scripts) (h : (pass.generate tree).answer = .ok paths) :
    ∀ script ∈ scripts, ∃ location other space,
      (pass.generate tree).state.2.find (pass.writer.pathOf script) =
        .ok (location, .file (pass.writer.sourceOf other space)) := by
  obtain ⟨cleaned, -, hanswer, -, hafter⟩ := generate_yields hfound ⟨h, rfl⟩
  rw [hafter]
  exact WrapperWriter.find_wrapper_each (hsound.consistent hfound) hanswer

/-- Whether it is refused or not, a configured pass has the scripts that the search has found. -/
theorem answer_find_of_configure (hunfound : pass.scripts = none) (hphase : pass.phase = .created)
    (h : (pass.configure schedule compiler tree).state.1.scripts = some scripts) :
    (pass.find tree).answer = .ok scripts := by
  cases hfind : (pass.find tree).answer with
  | error failure =>
      have hnone : (pass.find tree).state.scripts = none := by
        rw [find_of_unfound hunfound] at hfind ⊢
        generalize pass.source pass.searches pass.layout.sourceRoot pass.layout.scriptPattern tree =
          found at hfind ⊢
        obtain ⟨answer, events⟩ := found
        cases answer with
        | error failure => exact hunfound
        | ok paths => cases hfind
      rw [(configure_of_search hphase hfind).2] at h
      cases hnone.symm.trans h
  | ok found =>
      have hscripts := scripts_find hfind
      obtain ⟨hobjected, hconfigured⟩ :=
        @configure_of_found pass schedule compiler tree _ hphase hfind
      have hsame : (pass.configure schedule compiler tree).state.1.scripts = some found := by
        cases hobjection : objection? pass.layout found schedule with
        | some failure =>
            rw [(hobjected failure hobjection).2]
            exact hscripts
        | none =>
            rw [(hconfigured hobjection).2]
            exact hscripts
      rw [Option.some.inj (hsame.symm.trans h)]

/-- Wherever the directories of a project are, generating leaves a script as it was found, unless it
stands in the generated directory or the path of a wrapper leads to it. -/
theorem script_survives_generate (settings : Settings) (project : Path) (schedule : Schedule)
    (compiler : Compiler) (tree : Tree) (hwell : tree.WellFormed) :
    let layout := settings.layoutAt project
    let configured :=
      ((new layout settings.toHost .files).configure schedule compiler tree).state.1
    let after := (configured.generate tree).state.2
    ∀ scripts, configured.scripts = some scripts → ∀ script ∈ scripts, ∃ location contents,
      Discovery.StandsAt tree layout.sourceRoot script.path location contents ∧
      (¬ tree.Clears layout.generatedDirectory location →
        (∀ other ∈ scripts, after.locate (configured.writer.pathOf other) ≠ .ok location) →
        after.get? location = some (.file contents)) := by
  intro layout configured after scripts hfound script hscript
  have hsound : configured.Sound :=
    (sound_new layout settings.toHost .files).configure schedule compiler tree
  obtain ⟨paths, hpaths, rfl⟩ := (find_eq_ok_iff rfl rfl).1 (answer_find_of_configure rfl rfl hfound)
  obtain ⟨path, hpath, rfl⟩ := List.mem_map.1 hscript
  obtain ⟨name, hname⟩ := Discovery.mem_candidates_of_find hpaths hpath
  obtain ⟨location, contents, hstands⟩ := Discovery.standsAt_of_mem_candidates hwell hname
  refine ⟨location, contents, hstands, ?_⟩
  intro houtside haside
  obtain ⟨_, _, _, -, -, -, -, hfile⟩ := hstands
  obtain ⟨_, searches, phase, hconfigured⟩ :=
    configure_keeps (new layout settings.toHost .files) schedule compiler tree
  have hlayout : configured.layout = layout := congrArg Pass.layout hconfigured
  refine get?_generate hsound hfound hfile ?_ haside
  rw [hlayout]
  exact houtside

/-- A project whose source root is a link, and whose wrappers go below it. -/
def linkedProject : Tree :=
  let home := Utf8.ofString "home"
  let real := Utf8.ofString "real"
  let wrappers := Utf8.ofString "gen"
  { entries := [([home], .directory), ([home, real], .directory),
      ([home, Utf8.ofString "src"], .link (.ofString "real")),
      ([home, real, Utf8.ofString "tool.gradle.kts"], .file (Utf8.ofString "package a\n")),
      ([home, real, wrappers], .directory),
      ([home, real, wrappers, Utf8.ofString "old.gradle.kts"], .file [])]
    home := [home] }

def linkedSettings : Settings :=
  { Settings.default with
    layout := { LayoutSettings.default with
      sourceRoot := .ofString "src", generatedDirectory := .ofString "src/gen" } }

def configureIn (settings : Settings) (tree : Tree) :
    Outcome (Pass × Schedule × Compiler) Failure Unit :=
  (new (settings.layoutAt (.ofString ".")) settings.toHost .files).configure
    (.ofTasks [settings.tasks.compile, settings.tasks.publish]) (.new none) tree

/-- One script goes with the wrappers, so that generating fails. The other one stays. -/
theorem script_survives_generate_linked :
    let configured := configureIn linkedSettings linkedProject
    let outcome := configured.state.1.generate linkedProject
    let real := [Utf8.ofString "home", Utf8.ofString "real"]
    linkedProject.WellFormed ∧ configured.answer = .ok () ∧
      outcome.answer = .error (.files (.ofString "./src/gen/old.gradle.kts") .notFound) ∧
      outcome.state.2.get? (real ++ [Utf8.ofString "gen", Utf8.ofString "old.gradle.kts"]) = none ∧
      outcome.state.2.get? (real ++ [Utf8.ofString "tool.gradle.kts"]) =
        some (.file (Utf8.ofString "package a\n")) := by
  intro configured outcome real
  have hwell : linkedProject.WellFormed := by decide
  have hroot : linkedProject.find (.ofString "./src") = .ok (real, .directory) := by decide +kernel
  have hwrappers : linkedProject.find (.ofString "./src/gen") =
      .ok (real ++ [Utf8.ofString "gen"], .directory) := by decide +kernel
  have hpaths : configured.state.1.scripts.map (List.map Script.path) =
      some [.ofString "./src/gen/old.gradle.kts", .ofString "./src/tool.gradle.kts"] := by
    decide +kernel
  have haside : ∀ script ∈ configured.state.1.scripts.getD [],
      outcome.state.2.locate (configured.state.1.writer.pathOf script) ≠
        .ok (real ++ [Utf8.ofString "tool.gradle.kts"]) := by
    decide +kernel
  refine ⟨hwell, by decide +kernel, by decide +kernel, by decide +kernel, ?_⟩
  obtain ⟨scripts, hfound, hscripts⟩ := Option.map_eq_some_iff.1 hpaths
  have hmem : Path.ofString "./src/tool.gradle.kts" ∈ scripts.map Script.path := by
    rw [hscripts]
    exact List.mem_cons_of_mem _ List.mem_cons_self
  obtain ⟨script, hscript, hpath⟩ := List.mem_map.1 hmem
  obtain ⟨location, contents, hstands, hkept⟩ := script_survives_generate linkedSettings (.ofString ".")
    (.ofTasks [linkedSettings.tasks.compile, linkedSettings.tasks.publish]) (.new none) linkedProject
    hwell scripts hfound script hscript
  rw [hpath] at hstands
  obtain rfl : location = real ++ [Utf8.ofString "tool.gradle.kts"] :=
    hstands.location_eq hroot (by decide)
  obtain ⟨_, _, _, -, -, -, -, hfile⟩ := hstands
  have hcontents : contents = Utf8.ofString "package a\n" := by
    have htext : linkedProject.get? (real ++ [Utf8.ofString "tool.gradle.kts"]) =
        some (.file (Utf8.ofString "package a\n")) := by decide
    exact Entry.file.inj (Option.some.inj (hfile.symm.trans htext))
  rw [← hcontents]
  refine hkept ?_ ?_
  · rintro ⟨-, top, hfind, hbelow⟩
    obtain ⟨rfl, -⟩ := Prod.mk.inj (Except.ok.inj (hwrappers.symm.trans hfind))
    exact absurd hbelow (by decide)
  · rw [hfound] at haside
    exact haside

/-- The scripts are in the directory of the wrappers. -/
def swallowingSettings : Settings :=
  { Settings.default with
    layout := { LayoutSettings.default with generatedDirectory := .ofString "src" } }

def swallowedProject : Tree :=
  let home := Utf8.ofString "home"
  let source := Utf8.ofString "src"
  let main := Utf8.ofString "main"
  let kotlin := Utf8.ofString "kotlin"
  { entries := [([home], .directory), ([home, source], .directory),
      ([home, source, main], .directory), ([home, source, main, kotlin], .directory),
      ([home, source, main, kotlin, Utf8.ofString "my-plugin.gradle.kts"],
        .file (Utf8.ofString "package org.acme\n"))]
    home := [home] }

/-- The wrappers go where the scripts are, by a way that is not there before the first wrapper. -/
def overwritingSettings : Settings :=
  { Settings.default with
    layout := { LayoutSettings.default with
      sourceRoot := .ofString "src", scriptPattern := "*.kt", scriptSuffix := ".kt"
      generatedDirectory := .ofString "new/../src" } }

def overwrittenProject : Tree :=
  let home := Utf8.ofString "home"
  let source := Utf8.ofString "src"
  { entries := [([home], .directory), ([home, source], .directory),
      ([home, source, Utf8.ofString "Tool.kt"], .file [])]
    home := [home] }

/-- Settings that pass for valid can have a script removed, and they can have it overwritten. -/
theorem scripts_lost_by_generate :
    let swallowing := configureIn swallowingSettings swallowedProject
    let overwriting := configureIn overwritingSettings overwrittenProject
    let swallowed := [Utf8.ofString "home", Utf8.ofString "src", Utf8.ofString "main",
      Utf8.ofString "kotlin", Utf8.ofString "my-plugin.gradle.kts"]
    let overwritten := [Utf8.ofString "home", Utf8.ofString "src", Utf8.ofString "Tool.kt"]
    (swallowingSettings.validate = .ok () ∧ swallowedProject.WellFormed ∧
      swallowing.answer = .ok () ∧
      swallowing.state.1.scripts.map (List.map Script.path) =
        some [.ofString "./src/main/kotlin/my-plugin.gradle.kts"] ∧
      swallowedProject.get? swallowed = some (.file (Utf8.ofString "package org.acme\n")) ∧
      (swallowing.state.1.generate swallowedProject).state.2.get? swallowed = none) ∧
    (overwritingSettings.validate = .ok () ∧ overwrittenProject.WellFormed ∧
      overwriting.answer = .ok () ∧
      overwriting.state.1.scripts.map (List.map Script.path) = some [.ofString "./src/Tool.kt"] ∧
      (overwriting.state.1.generate overwrittenProject).answer =
        .ok [.ofString "./new/../src/Tool.kt"] ∧
      overwrittenProject.get? overwritten = some (.file []) ∧
      ∃ contents, contents ≠ [] ∧ (overwriting.state.1.generate overwrittenProject).state.2.get?
        overwritten = some (.file contents)) := by
  intro swallowing overwriting swallowed overwritten
  have hsound : overwriting.state.1.Sound := Sound.configure (sound_new _ _ _) _ _ _
  have hpaths : overwriting.state.1.scripts.map (List.map Script.path) =
      some [.ofString "./src/Tool.kt"] := by decide +kernel
  have hgenerate : (overwriting.state.1.generate overwrittenProject).answer =
      .ok [.ofString "./new/../src/Tool.kt"] := by decide +kernel
  have hleads : ∀ script ∈ overwriting.state.1.scripts.getD [],
      (overwriting.state.1.generate overwrittenProject).state.2.locate
        (overwriting.state.1.writer.pathOf script) = .ok overwritten := by
    decide +kernel
  refine ⟨⟨?_, ?_, ?_, ?_, ?_, ?_⟩, ?_, ?_, ?_, hpaths, hgenerate, ?_, ?_⟩
  · decide
  · decide
  · decide +kernel
  · decide +kernel
  · decide
  · decide +kernel
  · decide
  · decide
  · decide +kernel
  · decide
  · obtain ⟨scripts, hfound, hscripts⟩ := Option.map_eq_some_iff.1 hpaths
    obtain ⟨script, rfl, -⟩ := List.map_eq_singleton_iff.1 hscripts
    obtain ⟨location, other, space, hfind⟩ :=
      find_wrapper_generate hsound hfound hgenerate script List.mem_cons_self
    obtain ⟨hlocate, hfile⟩ := Tree.find_eq_ok_iff.1 hfind
    rw [hfound] at hleads
    obtain rfl := Except.ok.inj (hlocate.symm.trans (hleads script List.mem_cons_self))
    exact ⟨_, WrapperWriter.sourceOf_ne_nil _ _ _, hfile⟩

end Pass

end ScriptPlugins
