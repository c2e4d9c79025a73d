import ScriptPlugins.Proofs.Plugins.Configuring
import ScriptPlugins.Proofs.Plugins.Settling

/-!
# Scripts with the same class

Registering keeps ids apart, and an id has the namespace in it. The class of a wrapper has not: it is
made from the file name alone. So two scripts with the same file name in different namespaces are
registered as two plugins, but their wrappers go to one path, and the later one is what stands there.

What a wrapper's path leads to is the wrapper of the last script that goes there. Where no two
scripts have the same class, and without links, that is each script's own.
-/

namespace ScriptPlugins

open Text

theorem WrapperTemplate.fileName_inj {template : WrapperTemplate} {name other : String} :
    template.fileName name = template.fileName other ↔ name = other := by
  constructor
  · intro h
    have htext := congrArg String.toList h
    simp only [fileName, String.toList_append] at htext
    exact String.toList_inj.1 (List.append_cancel_right (List.append_cancel_right htext))
  · rintro rfl
    rfl

namespace WrapperWriter

variable {writer : WrapperWriter} {script other : Script} {scripts written : List Script}
  {tree cleaned after : Tree} {paths : List Path}

theorem nameOf_eq_iff (hscript : script.Consistent) (hother : other.Consistent) :
    writer.nameOf script = writer.nameOf other ↔ script.wrapperClass = other.wrapperClass := by
  rw [hscript.wrapperClass_eq, hother.wrapperClass_eq]
  constructor
  · intro h
    exact WrapperTemplate.fileName_inj.1 (Utf8.ofString_injective h)
  · intro h
    rw [nameOf, nameOf, h]

/-- The file at the path of a script's wrapper is the wrapper of that very script. -/
def Owns (writer : WrapperWriter) (tree : Tree) (script : Script) : Prop :=
  ∃ location name, (script.compiledType tree).map Prod.fst = .ok name ∧
    tree.find (writer.pathOf script) = .ok (location, .file (Utf8.ofString
      (writer.template.render script.wrapperClass name)))

theorem owns_of_find {location : Location} (hscript : script.Settled)
    (h : tree.find (writer.pathOf script) =
      .ok (location, .file (writer.sourceOf script script.knownSpace))) :
    writer.Owns tree script := by
  obtain ⟨space, hspace⟩ := hscript.declared
  obtain ⟨later, htype, -⟩ :=
    hscript.consistent.compiledType_eq_ok (Script.spaceIn_of_declared hspace tree)
  have hknown : script.knownSpace = space := by rw [Script.knownSpace, hspace, Option.getD_some]
  refine ⟨location, Script.qualify space (Naming.compiledClass script.fileName), ?_, ?_⟩
  · rw [htype]
    rfl
  · rw [h, sourceOf, hknown, hscript.consistent.wrapperClass_eq]

theorem pairwise_pathOf_iff (hscripts : ∀ script ∈ scripts, writer.Wraps script) :
    ((scripts.map writer.pathOf).Pairwise fun path other => ¬ path.same other) ↔
      (scripts.map Script.wrapperClass).Nodup := by
  rw [List.Nodup, List.pairwise_map, List.pairwise_map]
  apply List.Pairwise.iff_of_mem
  intro script other hscript hother
  obtain ⟨hconsistent, hname⟩ := hscripts script hscript
  obtain ⟨hconsistent', hname'⟩ := hscripts other hother
  rw [pathOf_eq writer hconsistent, pathOf_eq writer hconsistent', Path.same_join_name_iff hname hname',
    nameOf_eq_iff hconsistent hconsistent', ne_eq]

/-- Without links, wrappers have a place in common exactly if their scripts have a class in common. -/
theorem locate_pathOf_eq_iff (writer : WrapperWriter) {laters : List Script} (hfree : tree.LinkFree)
    (hscripts : ∀ script ∈ scripts, writer.Wraps script)
    (hkept : List.Forall₂ Script.Kept scripts laters)
    (hclean : (writer.clean tree).Yields () cleaned)
    (h : (Script.each (Pass.writeWrapper writer) scripts cleaned).Yields paths (written, after)) :
    ∀ script ∈ laters, ∀ other ∈ laters,
      (after.locate (writer.pathOf other) = after.locate (writer.pathOf script) ↔
        other.wrapperClass = script.wrapperClass) := by
  have hframe := writer.frame_clean hfree
  rw [hclean.state] at hframe
  have hfind := find_each (hframe.linkFree hfree) hscripts h.answer
  rw [congrArg Prod.snd h.state] at hfind
  have hlocate : ∀ later ∈ laters, after.locate (writer.pathOf later) =
      .ok (cleaned.place writer.directory ++ [writer.nameOf later]) := by
    intro later hlater
    obtain ⟨script, hscript, hlater⟩ := Script.exists_of_forall₂ hkept hlater
    obtain ⟨contents, hcontents⟩ := hfind script hscript
    rw [pathOf_of_forget (hscripts script hscript).consistent hlater.consistent hlater.forget,
      nameOf_of_forget hlater.forget]
    exact (Tree.find_eq_ok_iff.1 hcontents).1
  have hconsistent := Script.consistent_of_forall₂_kept hkept
  intro script hscript other hother
  rw [hlocate script hscript, hlocate other hother, Except.ok.injEq, List.append_cancel_left_eq,
    List.singleton_inj]
  exact nameOf_eq_iff (hconsistent other hother) (hconsistent script hscript)

end WrapperWriter

namespace Pass

variable {pass configured generated declared : Pass} {schedule wired : Schedule}
  {compiler extended : Compiler} {before tree after seen : Tree} {catalog : Catalog}
  {scripts : List Script} {paths : List Path} {count : Nat} {done : Unit}

theorem settled_of_generate (hsound : pass.Sound) (hfound : pass.scripts = some scripts)
    (h : (pass.generate tree).Yields paths (generated, after)) :
    ∃ laters cleaned, generated = { pass with scripts := some laters } ∧
      (pass.writer.clean tree).Yields () cleaned ∧
      (Script.each (writeWrapper pass.writer) scripts cleaned).Yields paths (laters, after) ∧
      (∀ later ∈ laters, later.Settled) ∧ List.Forall₂ Script.Kept scripts laters ∧
      paths = laters.map pass.writer.pathOf := by
  obtain ⟨cleaned, hclean, hanswer, rfl, rfl⟩ := generate_yields hfound h
  have hconsistent := hsound.consistent hfound
  obtain ⟨count, hsettled, -, hall⟩ :=
    @WrapperWriter.each_writeWrapper_records pass.writer scripts hconsistent cleaned
  obtain ⟨rfl, hpaths⟩ := hall paths hanswer
  rw [List.take_length] at hsettled
  refine ⟨_, cleaned, rfl, hclean, ⟨hanswer, rfl⟩, hsettled, ?_, hpaths⟩
  exact Script.forall₂_kept_each
    (fun _ tree hscript => Script.becomes_writeWrapper pass.writer hscript tree) hconsistent cleaned

theorem settled_of_declare (hsettled : ∀ script ∈ scripts, script.Settled)
    (hfound : pass.scripts = some scripts)
    (h : (pass.declare .empty seen).Yields count (declared, catalog)) :
    ∃ laters, declared = { pass with scripts := some laters } ∧
      (∀ later ∈ laters, later.Settled) ∧ List.Forall₂ Script.Becomes scripts laters ∧
      catalog.plugins = laters.map Script.knownPlugin ∧ (catalog.plugins.map Plugin.id).Nodup := by
  obtain ⟨⟨registered, hanswer⟩, rfl, rfl⟩ := declare_yields hfound h
  have hconsistent : ∀ script ∈ scripts, script.Consistent := fun script hscript =>
    (hsettled script hscript).consistent
  obtain ⟨count, hlaters, hplugins, hall⟩ :=
    Catalog.each_declareScript_records hconsistent seen .empty
  obtain rfl := hall registered hanswer
  rw [List.take_length] at hlaters hplugins
  obtain ⟨plugins, -, hsame, hnodup⟩ := @Catalog.each_declareScript_eq_ok .empty scripts seen
    hconsistent registered List.nodup_nil hanswer
  refine ⟨_, rfl, hlaters, ?_, hplugins, hsame ▸ hnodup⟩
  exact Script.forall₂_each (fun _ => Script.Consistent.becomes)
    (fun script catalog hscript => Script.becomes_declareScript hscript seen catalog) hconsistent
    Catalog.empty

/-- After generating and declaring, all ids are different, but the paths of the wrappers are so only
if the classes are. Each path leads to the wrapper of the last script that goes there; without links
that is the last script with its class. -/
theorem owns_of_no_later (hpass : pass.Reached)
    (hextension : '/' ∉ pass.layout.wrapperExtension.toList)
    (hconfigure : (pass.configure schedule compiler before).Yields done (configured, wired, extended))
    (hgenerate : (configured.generate tree).Yields paths (generated, after))
    (hdeclare : (generated.declare .empty seen).Yields count (declared, catalog)) :
    ∃ scripts, declared.scripts = some scripts ∧
      catalog.plugins = scripts.map Script.knownPlugin ∧
      (catalog.plugins.map Plugin.id).Nodup ∧
      paths = scripts.map declared.writer.pathOf ∧
      ((paths.Pairwise fun path other => ¬ path.same other) ↔
        (scripts.map Script.wrapperClass).Nodup) ∧
      (∀ front script back, scripts = front ++ script :: back →
        (∀ other ∈ back, after.locate (declared.writer.pathOf other) ≠
          after.locate (declared.writer.pathOf script)) →
        declared.writer.Owns after script) ∧
      (tree.LinkFree → ∀ script ∈ scripts, ∀ other ∈ scripts,
        (after.locate (declared.writer.pathOf other) = after.locate (declared.writer.pathOf script) ↔
          other.wrapperClass = script.wrapperClass)) := by
  obtain ⟨-, found, hfind, hobjection, hconfigured⟩ := configure_yields_iff.1 hconfigure
  obtain ⟨hnames, -, -⟩ := objection?_eq_none_iff.1 hobjection
  have hsound : configured.Sound := by
    have hreached := (hpass.configure schedule compiler before).sound
    rwa [hconfigure.state] at hreached
  obtain ⟨hpassed, -⟩ := Prod.mk.inj hconfigured
  have hfound : configured.scripts = some found := by
    rw [hpassed]
    exact scripts_find hfind
  have hlayout : configured.layout = pass.layout := by
    rw [hpassed]
    exact layout_find pass before
  have hwraps : ∀ script ∈ found, configured.writer.Wraps script := fun script hscript =>
    WrapperWriter.wraps_of_isTypeName (hsound.consistent hfound script hscript)
      (hnames script hscript) (by rw [writer, hlayout]; exact hextension)
  obtain ⟨settled, cleaned, rfl, hclean, heach, hsettled, hkept, rfl⟩ :=
    settled_of_generate hsound hfound hgenerate
  obtain ⟨scripts, rfl, hlasts, hbecomes, hplugins, hnodup⟩ :=
    settled_of_declare hsettled rfl hdeclare
  have hconsistent : ∀ script ∈ settled, script.Consistent := fun script hscript =>
    (hsettled script hscript).consistent
  have hlastKept : List.Forall₂ Script.Kept settled scripts := hbecomes.imp fun _ _ h => h.kept
  have hfoundKept : List.Forall₂ Script.Kept found scripts :=
    Script.forall₂_trans (fun _ _ _ h h' => h.trans h') hkept hlastKept
  have hlastWraps : ∀ script ∈ scripts, configured.writer.Wraps script := by
    intro script hscript
    obtain ⟨source, hsource, hlater⟩ := Script.exists_of_forall₂ hfoundKept hscript
    exact (hwraps source hsource).of_kept hlater
  have hpaths : settled.map configured.writer.pathOf = scripts.map configured.writer.pathOf :=
    (WrapperWriter.map_pathOf_of_forall₂_kept hconsistent hlastKept).symm
  have hfiles : scripts.map configured.writer.fileOf = settled.map configured.writer.fileOf :=
    Script.map_of_forall₂_becomes (fun _ _ hscript hlater => hscript.fileOf_eq hlater) hsettled
      hbecomes
  refine ⟨scripts, rfl, hplugins, hnodup, hpaths, ?_, ?_, ?_⟩
  · rw [hpaths]
    exact WrapperWriter.pairwise_pathOf_iff hlastWraps
  · rintro front script back rfl haside
    rw [List.map_append, List.map_cons] at hfiles
    obtain ⟨location, hown⟩ := WrapperWriter.find_of_each (hsound.consistent hfound) heach hfiles.symm
      fun file hfile => by
        obtain ⟨other, hother, rfl⟩ := List.mem_map.1 hfile
        exact haside other hother
    exact WrapperWriter.owns_of_find (hlasts script (by simp)) hown
  · intro hfree
    exact configured.writer.locate_pathOf_eq_iff hfree hwraps hfoundKept hclean heach

/-- A project with scripts of one name in two namespaces, and one of another name. -/
def namesakes : Tree :=
  let home := Utf8.ofString "home"
  let source := Utf8.ofString "src"
  let tool := Utf8.ofString "tool.gradle.kts"
  { entries := [([home], .directory), ([home, source], .directory),
      ([home, source, Utf8.ofString "a"], .directory),
      ([home, source, Utf8.ofString "a", tool], .file (Utf8.ofString "package a\n")),
      ([home, source, Utf8.ofString "b"], .directory),
      ([home, source, Utf8.ofString "b", tool], .file (Utf8.ofString "package b\n")),
      ([home, source, Utf8.ofString "job.gradle.kts"], .file [])]
    home := [home] }

def overNamesakes : Pass :=
  new { Layout.default with
      sourceRoot := .ofString "src", generatedDirectory := .ofString "out" }
    (.ofImports []) .files

def configureNamesakes : Outcome (Pass × Schedule × Compiler) Failure Unit :=
  overNamesakes.configure (.ofTasks ["compileKotlin", "pluginDescriptors"]) (.new none) namesakes

def generateNamesakes : Outcome (Pass × Tree) Failure (List Path) :=
  configureNamesakes.state.1.generate namesakes

def declareNamesakes : Outcome (Pass × Catalog) Failure Nat :=
  generateNamesakes.state.1.declare .empty generateNamesakes.state.2

theorem answer_configureNamesakes : configureNamesakes.answer = .ok () := by
  decide +kernel

theorem answer_generateNamesakes : generateNamesakes.answer =
    .ok [.ofString "out/Tool.kt", .ofString "out/Tool.kt", .ofString "out/Job.kt"] := by
  decide +kernel

theorem answer_declareNamesakes : declareNamesakes.answer = .ok 3 := by
  decide +kernel

theorem owns_of_no_later_namesakes :
    overNamesakes.Reached ∧ '/' ∉ overNamesakes.layout.wrapperExtension.toList ∧
      configureNamesakes.answer = .ok () ∧
      generateNamesakes.answer =
        .ok [.ofString "out/Tool.kt", .ofString "out/Tool.kt", .ofString "out/Job.kt"] ∧
      declareNamesakes.answer = .ok 3 ∧
      (declareNamesakes.state.2.plugins.map Plugin.id).Nodup ∧
      ∃ scripts, declareNamesakes.state.1.scripts = some scripts ∧
        ∀ front script, scripts = front ++ [script] →
          declareNamesakes.state.1.writer.Owns generateNamesakes.state.2 script := by
  have hreached : overNamesakes.Reached := .new ..
  have hextension : '/' ∉ overNamesakes.layout.wrapperExtension.toList := by decide
  obtain ⟨scripts, hscripts, -, hnodup, -, -, howns, -⟩ := owns_of_no_later hreached hextension
    ⟨answer_configureNamesakes, rfl⟩ ⟨answer_generateNamesakes, rfl⟩ ⟨answer_declareNamesakes, rfl⟩
  refine ⟨hreached, hextension, answer_configureNamesakes, answer_generateNamesakes,
    answer_declareNamesakes, hnodup, scripts, hscripts, ?_⟩
  intro front script hlast
  exact howns front script [] hlast nofun

/-- Everything succeeds and there are three ids. Yet two wrappers have one path, and there are two files
in the end. -/
theorem namesakes_share_wrapper :
    configureNamesakes.answer = .ok () ∧
      generateNamesakes.answer =
        .ok [.ofString "out/Tool.kt", .ofString "out/Tool.kt", .ofString "out/Job.kt"] ∧
      declareNamesakes.answer = .ok 3 ∧
      declareNamesakes.state.2.plugins.map Plugin.id = ["a.tool", "b.tool", "job"] ∧
      ¬ [Path.ofString "out/Tool.kt", .ofString "out/Tool.kt", .ofString "out/Job.kt"].Pairwise
        (fun path other => ¬ path.same other) ∧
      (generateNamesakes.state.2.below [Utf8.ofString "home", Utf8.ofString "out"]).map Prod.fst =
        [[Utf8.ofString "Tool.kt"], [Utf8.ofString "Job.kt"]] := by
  refine ⟨answer_configureNamesakes, answer_generateNamesakes, answer_declareNamesakes, ?_, ?_, ?_⟩
  · decide +kernel
  · decide +kernel
  · decide +kernel

end Pass

end ScriptPlugins
