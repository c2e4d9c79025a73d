import ScriptPlugins.Proofs.Plugins.Configuring
import ScriptPlugins.Proofs.Source.Naming

/-!
# The classes of a script

Of a script's two classes, configuring looks at the one of the wrapper. It refuses the first script
whose stem is not acceptable, and which stems are can be seen from their characters.

Nobody looks at the compiled class before its wrapper is written, and then there is only a warning.
With a namespace in front, it is a qualified name if the namespace is one and if the letter that the
file name starts with keeps its mark in upper case. A script that configuring accepts starts with no
other letter.
-/

namespace ScriptPlugins

open Text Naming Identifier

namespace Pass

variable {layout : Layout} {schedule : Schedule} {scripts : List Script} {path : Path} {name : String}

theorem objection?_eq_invalidClassName_iff :
    objection? layout scripts schedule = some (.invalidClassName path name) ↔
      ∃ front script back, scripts = front ++ script :: back ∧
        (∀ other ∈ front, isTypeName other.wrapperClass = true) ∧
        isTypeName script.wrapperClass = false ∧ path = script.path ∧ name = script.wrapperClass := by
  rw [objection?]
  cases hbad : scripts.find? (!isTypeName ·.wrapperClass) with
  | some script =>
      obtain ⟨hscript, front, back, hsplit, hfront⟩ := List.find?_eq_some_iff_append.1 hbad
      simp only [Option.some.injEq, Failure.invalidClassName.injEq]
      constructor
      · rintro ⟨rfl, rfl⟩
        exact ⟨front, script, back, hsplit, by simpa using hfront, by simpa using hscript, rfl, rfl⟩
      · rintro ⟨front', script', back', hsplit', hfront', hscript', rfl, rfl⟩
        have hbad' : scripts.find? (!isTypeName ·.wrapperClass) = some script' := by
          rw [List.find?_eq_some_iff_append]
          exact ⟨by simpa using hscript', front', back', hsplit', by simpa using hfront'⟩
        obtain rfl := Option.some.inj (hbad.symm.trans hbad')
        exact ⟨rfl, rfl⟩
  | none =>
      rw [List.find?_eq_none] at hbad
      constructor
      · intro h
        dsimp only at h
        split at h <;> cases h
      · rintro ⟨front, script, back, rfl, -, hscript, -⟩
        have hname := hbad script (List.mem_append_right front List.mem_cons_self)
        rw [hscript] at hname
        exact absurd rfl hname

/-- **Accepted names.** The stems whose class is a type name are the acceptable ones, and their class
is made of their words, each with a capital. So configuring refuses a pass for a class name if a stem
is not acceptable, and it names the first script with such a stem. -/
theorem accepted_stems (stem : String) :
    (isTypeName (wrapperClass stem) = true ↔ Acceptable stem.toList) ∧
      (Acceptable stem.toList →
        wrapperClass stem = String.ofList ((words stem.toList).flatMap capitalize)) ∧
      ∀ (pass : Pass) schedule compiler tree scripts, pass.Reached → pass.phase = .created →
        (pass.find tree).answer = .ok scripts → ∀ path name,
        ((pass.configure schedule compiler tree).answer = .error (.invalidClassName path name) ↔
          ∃ front script back, scripts = front ++ script :: back ∧
            (∀ other ∈ front, Acceptable other.stem.toList) ∧ ¬Acceptable script.stem.toList ∧
            path = script.path ∧ name = wrapperClass script.stem) := by
  refine ⟨isTypeName_wrapperClass_iff, wrapperClass_eq, ?_⟩
  intro pass schedule compiler tree scripts hpass hphase hfind path name
  have hconsistent := (hpass.find tree).sound.consistent (scripts_find hfind)
  have hclass : ∀ script ∈ scripts, script.wrapperClass = wrapperClass script.stem :=
    fun script hscript => (hconsistent script hscript).wrapperClass_eq
  have hnames : ∀ script ∈ scripts,
      isTypeName script.wrapperClass = true ↔ Acceptable script.stem.toList := by
    intro script hscript
    rw [hclass script hscript, isTypeName_wrapperClass_iff]
  have hanswer : (pass.configure schedule compiler tree).answer =
        .error (.invalidClassName path name) ↔
      objection? pass.layout scripts schedule = some (.invalidClassName path name) := by
    obtain ⟨hobjected, hconfigured⟩ :=
      @configure_of_found pass schedule compiler tree _ hphase hfind
    cases hobjection : objection? pass.layout scripts schedule with
    | some failure => rw [(hobjected failure hobjection).1, Except.error.injEq, Option.some.injEq]
    | none =>
        rw [(hconfigured hobjection).1]
        exact ⟨nofun, nofun⟩
  rw [hanswer, objection?_eq_invalidClassName_iff]
  refine exists_congr fun front => exists_congr fun script => exists_congr fun back => ?_
  refine and_congr_right fun hsplit => ?_
  have hscript : script ∈ scripts := hsplit ▸ List.mem_append_right front List.mem_cons_self
  have hfront : ∀ other ∈ front, other ∈ scripts := fun other hother =>
    hsplit ▸ List.mem_append_left _ hother
  rw [← hnames script hscript, Bool.not_eq_true, hclass script hscript]
  refine and_congr_left' (forall₂_congr fun other hother => ?_)
  rw [hnames other (hfront other hother)]

/-- Two scripts, the second with a separator too many. -/
def doubled : Pass :=
  new .default (.ofImports []) fun _ _ _ _ =>
    (.ok [.ofString "my-plugin.v2.gradle.kts", .ofString "a--b.gradle.kts"], [])

theorem accepted_stems_doubled :
    let outcome := doubled.configure .empty (.new none) .empty
    doubled.Reached ∧ doubled.phase = .created ∧ Acceptable "my-plugin.v2".toList ∧
      ¬Acceptable "a--b".toList ∧ wrapperClass "my-plugin.v2" = "MyPluginV2" ∧
      outcome.answer = .error (.invalidClassName (.ofString "a--b.gradle.kts") "A-B") := by
  intro outcome
  obtain ⟨hfirst, hwords, hconfigure⟩ := accepted_stems "my-plugin.v2"
  obtain ⟨hsecond, -⟩ := accepted_stems "a--b"
  let first := doubled.layout.scriptAt (.ofString "my-plugin.v2.gradle.kts")
  let second := doubled.layout.scriptAt (.ofString "a--b.gradle.kts")
  have hfirstStem : first.stem = "my-plugin.v2" := by decide +kernel
  have hsecondStem : second.stem = "a--b" := by decide +kernel
  have hpass : doubled.Reached := .new ..
  have hfind : (doubled.find .empty).answer = .ok [first, second] := rfl
  replace hfirst : Acceptable "my-plugin.v2".toList := hfirst.1 (by decide +kernel)
  replace hsecond : ¬Acceptable "a--b".toList := by
    rw [← hsecond]
    decide +kernel
  refine ⟨hpass, rfl, hfirst, hsecond, ?_, ?_⟩
  · rw [hwords hfirst]
    decide +kernel
  · rw [hconfigure _ _ _ _ _ hpass rfl hfind]
    refine ⟨[first], second, [], rfl, ?_, hsecondStem ▸ hsecond, by decide +kernel,
      by decide +kernel⟩
    intro other hother
    rw [List.mem_singleton.1 hother, hfirstStem]
    exact hfirst

end Pass

theorem Script.isQualified_qualify_iff {space : Option String} {name : String} :
    isQualified (qualify space name) = true ↔
      isQualified name = true ∧ ∀ declared, space = some declared → isQualified declared = true := by
  cases space with
  | none => exact ⟨fun h => ⟨h, nofun⟩, fun h => h.1⟩
  | some declared =>
      rw [qualify, isQualified_append_iff, and_comm]
      exact and_congr_right' ⟨fun h _ heq => Option.some.inj heq ▸ h, fun h => h declared rfl⟩

namespace Naming

/-- **Compiled classes are legal but for marks.** The compiled class has no dot, and it is a qualified
name exactly if the file name does not start with a letter that loses its mark in upper case. With
that letter out of the way, the full name of the compiled class is qualified exactly if the namespace
is, where there is one. No script that configuring accepts starts with such a letter. -/
theorem compiled_class_legal (fileName : String) :
    '.' ∉ (compiledClass fileName).toList ∧
      (isQualified (compiledClass fileName) = true ↔
        ∀ c, fileName.toList.head? = some c → isMarked c = false) ∧
      (∀ script : Script, script.Reached → script.fileName = fileName →
        ∀ tree name later space known, script.compiledType tree = .ok (name, later) →
        script.namespace? tree = .ok (space, known) →
        (isQualified name = true ↔
          (∀ c, fileName.toList.head? = some c → isMarked c = false) ∧
            ∀ declared, space = some declared → isQualified declared = true)) ∧
      ∀ suffix, isTypeName (wrapperClass (stem fileName suffix)) = true →
        isQualified (compiledClass fileName) = true := by
  refine ⟨dot_notMem_compiledClass fileName, isQualified_compiledClass_iff, ?_,
    fun suffix => isQualified_compiledClass_of_isTypeName⟩
  rintro script hscript rfl tree name later space known htype hspace
  have hconsistent := hscript.consistent
  cases hfound : script.spaceIn tree with
  | error failure => cases (Script.namespace?_eq_error hfound).symm.trans hspace
  | ok found =>
      obtain ⟨_, hknown, -⟩ := hconsistent.namespace?_eq_ok hfound
      obtain ⟨_, htyped, -⟩ := hconsistent.compiledType_eq_ok hfound
      obtain ⟨rfl, -⟩ := Prod.mk.inj (Except.ok.inj (hknown.symm.trans hspace))
      obtain ⟨rfl, -⟩ := Prod.mk.inj (Except.ok.inj (htyped.symm.trans htype))
      rw [Script.isQualified_qualify_iff, isQualified_compiledClass_iff]

/-- *ß* becomes two letters, and no mark. -/
theorem compiled_class_legal_sharp :
    let script := Script.ofText (.ofString "\u00df-tool.gradle.kts") ".gradle.kts" "package org.acme\n"
    script.Reached ∧ compiledClass script.fileName = "SS_tool_gradle" ∧
      isQualified "SS_tool_gradle" = true ∧ isQualified "org.acme.SS_tool_gradle" = true := by
  intro script
  have hscript : script.Reached := .ofText ..
  have hclass : compiledClass script.fileName = "SS_tool_gradle" := by decide +kernel
  have hspace : script.namespace? .empty =
      .ok (some "org.acme", { script with declared := some (some "org.acme") }) := by
    decide +kernel
  have htype : script.compiledType .empty = .ok ("org.acme.SS_tool_gradle",
      { script with
        declared := some (some "org.acme")
        knownType := some "org.acme.SS_tool_gradle" }) := by
    decide +kernel
  obtain ⟨-, -, hfull, haccepted⟩ := compiled_class_legal script.fileName
  have hlegal := haccepted ".gradle.kts" (by decide +kernel)
  rw [hclass] at hlegal
  refine ⟨hscript, hclass, hlegal, (hfull script hscript rfl _ _ _ _ _ htype hspace).2 ⟨?_, ?_⟩⟩
  · intro c hhead
    obtain rfl : '\u00df' = c := by
      rw [← Option.some.injEq, ← hhead]
      decide +kernel
    decide
  · rintro declared ⟨⟩
    decide

/-- The capital of *j* with a caron is *J*, and the caron comes after it. -/
theorem caron_in_compiled_class :
    compiledClass "\u01f0.gradle.kts" = "J\u030c_gradle" ∧
      ¬∀ fileName, '.' ∉ (compiledClass fileName).toList ∧
        isQualified (compiledClass fileName) = true := by
  have hclass : compiledClass "\u01f0.gradle.kts" = "J\u030c_gradle" := by decide +kernel
  refine ⟨hclass, fun h => ?_⟩
  obtain ⟨-, hqualified⟩ := h "\u01f0.gradle.kts"
  rw [hclass] at hqualified
  exact absurd hqualified (by decide +kernel)

end Naming

end ScriptPlugins
