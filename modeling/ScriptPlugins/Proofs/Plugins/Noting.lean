import ScriptPlugins.Proofs.Plugins.Wrapping

/-!
# What a script takes note of

Being asked for its plugin and having its wrapper written leave their marks on a script: its namespace
and its class in both cases, and its id in the one and its compiled class in the other. What the marks
are is told by the script and its namespace alone, so it makes no difference which comes first.
-/

namespace ScriptPlugins

open Text

namespace Script

variable {script : Script} {tree other : Tree} {space : Option String}

/-- The script once it has been asked for its plugin. -/
def notePlugin (script : Script) (space : Option String) : Script :=
  { script with
    declared := some space
    knownId := some (qualify space script.stem)
    knownClass := some (Naming.wrapperClass script.stem) }

/-- The script once its wrapper has been written. -/
def noteWrapper (script : Script) (space : Option String) : Script :=
  { script with
    declared := some space
    knownClass := some (Naming.wrapperClass script.stem)
    knownType := some (qualify space (Naming.compiledClass script.fileName)) }

theorem notePlugin_noteWrapper (script : Script) (space : Option String) :
    (script.noteWrapper space).notePlugin space = (script.notePlugin space).noteWrapper space :=
  rfl

theorem namespace?_of_spaceIn (h : script.spaceIn tree = .ok space) :
    script.namespace? tree = .ok (space, { script with declared := some space }) := by
  rw [spaceIn] at h
  rw [namespace?]
  cases hdeclared : script.declared with
  | some found =>
      rw [hdeclared] at h
      obtain rfl := Except.ok.inj h
      have hsame : { script with declared := some found } = script := by rw [← hdeclared]
      rw [hsame]
  | none =>
      rw [hdeclared] at h
      cases hload : script.load tree with
      | error failure =>
          rw [hload] at h
          cases h
      | ok text =>
          rw [hload] at h
          obtain rfl := Except.ok.inj h
          rfl

theorem Consistent.implementationClass_notes (h : script.Consistent) :
    script.implementationClass = (Naming.wrapperClass script.stem,
      { script with knownClass := some (Naming.wrapperClass script.stem) }) := by
  rw [Script.implementationClass]
  cases hknown : script.knownClass with
  | none => rfl
  | some name =>
      obtain rfl := h.implementationClass name hknown
      have hsame : { script with knownClass := some (Naming.wrapperClass script.stem) } = script := by
        rw [← hknown]
      rw [hsame]

theorem Consistent.id_notes (hscript : script.Consistent) (h : script.spaceIn tree = .ok space) :
    script.id tree = .ok (qualify space script.stem,
      { script with declared := some space, knownId := some (qualify space script.stem) }) := by
  rw [Script.id]
  cases hknown : script.knownId with
  | none => simp only [qualified, namespace?_of_spaceIn h, Except.map]
  | some id =>
      obtain ⟨found, hdeclared, rfl⟩ := hscript.id id hknown
      obtain rfl := Except.ok.inj ((spaceIn_of_declared hdeclared tree).symm.trans h)
      have hsame : { script with
          declared := some found
          knownId := some (qualify found script.stem) } = script := by
        rw [← hdeclared, ← hknown]
      rw [hsame]

theorem Consistent.compiledType_notes (hscript : script.Consistent)
    (h : script.spaceIn tree = .ok space) :
    script.compiledType tree = .ok (qualify space (Naming.compiledClass script.fileName),
      { script with
        declared := some space
        knownType := some (qualify space (Naming.compiledClass script.fileName)) }) := by
  rw [Script.compiledType]
  cases hknown : script.knownType with
  | none => simp only [qualified, namespace?_of_spaceIn h, Except.map]
  | some name =>
      obtain ⟨found, hdeclared, rfl⟩ := hscript.compiledType name hknown
      obtain rfl := Except.ok.inj ((spaceIn_of_declared hdeclared tree).symm.trans h)
      have hsame : { script with
          declared := some found
          knownType := some (qualify found (Naming.compiledClass script.fileName)) } = script := by
        rw [← hdeclared, ← hknown]
      rw [hsame]

theorem Consistent.plugin_notes (hscript : script.Consistent)
    (h : script.spaceIn tree = .ok space) :
    script.plugin tree = .ok (script.pluginIn space, script.notePlugin space) := by
  obtain ⟨named, hid, hnamed⟩ := hscript.id_eq_ok h
  obtain ⟨-, rfl⟩ := Prod.mk.inj (Except.ok.inj ((hscript.id_notes h).symm.trans hid))
  rw [Script.plugin, hid]
  simp only [Except.map, hnamed.consistent.implementationClass_notes]
  rfl

theorem Consistent.learnt_notePlugin (hscript : script.Consistent)
    (h : script.spaceIn tree = .ok space) : script.Learnt space (script.notePlugin space) := by
  obtain ⟨later, hplugin, hlearnt⟩ := hscript.plugin_eq_ok h
  obtain ⟨-, rfl⟩ := Prod.mk.inj (Except.ok.inj ((hscript.plugin_notes h).symm.trans hplugin))
  exact hlearnt

theorem plugin_congr (h : script.load tree = script.load other) :
    script.plugin tree = script.plugin other := by
  simp only [plugin, id, qualified, namespace?, h]

theorem spaceIn_congr_load (h : script.load tree = script.load other) :
    script.spaceIn tree = script.spaceIn other := by
  rw [spaceIn, spaceIn, h]

end Script

namespace WrapperWriter

variable {script : Script} {space : Option String} {tree : Tree}

theorem deposit_onState (writer : WrapperWriter) (script later other : Script)
    (space : Option String) (tree : Tree) : writer.deposit script later space tree =
      (writer.deposit script other space tree).onState fun state => (later, state.2) := by
  rw [deposit, deposit]
  rcases tree.makeDirectories writer.directory with ⟨answer, made⟩
  cases answer with
  | error fault => rfl
  | ok done =>
      cases hwrite : made.write (writer.pathOf script) (writer.sourceOf script space) with
      | error fault => simp only [hwrite]; rfl
      | ok written => simp only [hwrite]; rfl

theorem state_fst_write (writer : WrapperWriter) (hscript : script.Consistent) {name : String}
    (htype : script.knownType = some name) (tree : Tree) :
    (writer.write script tree).state.1 =
      { script with knownClass := some (Naming.wrapperClass script.stem) } := by
  simp only [write, hscript.implementationClass_notes, Script.compiledType, htype]
  rcases tree.makeDirectories writer.directory with ⟨answer, made⟩
  cases answer with
  | error fault => rfl
  | ok done =>
      dsimp only
      split <;> rfl

theorem writeWrapper_notes (writer : WrapperWriter) (hscript : script.Consistent)
    (h : script.spaceIn tree = .ok space) : script.Learnt space (script.noteWrapper space) ∧
      (Pass.writeWrapper writer script tree).answer =
        (writer.deposit script script space tree).answer ∧
      (Pass.writeWrapper writer script tree).state =
        (script.noteWrapper space, (writer.deposit script script space tree).state.2) := by
  obtain ⟨typed, htype, htyped⟩ := hscript.compiledType_eq_ok h
  obtain ⟨-, hsame⟩ := Prod.mk.inj (Except.ok.inj ((hscript.compiledType_notes h).symm.trans htype))
  obtain ⟨later, hlearnt, hanswer, hstate⟩ := writer.writeWrapper_of_spaceIn_eq_ok hscript h
  have hnoted : (Pass.writeWrapper writer script tree).state.1 = script.noteWrapper space := by
    rw [Pass.writeWrapper, htype]
    refine (state_fst_write writer htyped.consistent (congrArg Script.knownType hsame.symm)
      tree).trans ?_
    rw [← hsame]
    rfl
  rw [writer.deposit_onState script later script] at hanswer hstate
  rw [hstate] at hnoted ⊢
  obtain rfl : later = script.noteWrapper space := hnoted
  exact ⟨hlearnt, hanswer, rfl⟩

end WrapperWriter

namespace Pass

variable {script : Script} {space : Option String} {tree before after : Tree}

theorem declareScript_notes (hscript : script.Consistent) (h : script.spaceIn tree = .ok space)
    (catalog : Catalog) :
    (declareScript tree script catalog).answer = (catalog.register (script.pluginIn space)).answer ∧
      (declareScript tree script catalog).state =
        (script.notePlugin space, (catalog.register (script.pluginIn space)).state) := by
  rw [declareScript, hscript.plugin_notes h]
  obtain ⟨hanswer, hstate⟩ := ((catalog.register (script.pluginIn space)).onState
    (script.notePlugin space, ·)).andThen_ok (fun _ => ()) [event .debug "Declared script plugin"]
  refine ⟨hanswer.trans ?_, hstate⟩
  rw [Outcome.answer_onState]
  cases (catalog.register (script.pluginIn space)).answer <;> rfl

theorem declareScript_congr (h : script.load after = script.load before) :
    declareScript after script = declareScript before script := by
  funext catalog
  rw [declareScript, declareScript, Script.plugin_congr h]

end Pass

end ScriptPlugins
