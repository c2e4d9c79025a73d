import ScriptPlugins.Plugins.Script

/-!
# What a script remembers

A script keeps four things apart: its namespace, its id, its class and its compiled class, each from
when it is first asked for. The id and the compiled class are in the namespace, so what is kept of
them has to agree with the namespace that is kept. That is `Consistent`, and every question keeps it.

Under it a question has one of two outcomes, by `spaceIn` alone: the namespace cannot be found out,
and then nothing is learnt, or it can, and then it is kept and the answer follows from it.
-/

namespace ScriptPlugins.Script

/-- What is kept agrees with the namespace that is kept. -/
structure Consistent (script : Script) : Prop where
  id : ∀ id, script.knownId = some id →
    ∃ space, script.declared = some space ∧ id = qualify space script.stem
  implementationClass : ∀ name, script.knownClass = some name →
    name = Naming.wrapperClass script.stem
  compiledType : ∀ name, script.knownType = some name →
    ∃ space, script.declared = some space ∧
      name = qualify space (Naming.compiledClass script.fileName)

/-- The script as it was before anything was asked. -/
def forget (script : Script) : Script :=
  { script with declared := none, knownId := none, knownClass := none, knownType := none }

/-- The namespace that a question would find. -/
def spaceIn (script : Script) (tree : Tree) : Except Failure (Option String) :=
  match script.declared with
  | some found => .ok found
  | none => (script.load tree).map (Namespace.declaredIn · script.keywords)

/-- What a script has become that has found out its namespace. -/
structure Learnt (script : Script) (space : Option String) (later : Script) : Prop where
  consistent : later.Consistent
  declared : later.declared = some space
  forget : later.forget = script.forget

/-- The namespace that a script has found out; none before it has. -/
def knownSpace (script : Script) : Option String :=
  script.declared.getD none

variable {script later : Script} {tree : Tree} {space : Option String} {failure : Failure}

theorem Learnt.knownSpace (h : script.Learnt space later) : later.knownSpace = space := by
  rw [Script.knownSpace, h.declared, Option.getD_some]

theorem consistent_ofPath (path : Path) (suffix : String) : (ofPath path suffix).Consistent :=
  ⟨nofun, nofun, nofun⟩

theorem consistent_ofText (path : Path) (suffix text : String) :
    (ofText path suffix text).Consistent :=
  ⟨nofun, nofun, nofun⟩

/-- Only the class survives other keywords, and it does not depend on them. -/
theorem Consistent.withKeywords (h : script.Consistent) (keywords : List String) :
    (script.withKeywords keywords).Consistent :=
  ⟨nofun, h.implementationClass, nofun⟩

theorem forget_eq_iff : later.forget = script.forget ↔
    later.path = script.path ∧ later.fileName = script.fileName ∧ later.stem = script.stem ∧
      later.keywords = script.keywords ∧ later.text = script.text := by
  simp [forget]

theorem load_of_forget (h : later.forget = script.forget) (tree : Tree) :
    later.load tree = script.load tree := by
  obtain ⟨hpath, -, -, -, htext⟩ := forget_eq_iff.1 h
  rw [load, load, htext, hpath]

theorem Consistent.implementationClass_eq (h : script.Consistent) :
    script.implementationClass.1 = Naming.wrapperClass script.stem := by
  unfold Script.implementationClass
  cases hknown : script.knownClass with
  | none => rfl
  | some name => exact h.implementationClass name hknown

theorem Consistent.wrapperClass_eq (h : script.Consistent) :
    script.wrapperClass = Naming.wrapperClass script.stem :=
  h.implementationClass_eq

theorem forget_implementationClass (script : Script) :
    script.implementationClass.2.forget = script.forget := by
  unfold Script.implementationClass
  cases script.knownClass <;> rfl

theorem declared_implementationClass (script : Script) :
    script.implementationClass.2.declared = script.declared := by
  unfold Script.implementationClass
  cases script.knownClass <;> rfl

theorem Consistent.implementationClass_snd (h : script.Consistent) :
    script.implementationClass.2.Consistent := by
  unfold Script.implementationClass
  cases hknown : script.knownClass with
  | none => exact ⟨h.id, fun name hname => (Option.some.inj hname).symm, h.compiledType⟩
  | some name => exact h

theorem spaceIn_congr (hdeclared : later.declared = script.declared)
    (hforget : later.forget = script.forget) (tree : Tree) :
    later.spaceIn tree = script.spaceIn tree := by
  rw [spaceIn, spaceIn, hdeclared, load_of_forget hforget, (forget_eq_iff.1 hforget).2.2.2.1]

theorem spaceIn_of_declared (h : script.declared = some space) (tree : Tree) :
    script.spaceIn tree = .ok space := by
  rw [spaceIn, h]

theorem toOption_spaceIn (script : Script) (tree : Tree) :
    (script.spaceIn tree).toOption =
      script.declared.or ((script.load tree).toOption.map
        (Namespace.declaredIn · script.keywords)) := by
  unfold spaceIn
  cases script.declared with
  | some found => rfl
  | none => cases script.load tree <;> rfl

theorem namespace?_eq_error (h : script.spaceIn tree = .error failure) :
    script.namespace? tree = .error failure := by
  unfold spaceIn at h
  unfold namespace?
  cases hdeclared : script.declared with
  | some found => simp [hdeclared] at h
  | none =>
      cases hload : script.load tree with
      | error fault => simpa [hdeclared, hload, Except.map] using h
      | ok text => simp [hdeclared, hload, Except.map] at h

theorem Consistent.namespace?_eq_ok (hscript : script.Consistent)
    (h : script.spaceIn tree = .ok space) :
    ∃ later, script.namespace? tree = .ok (space, later) ∧ script.Learnt space later := by
  unfold spaceIn at h
  unfold namespace?
  cases hdeclared : script.declared with
  | some found =>
      obtain rfl : found = space := by simpa [hdeclared] using h
      exact ⟨script, rfl, hscript, hdeclared, rfl⟩
  | none =>
      cases hload : script.load tree with
      | error fault => simp [hdeclared, hload, Except.map] at h
      | ok text =>
          obtain rfl : Namespace.declaredIn text script.keywords = space := by
            simpa [hdeclared, hload, Except.map] using h
          refine ⟨_, rfl, ⟨?_, hscript.implementationClass, ?_⟩, rfl, rfl⟩
          · intro id hid
            obtain ⟨space, hspace, -⟩ := hscript.id id hid
            simp [hdeclared] at hspace
          · intro name hname
            obtain ⟨space, hspace, -⟩ := hscript.compiledType name hname
            simp [hdeclared] at hspace

theorem Learnt.spaceIn (h : script.Learnt space later) (tree : Tree) :
    later.spaceIn tree = .ok space :=
  spaceIn_of_declared h.declared tree

theorem Learnt.trans {last : Script} (h : script.Learnt space later)
    (h' : later.Learnt space last) : script.Learnt space last :=
  ⟨h'.consistent, h'.declared, h'.forget.trans h.forget⟩

theorem qualified_eq_error (h : script.spaceIn tree = .error failure) (name : String) :
    script.qualified tree name = .error failure := by
  rw [qualified, namespace?_eq_error h, Except.map]

theorem Consistent.qualified_eq_ok (hscript : script.Consistent)
    (h : script.spaceIn tree = .ok space) (name : String) :
    ∃ later, script.qualified tree name = .ok (qualify space name, later) ∧
      script.Learnt space later := by
  obtain ⟨later, hfound, hlearnt⟩ := hscript.namespace?_eq_ok h
  exact ⟨later, by rw [qualified, hfound, Except.map], hlearnt⟩

/-- A script that cannot find out its namespace has kept no name in it. -/
theorem Consistent.known_eq_none (hscript : script.Consistent)
    (h : script.spaceIn tree = .error failure) :
    script.declared = none ∧ script.knownId = none ∧ script.knownType = none := by
  have hdeclared : script.declared = none := by
    cases hdeclared : script.declared with
    | none => rfl
    | some found => simp [spaceIn_of_declared hdeclared] at h
  refine ⟨hdeclared, ?_, ?_⟩
  · cases hid : script.knownId with
    | none => rfl
    | some id =>
        obtain ⟨space, hspace, -⟩ := hscript.id id hid
        simp [hdeclared] at hspace
  · cases htype : script.knownType with
    | none => rfl
    | some name =>
        obtain ⟨space, hspace, -⟩ := hscript.compiledType name htype
        simp [hdeclared] at hspace

theorem Consistent.id_eq_error (hscript : script.Consistent)
    (h : script.spaceIn tree = .error failure) : script.id tree = .error failure := by
  rw [Script.id, (hscript.known_eq_none h).2.1]
  simp only [qualified_eq_error h, Except.map]

theorem Consistent.id_eq_ok (hscript : script.Consistent) (h : script.spaceIn tree = .ok space) :
    ∃ later, script.id tree = .ok (qualify space script.stem, later) ∧
      script.Learnt space later := by
  cases hknown : script.knownId with
  | some id =>
      obtain ⟨found, hdeclared, rfl⟩ := hscript.id id hknown
      obtain rfl : found = space := by simpa [spaceIn_of_declared hdeclared] using h
      exact ⟨script, by rw [Script.id, hknown], hscript, hdeclared, rfl⟩
  | none =>
      obtain ⟨later, hqualified, hlearnt⟩ := hscript.qualified_eq_ok h script.stem
      obtain ⟨hlater, hdeclared, hforget⟩ := hlearnt
      refine ⟨{ later with knownId := some (qualify space script.stem) }, ?_, ?_, hdeclared, hforget⟩
      · rw [Script.id, hknown]
        simp only [hqualified, Except.map]
      · refine ⟨?_, hlater.implementationClass, hlater.compiledType⟩
        rintro id ⟨⟩
        exact ⟨space, hdeclared, by rw [(forget_eq_iff.1 hforget).2.2.1]⟩

theorem Consistent.compiledType_eq_error (hscript : script.Consistent)
    (h : script.spaceIn tree = .error failure) : script.compiledType tree = .error failure := by
  rw [Script.compiledType, (hscript.known_eq_none h).2.2]
  simp only [qualified_eq_error h, Except.map]

theorem Consistent.compiledType_eq_ok (hscript : script.Consistent)
    (h : script.spaceIn tree = .ok space) :
    ∃ later, script.compiledType tree =
        .ok (qualify space (Naming.compiledClass script.fileName), later) ∧
      script.Learnt space later := by
  cases hknown : script.knownType with
  | some name =>
      obtain ⟨found, hdeclared, rfl⟩ := hscript.compiledType name hknown
      obtain rfl : found = space := by simpa [spaceIn_of_declared hdeclared] using h
      exact ⟨script, by rw [Script.compiledType, hknown], hscript, hdeclared, rfl⟩
  | none =>
      obtain ⟨later, hqualified, hlearnt⟩ :=
        hscript.qualified_eq_ok h (Naming.compiledClass script.fileName)
      obtain ⟨hlater, hdeclared, hforget⟩ := hlearnt
      refine ⟨{ later with
        knownType := some (qualify space (Naming.compiledClass script.fileName)) },
        ?_, ?_, hdeclared, hforget⟩
      · rw [Script.compiledType, hknown]
        simp only [hqualified, Except.map]
      · refine ⟨hlater.id, hlater.implementationClass, ?_⟩
        rintro name ⟨⟩
        exact ⟨space, hdeclared, by rw [(forget_eq_iff.1 hforget).2.1]⟩

theorem Consistent.plugin_eq_error (hscript : script.Consistent)
    (h : script.spaceIn tree = .error failure) : script.plugin tree = .error failure := by
  rw [Script.plugin, hscript.id_eq_error h, Except.map]

theorem Learnt.implementationClass (h : script.Learnt space later) :
    script.Learnt space later.implementationClass.2 :=
  ⟨h.consistent.implementationClass_snd, (declared_implementationClass later).trans h.declared,
    (forget_implementationClass later).trans h.forget⟩

theorem Consistent.plugin_eq_ok (hscript : script.Consistent)
    (h : script.spaceIn tree = .ok space) :
    ∃ later, script.plugin tree =
        .ok (⟨qualify space script.stem, Naming.wrapperClass script.stem⟩, later) ∧
      script.Learnt space later := by
  obtain ⟨later, hid, hlearnt⟩ := hscript.id_eq_ok h
  refine ⟨later.implementationClass.2, ?_, hlearnt.implementationClass⟩
  simp only [Script.plugin, hid, Except.map, hlearnt.consistent.implementationClass_eq,
    (forget_eq_iff.1 hlearnt.forget).2.2.1]

end ScriptPlugins.Script
