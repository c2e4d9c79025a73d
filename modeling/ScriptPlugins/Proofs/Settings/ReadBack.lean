import Mathlib.Logic.Relation
import ScriptPlugins.Json.Reader
import ScriptPlugins.Proofs.Settings.Record

/-!
# Reading back what was written

What is written for settings is read as these settings again, and so it is after edits that say
nothing else: fields may be put in another order, a section that is the default one may go, and so
may a compiler's command that is null, and names that nobody asks for may come in. Plugins and
arguments of the compiler, which have nothing to leave out, are read back as they are.
-/

namespace ScriptPlugins

open Text

namespace Settings

variable {exact : Bool} {settings : Settings} {which : Section} {value other json edited : Json}
  {fields inner outer : List (Option String × Json)}

/-- A change of what is written for settings that says nothing else about them. -/
inductive Edit (settings : Settings) : Json → Json → Prop where
  | reorder {fields others : List (Option String × Json)} (h : fields.Perm others) :
      Edit settings (.object fields) (.object others)
  | reorderIn (which : Section) {inner outer fields : List (Option String × Json)}
      (h : inner.Perm outer) :
      Edit settings (.object ((some which.name, .object inner) :: fields))
        (.object ((some which.name, .object outer) :: fields))
  /-- A section goes that is the default one. -/
  | drop (which : Section) (value : Json) (fields : List (Option String × Json))
      (h : which.IsDefault settings) :
      Edit settings (.object ((some which.name, value) :: fields)) (.object fields)
  /-- The compiler's command goes, which is null. -/
  | dropCommand (inner fields : List (Option String × Json)) :
      Edit settings
        (.object ((some Section.compiler.name, .object ((some "command", .null) :: inner)) ::
          fields))
        (.object ((some Section.compiler.name, .object inner) :: fields))
  /-- A field comes in that is no section. -/
  | add (key : String) (value : Json) (fields : List (Option String × Json)) (h : key ∉ names) :
      Edit settings (.object fields) (.object ((some key, value) :: fields))
  /-- A field comes into a section that is no part of it. -/
  | addTo (which : Section) (key : String) (value : Json)
      (inner fields : List (Option String × Json)) (h : key ∉ which.partNames) :
      Edit settings (.object ((some which.name, .object inner) :: fields))
        (.object ((some which.name, .object ((some key, value) :: inner)) :: fields))

theorem ofJson?_drop (hdefault : which.IsDefault settings)
    (h : ofJson? exact (.object ((some which.name, value) :: fields)) = some settings) :
    ofJson? exact (.object fields) = some settings := by
  rw [ofJson?_object_iff, List.all_cons, Option.isSome_some, Bool.true_and] at h
  refine ofJson?_object_iff.2 ⟨h.1, fun asked => ?_⟩
  obtain ⟨part, hpart, hholds⟩ := h.2 asked
  by_cases heq : which = asked
  · subst heq
    have hgone := (Json.part?_cons_self_iff.1 hpart).2
    exact ⟨none, Json.part?_eq_some_iff.2 hgone, Section.holds_none hdefault⟩
  · rw [Json.part?_cons_of_ne fun hname => heq (Section.name_injective hname)] at hpart
    exact ⟨part, hpart, hholds⟩

/-- A section may be replaced by another that is read the same. -/
theorem ofJson?_replace (hread : which.Holds exact settings (some value) →
      which.Holds exact settings (some other))
    (h : ofJson? exact (.object ((some which.name, value) :: fields)) = some settings) :
    ofJson? exact (.object ((some which.name, other) :: fields)) = some settings := by
  rw [ofJson?_object_iff, List.all_cons] at h ⊢
  refine ⟨h.1, fun asked => ?_⟩
  obtain ⟨part, hpart, hholds⟩ := h.2 asked
  by_cases heq : which = asked
  · subst heq
    obtain ⟨rfl, hgone⟩ := Json.part?_cons_self_iff.1 hpart
    exact ⟨some other, Json.part?_cons_self_iff.2 ⟨rfl, hgone⟩, hread hholds⟩
  · have hne : which.name ≠ asked.name := fun hname => heq (Section.name_injective hname)
    rw [Json.part?_cons_of_ne hne] at hpart
    exact ⟨part, (Json.part?_cons_of_ne hne other fields).trans hpart, hholds⟩

/-- What a section is read as depends on its parts only. -/
theorem holds_of_parts (hparts : ∀ exact,
      Json.parts? exact which.partNames (.object outer) =
        Json.parts? exact which.partNames (.object inner))
    (h : which.Holds exact settings (some (.object inner))) :
    which.Holds exact settings (some (.object outer)) := by
  cases which <;> exact (congrArg (· >>= _) (hparts exact)).trans h

theorem holds_dropCommand (h : Section.compiler.Holds exact settings
      (some (.object ((some "command", .null) :: inner)))) :
    Section.compiler.Holds exact settings (some (.object inner)) := by
  obtain ⟨command, directory, hparts, hcommand, hdirectory⟩ :=
    CompilerSettings.ofJson?_eq_some_iff.1 h
  rw [Json.parts?_object_iff, List.all_cons, Option.isSome_some, Bool.true_and] at hparts
  obtain ⟨hnamed, hparts⟩ := hparts
  simp only [CompilerSettings.names, List.forall₂_cons] at hparts
  obtain ⟨commandPart, directoryPart, -⟩ := hparts
  obtain ⟨rfl, hgone⟩ := Json.part?_cons_self_iff.1 commandPart
  rw [Json.part?_cons_of_ne (by decide)] at directoryPart
  refine CompilerSettings.ofJson?_eq_some_iff.2 ⟨none, directory, ?_, hcommand, hdirectory⟩
  rw [Json.parts?_object_iff]
  exact ⟨hnamed, .cons (Json.part?_eq_some_iff.2 hgone) (.cons directoryPart .nil)⟩

theorem ofJson?_of_edit (hedit : settings.Edit json edited)
    (h : ofJson? exact json = some settings) : ofJson? exact edited = some settings := by
  cases hedit with
  | reorder hperm => rwa [ofJson?, ← Json.parts?_perm hperm]
  | reorderIn which hperm =>
      exact ofJson?_replace
        (holds_of_parts fun exact => (Json.parts?_perm hperm exact which.partNames).symm) h
  | drop which value fields hdefault => exact ofJson?_drop hdefault h
  | dropCommand inner fields => exact ofJson?_replace holds_dropCommand h
  | add key value fields hkey => rwa [ofJson?, Json.parts?_cons hkey]
  | addTo which key value inner fields hkey =>
      exact ofJson?_replace
        (holds_of_parts fun exact => Json.parts?_cons hkey exact value inner) h

theorem ofJson?_of_edits (hedits : Relation.ReflTransGen settings.Edit json edited)
    (h : ofJson? exact json = some settings) : ofJson? exact edited = some settings := by
  induction hedits with
  | refl => exact h
  | tail _ hedit ih => exact ofJson?_of_edit hedit ih

theorem isUnicode_of_ofJson? (h : ofJson? exact json = some settings) :
    settings.IsUnicode := by
  obtain ⟨layout, -, -, compiler, -, -, hlayout, -, -, hcompiler, -⟩ := ofJson?_eq_some_iff.1 h
  have hdirectories :
      settings.layout.sourceRoot.IsUnicode ∧ settings.layout.generatedDirectory.IsUnicode := by
    cases layout with
    | none =>
        rw [← Option.some.inj hlayout]
        exact ⟨isUnicode_default.sourceRoot, isUnicode_default.generatedDirectory⟩
    | some layout =>
        obtain ⟨_, _, _, _, _, _, -, hroot, -, -, -, hgenerated, -⟩ :=
          LayoutSettings.ofJson?_eq_some_iff.1 hlayout
        exact ⟨Json.isUnicode_of_path? hroot, Json.isUnicode_of_path? hgenerated⟩
  have hdescriptors : settings.compiler.descriptorsDirectory.IsUnicode := by
    cases compiler with
    | none =>
        rw [← Option.some.inj hcompiler]
        exact isUnicode_default.descriptorsDirectory
    | some compiler =>
        obtain ⟨_, _, -, -, hdirectory⟩ := CompilerSettings.ofJson?_eq_some_iff.1 hcompiler
        exact Json.isUnicode_of_path? hdirectory
  exact ⟨hdirectories.1, hdirectories.2, hdescriptors⟩

/-- Everything that is written is read back as it was: settings also after edits, and all that was
read from a text. -/
theorem written_reads_back :
    (∀ (exact : Bool) (settings : Settings) (json : Json), settings.IsUnicode →
      Relation.ReflTransGen settings.Edit settings.toJson json →
      ofJson? exact json = some settings) ∧
    (∀ plugin : Plugin, Plugin.ofJson? plugin.toJson = some plugin) ∧
    (∀ arguments : CompilerArguments,
      CompilerArguments.ofJson? arguments.toJson = some arguments) ∧
    ∀ (text : String) (json : Json), Json.parse text = some json →
      (∀ exact settings, ofJson? exact json = some settings →
        ofJson? exact settings.toJson = some settings) ∧
      (∀ plugin, Plugin.ofJson? json = some plugin →
        Plugin.ofJson? plugin.toJson = some plugin) ∧
      ∀ arguments, CompilerArguments.ofJson? json = some arguments →
        CompilerArguments.ofJson? arguments.toJson = some arguments := by
  refine ⟨fun exact settings json hunicode hedits =>
      ofJson?_of_edits hedits (ofJson?_toJson exact hunicode),
    Plugin.ofJson?_toJson, CompilerArguments.ofJson?_toJson, fun text json _ => ⟨?_, ?_, ?_⟩⟩
  · exact fun exact settings h => ofJson?_toJson exact (isUnicode_of_ofJson? h)
  · exact fun plugin _ => Plugin.ofJson?_toJson plugin
  · exact fun arguments _ => CompilerArguments.ofJson?_toJson arguments

/-- The default settings without a section and without a command, and with a word about them. -/
theorem written_reads_back_default :
    (ofJson? true (.ofFields [("about", .list []),
        ("toolchain", .ofFields [("descriptorsDir", .ofString "build/pluginDescriptors")]),
        ("host", HostSettings.default.toJson), ("tasks", TaskNames.default.toJson),
        ("logging", LogSettings.default.toJson)]) = some .default) ∧
      Plugin.ofJson? (Plugin.toJson ⟨"a", "b"⟩) = some ⟨"a", "b"⟩ := by
  let host := (some "host", HostSettings.default.toJson)
  let tasks := (some "tasks", TaskNames.default.toJson)
  let compiler := (some "toolchain", CompilerSettings.default.toJson)
  let logging := (some "logging", LogSettings.default.toJson)
  have hdirectory : Json.ofString "build/pluginDescriptors" =
      .ofPath CompilerSettings.default.descriptorsDirectory :=
    congrArg Json.ofString (Path.display_ofString _).symm
  rw [hdirectory]
  constructor
  · have hlayout : Edit .default Settings.default.toJson (.object [host, tasks, compiler, logging]) :=
      .drop .layout LayoutSettings.default.toJson _ rfl
    have hfirst : Edit .default _ (.object [compiler, host, tasks, logging]) :=
      .reorder (@List.perm_middle _ compiler [host, tasks] [logging])
    have hcommand : Edit .default _ _ := .dropCommand
      [(some "descriptorsDir", .ofPath CompilerSettings.default.descriptorsDirectory)]
      [host, tasks, logging]
    have hedits := ((Relation.ReflTransGen.single hlayout).tail hfirst).tail hcommand
    exact written_reads_back.1 true .default _ isUnicode_default
      (hedits.tail (.add "about" (.list []) _ (by decide)))
  · have hparse : Json.parse "\x7b\"implementationClass\":\"b\",\"id\":\"a\"\x7d" =
        some (.ofFields [("implementationClass", .ofString "b"), ("id", .ofString "a")]) := rfl
    exact (written_reads_back.2.2.2 _ _ hparse).2.1 _ rfl

end Settings

end ScriptPlugins
