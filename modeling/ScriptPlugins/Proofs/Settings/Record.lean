import ScriptPlugins.Proofs.Json.Record
import ScriptPlugins.Proofs.Text.Decoding
import ScriptPlugins.Settings.Record

/-!
# Settings and their JSON form

What each decoder makes of the parts of its record, and that it reads what is written for a record.
A path is written as text, so this needs the path to be the bytes of a text.
-/

namespace ScriptPlugins

open Text

variable {exact : Bool} {json : Json}

/-- A path that a text stands for. -/
def Path.IsUnicode (path : Path) : Prop :=
  ∃ text : String, path = .ofString text

theorem Path.display_ofString (text : String) : (Path.ofString text).display = text :=
  Utf8.display_ofString text

namespace Json

theorem string?_ofString (text : String) : (ofString text).string? = some text :=
  rfl

theorem path?_ofPath {path : Path} (h : path.IsUnicode) : (ofPath path).path? = some path := by
  obtain ⟨text, rfl⟩ := h
  rw [ofPath, Path.display_ofString, path?, string?_ofString]
  rfl

theorem isUnicode_of_path? {path : Path} (h : json.path? = some path) : path.IsUnicode := by
  obtain ⟨text, -, rfl⟩ := Option.map_eq_some_iff.1 h
  exact ⟨text, rfl⟩

theorem strings?_ofStrings (texts : List String) : (ofStrings texts).strings? = some texts := by
  rw [ofStrings, strings?, mapM_eq_some_iff_forall₂, List.forall₂_map_left_iff, List.forall₂_same]
  exact fun text _ => string?_ofString text

theorem optional?_getD_null {α : Type} {read : Json → Option α} {write : α → Json}
    (hread : ∀ value, read (write value) = some value) (hnull : ∀ value, write value ≠ .null)
    (value : Option α) : optional? read (some ((value.map write).getD .null)) = some value := by
  cases value with
  | none => rfl
  | some value =>
      rw [Option.map_some, Option.getD_some, optional?, hread]
      · rfl
      · exact hnull value

end Json

theorem LogFormat.ofJson?_name (format : LogFormat) :
    ofJson? (.ofString format.name) = some format := by
  cases format <;> rfl

namespace LayoutSettings

variable {layout : LayoutSettings}

theorem ofJson?_eq_some_iff : ofJson? exact json = some layout ↔
    ∃ root pattern suffix keywords generated extension,
      json.parts? exact names = some [some root, some pattern, some suffix, some keywords,
        some generated, some extension] ∧
      root.path? = some layout.sourceRoot ∧ pattern.string? = some layout.scriptPattern ∧
      suffix.string? = some layout.scriptSuffix ∧
      keywords.strings? = some layout.namespaceKeywords ∧
      generated.path? = some layout.generatedDirectory ∧
      extension.string? = some layout.wrapperExtension := by
  constructor
  · intro h
    obtain ⟨parts, hparts, hread⟩ := Option.bind_eq_some_iff.1 h
    split at hread
    · simp only [Option.bind_eq_bind, Option.bind_eq_some_iff, Option.pure_def,
        Option.some.injEq] at hread
      obtain ⟨_, hroot, _, hpattern, _, hsuffix, _, hkeywords, _, hgenerated, _, hextension,
        rfl⟩ := hread
      exact ⟨_, _, _, _, _, _, hparts, hroot, hpattern, hsuffix, hkeywords, hgenerated,
        hextension⟩
    · cases hread
  · rintro ⟨_, _, _, _, _, _, hparts, hroot, hpattern, hsuffix, hkeywords, hgenerated, hextension⟩
    simp [ofJson?, hparts, hroot, hpattern, hsuffix, hkeywords, hgenerated, hextension]

/-- What is written for a section is read again, if its directories have names that are texts. -/
theorem ofJson?_toJson (exact : Bool) (hroot : layout.sourceRoot.IsUnicode)
    (hgenerated : layout.generatedDirectory.IsUnicode) :
    ofJson? exact layout.toJson = some layout :=
  ofJson?_eq_some_iff.2 ⟨_, _, _, _, _, _, Json.parts?_ofFields exact (by decide) rfl,
    Json.path?_ofPath hroot, rfl, rfl, Json.strings?_ofStrings _, Json.path?_ofPath hgenerated, rfl⟩

end LayoutSettings

namespace HostSettings

variable {host : HostSettings}

theorem ofJson?_eq_some_iff : ofJson? exact json = some host ↔
    ∃ contextType templates imports,
      json.parts? exact names = some [some contextType, some templates, some imports] ∧
      contextType.string? = some host.contextType ∧
      templates.strings? = some host.scriptTemplates ∧
      imports.strings? = some host.implicitImports := by
  constructor
  · intro h
    obtain ⟨parts, hparts, hread⟩ := Option.bind_eq_some_iff.1 h
    split at hread
    · simp only [Option.bind_eq_bind, Option.bind_eq_some_iff, Option.pure_def,
        Option.some.injEq] at hread
      obtain ⟨_, hcontext, _, htemplates, _, himports, rfl⟩ := hread
      exact ⟨_, _, _, hparts, hcontext, htemplates, himports⟩
    · cases hread
  · rintro ⟨_, _, _, hparts, hcontext, htemplates, himports⟩
    simp [ofJson?, hparts, hcontext, htemplates, himports]

theorem ofJson?_toJson (exact : Bool) (host : HostSettings) :
    ofJson? exact host.toJson = some host :=
  ofJson?_eq_some_iff.2 ⟨_, _, _, Json.parts?_ofFields exact (by decide) rfl, rfl,
    Json.strings?_ofStrings _, Json.strings?_ofStrings _⟩

end HostSettings

namespace TaskNames

variable {tasks : TaskNames}

theorem ofJson?_eq_some_iff : ofJson? exact json = some tasks ↔
    ∃ generate declare compile publish,
      json.parts? exact names = some [some generate, some declare, some compile, some publish] ∧
      generate.string? = some tasks.generate ∧ declare.string? = some tasks.declare ∧
      compile.string? = some tasks.compile ∧ publish.string? = some tasks.publish := by
  constructor
  · intro h
    obtain ⟨parts, hparts, hread⟩ := Option.bind_eq_some_iff.1 h
    split at hread
    · simp only [Option.bind_eq_bind, Option.bind_eq_some_iff, Option.pure_def,
        Option.some.injEq] at hread
      obtain ⟨_, hgenerate, _, hdeclare, _, hcompile, _, hpublish, rfl⟩ := hread
      exact ⟨_, _, _, _, hparts, hgenerate, hdeclare, hcompile, hpublish⟩
    · cases hread
  · rintro ⟨_, _, _, _, hparts, hgenerate, hdeclare, hcompile, hpublish⟩
    simp [ofJson?, hparts, hgenerate, hdeclare, hcompile, hpublish]

theorem ofJson?_toJson (exact : Bool) (tasks : TaskNames) :
    ofJson? exact tasks.toJson = some tasks :=
  ofJson?_eq_some_iff.2 ⟨_, _, _, _, Json.parts?_ofFields exact (by decide) rfl, rfl, rfl, rfl,
    rfl⟩

end TaskNames

namespace CompilerSettings

variable {compiler : CompilerSettings}

theorem ofJson?_eq_some_iff : ofJson? exact json = some compiler ↔
    ∃ command directory,
      json.parts? exact names = some [command, some directory] ∧
      Json.optional? Json.string? command = some compiler.command ∧
      directory.path? = some compiler.descriptorsDirectory := by
  constructor
  · intro h
    obtain ⟨parts, hparts, hread⟩ := Option.bind_eq_some_iff.1 h
    split at hread
    · simp only [Option.bind_eq_bind, Option.bind_eq_some_iff, Option.pure_def,
        Option.some.injEq] at hread
      obtain ⟨_, hcommand, _, hdirectory, rfl⟩ := hread
      exact ⟨_, _, hparts, hcommand, hdirectory⟩
    · cases hread
  · rintro ⟨_, _, hparts, hcommand, hdirectory⟩
    simp [ofJson?, hparts, hcommand, hdirectory]

theorem ofJson?_toJson (exact : Bool) (h : compiler.descriptorsDirectory.IsUnicode) :
    ofJson? exact compiler.toJson = some compiler :=
  ofJson?_eq_some_iff.2 ⟨_, _, Json.parts?_ofFields exact (by decide) rfl,
    Json.optional?_getD_null Json.string?_ofString (fun _ => Json.noConfusion) _,
    Json.path?_ofPath h⟩

end CompilerSettings

namespace LogSettings

variable {logging : LogSettings}

theorem ofJson?_eq_some_iff : ofJson? exact json = some logging ↔
    ∃ level format,
      json.parts? exact names = some [some level, some format] ∧
      level.string? = some logging.level ∧ LogFormat.ofJson? format = some logging.format := by
  constructor
  · intro h
    obtain ⟨parts, hparts, hread⟩ := Option.bind_eq_some_iff.1 h
    split at hread
    · simp only [Option.bind_eq_bind, Option.bind_eq_some_iff, Option.pure_def,
        Option.some.injEq] at hread
      obtain ⟨_, hlevel, _, hformat, rfl⟩ := hread
      exact ⟨_, _, hparts, hlevel, hformat⟩
    · cases hread
  · rintro ⟨_, _, hparts, hlevel, hformat⟩
    simp [ofJson?, hparts, hlevel, hformat]

theorem ofJson?_toJson (exact : Bool) (logging : LogSettings) :
    ofJson? exact logging.toJson = some logging :=
  ofJson?_eq_some_iff.2 ⟨_, _, Json.parts?_ofFields exact (by decide) rfl, rfl,
    LogFormat.ofJson?_name _⟩

end LogSettings

namespace Plugin

theorem ofJson?_toJson (plugin : Plugin) : ofJson? plugin.toJson = some plugin := by
  have hparts : plugin.toJson.parts? true names =
      some [some (.ofString plugin.id), some (.ofString plugin.implementationClass)] :=
    Json.parts?_ofFields true (by decide) rfl
  simp [ofJson?, hparts, Json.string?_ofString]

end Plugin

namespace CompilerArguments

theorem ofJson?_toJson (arguments : CompilerArguments) :
    ofJson? arguments.toJson = some arguments := by
  have hparts : arguments.toJson.parts? true names =
      some [some (.ofStrings arguments.scriptTemplates),
        some (.ofStrings arguments.implicitImports)] :=
    Json.parts?_ofFields true (by decide) rfl
  simp [ofJson?, hparts, Json.strings?_ofStrings]

end CompilerArguments

namespace Settings

variable {settings : Settings}

theorem ofJson?_eq_some_iff : ofJson? exact json = some settings ↔
    ∃ layout host tasks compiler logging,
      json.parts? exact names = some [layout, host, tasks, compiler, logging] ∧
      Json.withDefault (LayoutSettings.ofJson? exact) .default layout = some settings.layout ∧
      Json.withDefault (HostSettings.ofJson? exact) .default host = some settings.host ∧
      Json.withDefault (TaskNames.ofJson? exact) .default tasks = some settings.tasks ∧
      Json.withDefault (CompilerSettings.ofJson? exact) .default compiler =
        some settings.compiler ∧
      Json.withDefault (LogSettings.ofJson? exact) .default logging = some settings.logging := by
  constructor
  · intro h
    obtain ⟨parts, hparts, hread⟩ := Option.bind_eq_some_iff.1 h
    split at hread
    · simp only [Option.bind_eq_bind, Option.bind_eq_some_iff, Option.pure_def,
        Option.some.injEq] at hread
      obtain ⟨_, hlayout, _, hhost, _, htasks, _, hcompiler, _, hlogging, rfl⟩ := hread
      exact ⟨_, _, _, _, _, hparts, hlayout, hhost, htasks, hcompiler, hlogging⟩
    · cases hread
  · rintro ⟨_, _, _, _, _, hparts, hlayout, hhost, htasks, hcompiler, hlogging⟩
    simp [ofJson?, hparts, hlayout, hhost, htasks, hcompiler, hlogging]

/-- The directories of the settings have names that are texts. -/
structure IsUnicode (settings : Settings) : Prop where
  sourceRoot : settings.layout.sourceRoot.IsUnicode
  generatedDirectory : settings.layout.generatedDirectory.IsUnicode
  descriptorsDirectory : settings.compiler.descriptorsDirectory.IsUnicode

theorem isUnicode_default : Settings.default.IsUnicode :=
  ⟨⟨_, rfl⟩, ⟨_, rfl⟩, ⟨_, rfl⟩⟩

theorem ofJson?_toJson (exact : Bool) (h : settings.IsUnicode) :
    ofJson? exact settings.toJson = some settings :=
  ofJson?_eq_some_iff.2 ⟨_, _, _, _, _, Json.parts?_ofFields exact (by decide) rfl,
    LayoutSettings.ofJson?_toJson exact h.sourceRoot h.generatedDirectory,
    HostSettings.ofJson?_toJson exact _, TaskNames.ofJson?_toJson exact _,
    CompilerSettings.ofJson?_toJson exact h.descriptorsDirectory,
    LogSettings.ofJson?_toJson exact _⟩

inductive Section where
  | layout
  | host
  | tasks
  | compiler
  | logging
  deriving DecidableEq

namespace Section

def name : Section → String
  | .layout => "layout"
  | .host => "host"
  | .tasks => "tasks"
  | .compiler => "toolchain"
  | .logging => "logging"

/-- The names of the parts of a section. -/
def partNames : Section → List String
  | .layout => LayoutSettings.names
  | .host => HostSettings.names
  | .tasks => TaskNames.names
  | .compiler => CompilerSettings.names
  | .logging => LogSettings.names

def IsDefault (settings : Settings) : Section → Prop
  | .layout => settings.layout = .default
  | .host => settings.host = .default
  | .tasks => settings.tasks = .default
  | .compiler => settings.compiler = .default
  | .logging => settings.logging = .default

/-- The section of these settings is what is read from such a part, which may be missing. -/
def Holds (exact : Bool) (settings : Settings) (part : Option Json) : Section → Prop
  | .layout =>
    Json.withDefault (LayoutSettings.ofJson? exact) .default part = some settings.layout
  | .host => Json.withDefault (HostSettings.ofJson? exact) .default part = some settings.host
  | .tasks => Json.withDefault (TaskNames.ofJson? exact) .default part = some settings.tasks
  | .compiler =>
    Json.withDefault (CompilerSettings.ofJson? exact) .default part = some settings.compiler
  | .logging => Json.withDefault (LogSettings.ofJson? exact) .default part = some settings.logging

theorem name_injective {first second : Section} (h : first.name = second.name) :
    first = second := by
  cases first <;> cases second <;> first | rfl | exact absurd h (by decide)

theorem holds_none {which : Section} (h : which.IsDefault settings) :
    which.Holds exact settings none := by
  cases which <;> exact congrArg some h.symm

end Section

/-- Settings are read section by section, each by its name. -/
theorem ofJson?_object_iff {fields : List (Option String × Json)} :
    ofJson? exact (.object fields) = some settings ↔
      fields.all (·.1.isSome) = true ∧ ∀ which : Section, ∃ part,
        Json.part? fields which.name = some part ∧ which.Holds exact settings part := by
  constructor
  · intro h
    obtain ⟨layout, host, tasks, compiler, logging, hparts, hlayout, hhost, htasks, hcompiler,
      hlogging⟩ := ofJson?_eq_some_iff.1 h
    rw [Json.parts?_object_iff] at hparts
    obtain ⟨hnamed, hparts⟩ := hparts
    simp only [names, List.forall₂_cons] at hparts
    obtain ⟨layoutPart, hostPart, tasksPart, compilerPart, loggingPart, -⟩ := hparts
    refine ⟨hnamed, fun which => ?_⟩
    cases which with
    | layout => exact ⟨layout, layoutPart, hlayout⟩
    | host => exact ⟨host, hostPart, hhost⟩
    | tasks => exact ⟨tasks, tasksPart, htasks⟩
    | compiler => exact ⟨compiler, compilerPart, hcompiler⟩
    | logging => exact ⟨logging, loggingPart, hlogging⟩
  · rintro ⟨hnamed, hholds⟩
    obtain ⟨layout, layoutPart, hlayout⟩ := hholds .layout
    obtain ⟨host, hostPart, hhost⟩ := hholds .host
    obtain ⟨tasks, tasksPart, htasks⟩ := hholds .tasks
    obtain ⟨compiler, compilerPart, hcompiler⟩ := hholds .compiler
    obtain ⟨logging, loggingPart, hlogging⟩ := hholds .logging
    refine ofJson?_eq_some_iff.2 ⟨layout, host, tasks, compiler, logging, ?_, hlayout, hhost,
      htasks, hcompiler, hlogging⟩
    rw [Json.parts?_object_iff]
    exact ⟨hnamed, .cons layoutPart (.cons hostPart (.cons tasksPart (.cons compilerPart
      (.cons loggingPart .nil))))⟩

end Settings

end ScriptPlugins
