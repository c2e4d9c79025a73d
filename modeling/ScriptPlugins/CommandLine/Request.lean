import ScriptPlugins.Files.Path

/-!
# What the command line asks for

Arguments are read from left to right, and the first that cannot be there settles the matter. The
option for the project's directory may stand before the command and after it, and counts there if
it stands in both places. No option may be given twice in one place.
-/

namespace ScriptPlugins

open Text

inductive ListFormat where
  | table
  | json
  deriving Repr, DecidableEq

inductive Action where
  | list (format : ListFormat)
  | generate (descriptors : Option Path) (compile : Bool)
  | arguments
  deriving Repr, DecidableEq

structure Request where
  project : Path
  action : Action
  deriving Repr, DecidableEq

inductive Invocation where
  | run (request : Request)
  | version
  | help
  | refused
  deriving Repr, DecidableEq

namespace Invocation

inductive Verb where
  | list
  | generate
  | arguments
  deriving Repr, DecidableEq

def Verb.ofName? (name : String) : Option Verb :=
  [("list", Verb.list), ("generate", .generate), ("args", .arguments)].lookup name

/-- The options that have been given so far in one place. -/
structure Options where
  project : Option String
  format : Option ListFormat
  descriptors : Option String
  compile : Bool
  deriving Repr, DecidableEq

def Options.none : Options := ⟨.none, .none, .none, false⟩

/-- Gives an option that has a value; none if it is not for this place, has been given, or the
value is not one of its own. -/
def Options.set? (options : Options) (verb : Option Verb) (name value : String) :
    Option Options :=
  match verb, name with
  | _, "project-dir" =>
    if options.project.isSome || value.isEmpty then .none
    else some { options with project := some value }
  | some .list, "format" =>
    match options.format, value with
    | .none, "table" => some { options with format := some .table }
    | .none, "json" => some { options with format := some .json }
    | _, _ => .none
  | some .generate, "descriptors-dir" =>
    if options.descriptors.isSome || value.isEmpty then .none
    else some { options with descriptors := some value }
  | _, _ => .none

/-- The name of a long option, and the value after an equals sign if there is one. -/
def long? (argument : List Char) : Option (String × Option String) :=
  match argument with
  | '-' :: '-' :: rest =>
    let name := String.ofList (rest.takeWhile (· != '='))
    match rest.dropWhile (· != '=') with
    | [] => some (name, none)
    | _ :: value => some (name, some (String.ofList value))
  | _ => none

/-- Whether an argument cannot be the value of an option before it. -/
def isFlag (argument : List Char) : Bool :=
  argument.head? == some '-' && argument.length ≥ 2

def request (outer : Options) (verb : Verb) (options : Options) : Request :=
  { project := .ofString ((options.project <|> outer.project).getD ".")
    action := match verb with
      | .list => .list (options.format.getD .table)
      | .generate => .generate (options.descriptors.map Path.ofString) options.compile
      | .arguments => .arguments }

/-- What a short option asks for. Only the program itself has a version. -/
def short (verb : Option Verb) (letter : Char) : Invocation :=
  if letter = 'h' then .help
  else if letter = 'V' && verb.isNone then .version
  else .refused

def readOptions (outer : Options) (verb : Verb) (options : Options) : List String → Invocation
  | [] => .run (request outer verb options)
  | argument :: rest =>
    match long? argument.toList, argument.toList with
    | some ("", .none), _ =>
      if rest.isEmpty then .run (request outer verb options) else .refused
    | some ("help", .none), _ => .help
    | some ("compile", .none), _ =>
      if verb = .generate && !options.compile then
        readOptions outer verb { options with compile := true } rest
      else .refused
    | some (name, some value), _ =>
      match options.set? (some verb) name value with
      | some options => readOptions outer verb options rest
      | .none => .refused
    | some (name, .none), _ =>
      match rest with
      | value :: rest =>
        if isFlag value.toList then .refused
        else match options.set? (some verb) name value with
          | some options => readOptions outer verb options rest
          | .none => .refused
      | [] => .refused
    | .none, '-' :: letter :: _ => short (some verb) letter
    | .none, _ => .refused

def readHelp : List String → Invocation
  | [] => .help
  | [name] => if (Verb.ofName? name).isSome || name = "help" then .help else .refused
  | _ => .refused

def readGlobals (options : Options) : List String → Invocation
  | [] => .refused
  | argument :: rest =>
    match long? argument.toList, argument.toList with
    | some ("help", .none), _ => .help
    | some ("version", .none), _ => .version
    | some (name, some value), _ =>
      match options.set? .none name value with
      | some options => readGlobals options rest
      | .none => .refused
    | some (name, .none), _ =>
      match rest with
      | value :: rest =>
        if isFlag value.toList then .refused
        else match options.set? .none name value with
          | some options => readGlobals options rest
          | .none => .refused
      | [] => .refused
    | .none, '-' :: letter :: _ => short .none letter
    | .none, _ =>
      if argument = "help" then readHelp rest
      else match Verb.ofName? argument with
        | some verb => readOptions options verb .none rest
        | .none => .refused

def ofArguments (arguments : List String) : Invocation :=
  readGlobals .none arguments

end Invocation

end ScriptPlugins
