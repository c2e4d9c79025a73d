import ScriptPlugins.Source.Identifier

/-!
# Names derived from a script's file name

A script is known under three names. Its *stem*, the file name without the script suffix, is the
last part of the plugin's id. The *wrapper class* is the stem in camel case with a capital first
letter, where a dot separates words as a hyphen does. The *compiled class* is the name under which
the script itself compiles: the file name without its last extension, with an underscore for every
character that an identifier cannot have.
-/

namespace ScriptPlugins.Naming

open Text

/-- The suffix of scripts unless a project says otherwise. -/
def defaultSuffix : String := ".gradle.kts"

/-- A list without `suffix` at its end, if it ends so. -/
def dropSuffix (suffix text : List Char) : List Char :=
  if suffix <:+ text then text.take (text.length - suffix.length) else text

/-- The file name without the script suffix, or all of it if it does not end so. -/
def stem (fileName suffix : String) : String :=
  String.ofList (dropSuffix suffix.toList fileName.toList)

/-- Joins words: each hyphen before a small ASCII letter goes, and the letter becomes capital. -/
def joinWords : List Char → List Char
  | '-' :: c :: rest =>
    if c.isLower then c.toUpper :: joinWords rest else '-' :: joinWords (c :: rest)
  | c :: rest => c :: joinWords rest
  | [] => []

def camelCase (name : String) : String :=
  String.ofList (joinWords name.toList)

def capitalized (name : String) : String :=
  String.ofList (capitalize name.toList)

def pascalCase (name : String) : String :=
  String.ofList (capitalize (joinWords name.toList))

/-- The class of the wrapper generated for a script with this stem. -/
def wrapperClass (stem : String) : String :=
  pascalCase (String.ofList (stem.toList.map fun c => if c = '.' then '-' else c))

/-- A file name up to its last dot. -/
def dropExtension (fileName : List Char) : List Char :=
  match fileName.reverse.dropWhile (· != '.') with
  | [] => fileName
  | _ :: stem => stem.reverse

/-- The characters of an identifier: the others give way to underscores, and one more precedes a
character that cannot come first. -/
def legalize (text : List Char) : List Char :=
  let legal := text.map fun c => if Identifier.isPart c then c else '_'
  match legal with
  | c :: _ => if Identifier.isStart c then legal else '_' :: legal
  | [] => ['_']

/-- The class that the script file compiles to. -/
def compiledClass (fileName : String) : String :=
  String.ofList (capitalize (legalize (dropExtension fileName.toList)))

end ScriptPlugins.Naming
