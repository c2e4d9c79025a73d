import ScriptPlugins.Files.Tree
import ScriptPlugins.Log.Event
import ScriptPlugins.Source.Namespace
import ScriptPlugins.Source.Naming

/-!
# Scripts

A script is a file that becomes a plugin. All that is said about it follows from its file name and
from the namespace that its text declares. The text is read at most once: the first reading that
succeeds is kept in `declared`, and from then on edits of the file are not seen, so that every name
of the script has the same namespace. A reading that fails keeps nothing.

Each name is kept, too, once it has been asked for. Other keywords can mean another namespace, so
they make the script forget all but its class, which has no namespace in it.
-/

namespace ScriptPlugins

open Text

structure Plugin where
  id : String
  implementationClass : String
  deriving Repr, DecidableEq

structure Script where
  path : Path
  fileName : String
  /-- The file name without the script suffix. -/
  stem : String
  keywords : List String
  /-- The text, when it is not to be read from the file. -/
  text : Option String
  /-- The namespace that was found, if the text has been read. -/
  declared : Option (Option String)
  knownId : Option String
  knownClass : Option String
  knownType : Option String
  deriving Repr, DecidableEq

namespace Script

/-- The script in a file, with the default keywords. A path that ends in no name has an empty
file name. -/
def ofPath (path : Path) (suffix : String) : Script :=
  let fileName := (path.fileName?.map Utf8.display).getD ""
  { path, fileName, stem := Naming.stem fileName suffix, keywords := Namespace.defaultKeywords,
    text := none, declared := none, knownId := none, knownClass := none, knownType := none }

def ofText (path : Path) (suffix text : String) : Script :=
  { ofPath path suffix with text := some text }

/-- The script with other keywords for its namespace, which has to be looked for again. -/
def withKeywords (script : Script) (keywords : List String) : Script :=
  { script with keywords, declared := none, knownId := none, knownType := none }

/-- The class of the wrapper, and the script that remembers it. -/
def implementationClass (script : Script) : String × Script :=
  match script.knownClass with
  | some name => (name, script)
  | none =>
    let name := Naming.wrapperClass script.stem
    (name, { script with knownClass := some name })

/-- The class of the wrapper, for those that have no use for what the script remembers. -/
def wrapperClass (script : Script) : String :=
  script.implementationClass.1

def load (script : Script) (tree : Tree) : Except Failure String :=
  match script.text with
  | some text => .ok text
  | none =>
    match tree.readText script.path with
    | .ok text => .ok text
    | .error fault => .error (.files script.path fault)

/-- The declared namespace, and the script that remembers it. -/
def namespace? (script : Script) (tree : Tree) : Except Failure (Option String × Script) :=
  match script.declared with
  | some found => .ok (found, script)
  | none =>
    match script.load tree with
    | .error failure => .error failure
    | .ok text =>
      let found := Namespace.declaredIn text script.keywords
      .ok (found, { script with declared := some found })

def qualify : Option String → String → String
  | some space, name => space ++ "." ++ name
  | none, name => name

def qualified (script : Script) (tree : Tree) (name : String) :
    Except Failure (String × Script) :=
  (script.namespace? tree).map fun (space, script) => (qualify space name, script)

def id (script : Script) (tree : Tree) : Except Failure (String × Script) :=
  match script.knownId with
  | some id => .ok (id, script)
  | none =>
    (script.qualified tree script.stem).map fun (id, script) =>
      (id, { script with knownId := some id })

def compiledType (script : Script) (tree : Tree) : Except Failure (String × Script) :=
  match script.knownType with
  | some name => .ok (name, script)
  | none =>
    (script.qualified tree (Naming.compiledClass script.fileName)).map fun (name, script) =>
      (name, { script with knownType := some name })

def plugin (script : Script) (tree : Tree) : Except Failure (Plugin × Script) :=
  (script.id tree).map fun (id, script) =>
    let (implementationClass, script) := script.implementationClass
    (⟨id, implementationClass⟩, script)

/-- An action on one script and a state as an action on a list of scripts: it stops at the first
script that fails, and scripts keep what was learnt about them. -/
def each {σ α : Type} (act : Script → σ → Outcome (Script × σ) Failure α) :
    List Script → σ → Outcome (List Script × σ) Failure (List α)
  | [], state => .ok [] ([], state) []
  | script :: rest, state =>
    let first := act script state
    match first.answer with
    | .error failure => .error failure (first.state.1 :: rest, first.state.2) first.events
    | .ok answer =>
      let others := each act rest first.state.2
      { answer := others.answer.map (answer :: ·)
        state := (first.state.1 :: others.state.1, others.state.2)
        events := first.events ++ others.events }

/-- A question about a script as an action that changes nothing else. -/
def ask {σ α : Type} (question : Script → Except Failure (α × Script)) (script : Script)
    (state : σ) : Outcome (Script × σ) Failure α :=
  match question script with
  | .error failure => .error failure (script, state) []
  | .ok (answer, script) => .ok answer (script, state) []

end Script

end ScriptPlugins
