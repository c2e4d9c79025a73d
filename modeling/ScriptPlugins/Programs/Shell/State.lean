import ScriptPlugins.Programs.Shell.Token
import ScriptPlugins.Programs.Status
import ScriptPlugins.Files.Tree

/-!
# The state of a running shell

A shell has parameters and variables, a file tree, and the two streams that its commands write to.
Words are expanded against it: parameters are replaced by their values, and a value that is not
quoted is split at blanks, so one word may become no field, one or several.
-/

namespace ScriptPlugins.Shell

open Text

inductive Sink where
  | output
  | complaint
  | file (location : Location)
  | nowhere
  deriving Repr, DecidableEq

structure Streams where
  output : Sink
  complaint : Sink
  deriving Repr, DecidableEq

namespace Streams

def usual : Streams := ⟨.output, .complaint⟩

def set (streams : Streams) (number : Nat) (sink : Sink) : Streams :=
  match number with
  | 1 => { streams with output := sink }
  | 2 => { streams with complaint := sink }
  | _ => streams

def ofNumber? (streams : Streams) : Bytes → Option Sink
  | [0x31] => some streams.output
  | [0x32] => some streams.complaint
  | [0x2D] => some .nowhere
  | _ => none

end Streams

structure State where
  /-- The name under which the shell complains. -/
  name : Bytes
  parameters : List Bytes
  bindings : List (List Char × Bytes)
  status : Nat
  /-- How the shell ended, if it has. -/
  ended : Option ExitStatus
  tree : Tree
  streams : Streams
  input : Bytes
  output : Bytes
  complaint : Bytes
  deriving Repr, DecidableEq

namespace State

def start (name : Bytes) (parameters : List Bytes) (tree : Tree) : State :=
  { name, parameters, bindings := [], status := 0, ended := none, tree,
    streams := .usual, input := [], output := [], complaint := [] }

def withStatus (state : State) (status : Nat) : State :=
  { state with status }

def assign (state : State) (name : List Char) (value : Bytes) : State :=
  { state with bindings := (name, value) :: state.bindings.filter (·.1 != name) }

def writeTo (state : State) (sink : Sink) (text : Bytes) : State :=
  match sink with
  | .output => { state with output := state.output ++ text }
  | .complaint => { state with complaint := state.complaint ++ text }
  | .nowhere => state
  | .file location =>
    let before := match state.tree.get? location with
      | some (.file contents) => contents
      | _ => []
    { state with tree := state.tree.put location (.file (before ++ text)) }

/-- The text of a complaint about the commands of the script. -/
def reproach (state : State) (text : Bytes) : Bytes :=
  state.name ++ Utf8.ofString ": 1: " ++ text ++ [0x0A]

def processNumber : Nat := 2

def digits (number : Nat) : Bytes :=
  Utf8.ofString (toString number)

def joined (state : State) : Bytes :=
  join 0x20 state.parameters

def value (state : State) (name : List Char) : Bytes :=
  match name with
  | ['#'] => digits state.parameters.length
  | ['?'] => digits state.status
  | ['$'] => digits processNumber
  | ['@'] | ['*'] => state.joined
  | ['0'] => state.name
  | name =>
    if name.all Char.isDigit then
      (state.parameters[((String.ofList name).toNat?.getD 0) - 1]?).getD []
    else (state.bindings.lookup name).getD []

def isBlankByte (b : UInt8) : Bool :=
  b == 0x20 || b == 0x09 || b == 0x0A

/-- The fields of a word so far, the last one apart, which may not have begun. -/
structure Fields where
  finished : List Bytes
  current : Option Bytes
  deriving Repr, DecidableEq

namespace Fields

def none : Fields := ⟨[], .none⟩

def extend (fields : Fields) (text : Bytes) : Fields :=
  { fields with current := some (fields.current.getD [] ++ text) }

def close (fields : Fields) : Fields :=
  match fields.current with
  | .none => fields
  | some text => ⟨fields.finished ++ [text], .none⟩

def toList (fields : Fields) : List Bytes :=
  fields.close.finished

def split (fields : Fields) (text : Bytes) : Fields :=
  text.foldl (fun fields b => if isBlankByte b then fields.close else fields.extend [b]) fields

/-- Adds values of which each but the first begins a field. -/
def separate (fields : Fields) : List Bytes → Fields
  | [] => fields
  | [text] => fields.extend text
  | text :: next :: rest => (fields.extend text).close.separate (next :: rest)

end Fields

def addPart (state : State) (fields : Fields) : Part → Fields
  | .literal _ text => fields.extend (Utf8.encode text)
  | .parameter true ['@'] => fields.separate state.parameters
  | .parameter true name => fields.extend (state.value name)
  | .parameter false name => fields.split (state.value name)

/-- Whether a word stands for the parameters alone. -/
def isAllParameters (word : Word) : Bool :=
  word.contains (.parameter true ['@']) && word.all fun part =>
    part == .parameter true ['@'] || part == .literal true []

def fields (state : State) (word : Word) : List Bytes :=
  if state.parameters.isEmpty && isAllParameters word then []
  else (word.foldl state.addPart .none).toList

/-- The text of a word that is not split, as on the right of an assignment. -/
def textOf (state : State) (word : Word) : Bytes :=
  word.flatMap fun
    | .literal _ text => Utf8.encode text
    | .parameter _ name => state.value name

end State

end ScriptPlugins.Shell
