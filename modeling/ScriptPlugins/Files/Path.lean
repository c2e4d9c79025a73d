import ScriptPlugins.Text.Pieces
import ScriptPlugins.Text.Utf8

/-!
# Paths

A path is kept as the bytes it was written with, because messages and listings show it that way.
What it says about places is its list of components: repeated slashes and dots that change nothing
are not among them. Paths are compared, ordered and taken apart by components.
-/

namespace ScriptPlugins

open Text

structure Path where
  bytes : Bytes
  deriving Repr, DecidableEq

namespace Path

def slash : UInt8 := 0x2F

/-- The name by which a directory lists itself. -/
def dot : Bytes := [0x2E]

/-- The name by which a directory lists its parent. -/
def dotDot : Bytes := [0x2E, 0x2E]

def ofString (text : String) : Path :=
  ⟨Utf8.ofString text⟩

def display (path : Path) : String :=
  Utf8.display path.bytes

def isAbsolute (path : Path) : Bool :=
  path.bytes.head? == some slash

def endsInSlash (path : Path) : Bool :=
  path.bytes.getLast? == some slash

inductive Component where
  | root
  /-- A dot, which counts only where a relative path starts with it. -/
  | here
  | parent
  | name (bytes : Bytes)
  deriving Repr, DecidableEq

/-- The pieces between slashes that are not empty. -/
def segments (path : Path) : List Bytes :=
  (pieces slash path.bytes).filter (!·.isEmpty)

def componentOf (segment : Bytes) : Option Component :=
  if segment = dot then none
  else if segment = dotDot then some .parent
  else some (.name segment)

def components (path : Path) : List Component :=
  let inner := path.segments.filterMap componentOf
  if path.isAbsolute then .root :: inner
  else if path.segments.head? = some dot then .here :: inner
  else inner

def same (path other : Path) : Bool :=
  path.components == other.components

def fileName? (path : Path) : Option Bytes :=
  match path.components.getLast? with
  | some (.name name) => some name
  | _ => none

/-- The path `other` as seen from `path`: an absolute path stays what it is. -/
def join (path other : Path) : Path :=
  if other.isAbsolute then other
  else if path.bytes.isEmpty || path.endsInSlash then ⟨path.bytes ++ other.bytes⟩
  else ⟨path.bytes ++ slash :: other.bytes⟩

def Component.bytes : Component → Bytes
  | .root => []
  | .here => dot
  | .parent => dotDot
  | .name segment => segment

def ofComponents : List Component → Path
  | [.root] => ⟨[slash]⟩
  | components => ⟨Text.join slash (components.map Component.bytes)⟩

/-- The path without its last component; none for the root and for the empty path. -/
def parent? (path : Path) : Option Path :=
  match path.components.getLast? with
  | none | some .root => none
  | some _ => some (ofComponents path.components.dropLast)

/-- Where a component stands among components of another kind. -/
def Component.rank : Component → Nat
  | .root => 0
  | .here => 1
  | .parent => 2
  | .name _ => 3

/-- The order in which the root comes before dots and dots before names, and names go by their
bytes. -/
def Component.precedes : Component → Component → Bool
  | .name first, .name second => decide (first < second)
  | first, second => decide (first.rank < second.rank)

/-- The order component by component, in which a path comes before all paths below it. -/
def componentsLe : List Component → List Component → Bool
  | [], _ => true
  | _ :: _, [] => false
  | c :: rest, d :: more => c.precedes d || (c == d && componentsLe rest more)

def le (path other : Path) : Bool :=
  componentsLe path.components other.components

/-- The text after the first segment and the slashes around it. -/
def dropSegment (bytes : Bytes) : Bytes :=
  (bytes.dropWhile (· == slash)).dropWhile (· != slash)

/-- The text without the slashes and dots at its start that stand for no component. -/
def trimStart : Bytes → Bytes
  | [] => []
  | b :: rest =>
    if b = slash then trimStart rest
    else if b = 0x2E && (rest.isEmpty || rest.head? == some slash) then trimStart rest
    else b :: rest

/-- What is left of a text after as many components as `count`, as it was written. -/
def dropComponents : Nat → Bytes → Bytes
  | 0, bytes => trimStart bytes
  | count + 1, bytes => dropComponents count (dropSegment (trimStart bytes))

/-- The path relative to `base`, as it was written, if it starts with the components of `base`. -/
def below? (path base : Path) : Option Path :=
  if base.components.isPrefixOf path.components then
    match base.components with
    | [] => some path
    | .root :: rest => some ⟨dropComponents rest.length path.bytes⟩
    | .here :: rest => some ⟨dropComponents rest.length (path.bytes.drop 1)⟩
    | components => some ⟨dropComponents components.length path.bytes⟩
  else none

end Path

end ScriptPlugins
