import ScriptPlugins.Failure

/-!
# The file tree

A tree of files is a list of entries, each under the names that lead to it from the root. Nothing
below an entry is stored inside it, so replacing one entry leaves every other one alone, and what
lies below a directory is what has its location as a proper start.

A path is only a way to a location. `locate` walks it name by name, through symbolic links, and
answers where it ends; the last name need not exist. The root itself is not listed: it is a
directory in every tree.
-/

namespace ScriptPlugins

open Text

/-- The names that lead to a place from the root. -/
abbrev Location := List Bytes

inductive Entry where
  | file (contents : Bytes)
  | directory
  /-- A symbolic link, with the path it stands for. -/
  | link (target : Path)
  deriving Repr, DecidableEq

structure Tree where
  entries : List (Location × Entry)
  /-- Where relative paths start. -/
  home : Location
  deriving Repr, DecidableEq

namespace Tree

/-- The tree that holds nothing but an empty directory for relative paths to start from. -/
def empty : Tree :=
  ⟨[([Utf8.ofString "home"], .directory)], [Utf8.ofString "home"]⟩

def get? (tree : Tree) (location : Location) : Option Entry :=
  if location = [] then some .directory else tree.entries.lookup location

/-- The tree with this entry at a location, whatever was there before. -/
def put (tree : Tree) (location : Location) (entry : Entry) : Tree :=
  { tree with entries := tree.entries.filter (·.1 != location) ++ [(location, entry)] }

def erase (tree : Tree) (location : Location) : Tree :=
  { tree with entries := tree.entries.filter (·.1 != location) }

def isBelow (location other : Location) : Bool :=
  location != other && location.isPrefixOf other

def clear (tree : Tree) (location : Location) : Tree :=
  { tree with entries := tree.entries.filter (!isBelow location ·.1) }

/-- The entries below a location, each with the names that lead to it from there. -/
def below (tree : Tree) (location : Location) : List (Location × Entry) :=
  (tree.entries.filter (isBelow location ·.1)).map fun (names, entry) =>
    (names.drop location.length, entry)

/-- The most symbolic links that one path may lead through. -/
def linkLimit : Nat := 40

/-- The longest name that a file can have, in bytes. -/
def nameLimit : Nat := 255

/-- The length from which on a path is refused. -/
def pathLimit : Nat := 4096

/-- The names to walk for a path. A slash at the end asks for a directory, as a dot does. -/
def steps (path : Path) : List Bytes :=
  path.segments ++ if path.endsInSlash then [Path.dot] else []

def start (tree : Tree) (path : Path) : Location :=
  if path.isAbsolute then [] else tree.home

/-- Where the names lead from a location, where `follow` goes on from a symbolic link. A missing
entry is an error unless it is the last. -/
def walkWith (tree : Tree) (follow : Location → List Bytes → Except Fault Location)
    (here : Location) : List Bytes → Except Fault Location
  | [] => .ok here
  | name :: rest =>
    match tree.get? here with
    | none => .error .notFound
    | some (.file _) | some (.link _) => .error .notDirectory
    | some .directory =>
      if name = Path.dot then tree.walkWith follow here rest
      else if name = Path.dotDot then tree.walkWith follow here.dropLast rest
      else if name.length > nameLimit then .error .nameTooLong
      else
        match tree.get? (here ++ [name]) with
        | some (.link target) =>
          follow (if target.isAbsolute then [] else here) (steps target ++ rest)
        | _ => tree.walkWith follow (here ++ [name]) rest

/-- Where the names lead from a location, through at most so many symbolic links. -/
def walk (tree : Tree) : Nat → Location → List Bytes → Except Fault Location
  | 0 => tree.walkWith fun _ _ => .error .tooManyLinks
  | links + 1 => tree.walkWith (tree.walk links)

/-- What makes a path unusable before anything is looked up. -/
def refusal? (path : Path) : Option Fault :=
  if path.bytes.contains 0 then some .nulInPath
  else if path.bytes.isEmpty then some .notFound
  else if path.bytes.length ≥ pathLimit then some .nameTooLong
  else none

def locate (tree : Tree) (path : Path) : Except Fault Location :=
  match refusal? path with
  | some fault => .error fault
  | none => tree.walk linkLimit (tree.start path) (steps path)

def find (tree : Tree) (path : Path) : Except Fault (Location × Entry) := do
  let location ← tree.locate path
  match tree.get? location with
  | none => .error .notFound
  | some entry => .ok (location, entry)

def «exists» (tree : Tree) (path : Path) : Bool :=
  (tree.find path).toOption.isSome

def isFile (tree : Tree) (path : Path) : Bool :=
  match tree.find path with
  | .ok (_, .file _) => true
  | _ => false

def isDirectory (tree : Tree) (path : Path) : Bool :=
  match tree.find path with
  | .ok (_, .directory) => true
  | _ => false

/-- The directory that should hold the last name of a path, and that name. -/
inductive Last where
  /-- The path ends in no name of its own: it is the root, or its last piece is one or two dots. -/
  | special (segment : Option Bytes)
  | name (parent : Location) (name : Bytes)
  deriving Repr, DecidableEq

/-- Where the last name of a path would be looked up. The directory must exist. -/
def last (tree : Tree) (path : Path) : Except Fault Last := do
  match refusal? path with
  | some fault => .error fault
  | none => pure ()
  match path.segments.getLast? with
  | none => return .special none
  | some segment =>
    let parent ← tree.walk linkLimit (tree.start path) (path.segments.dropLast ++ [Path.dot])
    if segment = Path.dot || segment = Path.dotDot then return .special (some segment)
    else if segment.length > nameLimit then .error .nameTooLong
    else return .name parent segment

/-- Where a path is itself a symbolic link, whatever the link leads to. A slash at the end of the
path asks for what it leads to. -/
def linkAt? (tree : Tree) (path : Path) : Option Location :=
  match tree.last path, path.endsInSlash with
  | .ok (.name parent name), false =>
    match tree.get? (parent ++ [name]) with
    | some (.link _) => some (parent ++ [name])
    | _ => none
  | _, _ => none

def read (tree : Tree) (path : Path) : Except Fault Bytes := do
  match ← tree.find path with
  | (_, .file contents) => return contents
  | (_, _) => .error .isDirectory

def readText (tree : Tree) (path : Path) : Except Fault String := do
  match Utf8.toString? (← tree.read path) with
  | some text => return text
  | none => .error .notText

/-- Writes a file, in place of what it held if it exists. Its directory must exist. -/
def write (tree : Tree) (path : Path) (contents : Bytes) : Except Fault Tree := do
  if path.endsInSlash then
    let _ ← tree.last path
    .error .isDirectory
  else
    let location ← tree.locate path
    match tree.get? location with
    | none | some (.file _) => return tree.put location (.file contents)
    | some .directory | some (.link _) => .error .isDirectory

def makeDirectory (tree : Tree) (path : Path) : Except Fault Tree := do
  match ← tree.last path with
  | .special _ => .error .exists
  | .name parent name =>
    match tree.get? (parent ++ [name]) with
    | some _ => .error .exists
    | none => return tree.put (parent ++ [name]) .directory

/-- Makes the directories on a list, where a directory that is already there is no error. What was
made before a failure stays. -/
def makeEach (tree : Tree) : List Path → Except Fault Unit × Tree
  | [] => (.ok (), tree)
  | path :: rest =>
    match tree.makeDirectory path with
    | .ok tree => tree.makeEach rest
    | .error fault =>
      if fault = .exists && tree.isDirectory path then tree.makeEach rest
      else (.error fault, tree)

/-- Splits the ancestors of a path, longest first, at the first that exists or can be made. The
missing ones come back shortest first. -/
def missing (tree : Tree) (made : List Path) : List Path → Except Fault (Tree × List Path)
  | [] => .ok (tree, made)
  | path :: rest =>
    match tree.makeDirectory path with
    | .ok tree => .ok (tree, made)
    | .error .notFound => tree.missing (path :: made) rest
    | .error fault =>
      if fault = .exists && tree.isDirectory path then .ok (tree, made) else .error fault

/-- A path and the plain paths above it that are not empty, longest first. -/
def ancestors (path : Path) : List Path :=
  path :: ((List.range path.components.length).map fun dropped =>
    Path.ofComponents (path.components.take (path.components.length - 1 - dropped))).filter
      fun ancestor => ancestor.parent?.isSome

def makeDirectories (tree : Tree) (path : Path) : Except Fault Unit × Tree :=
  if path.components.isEmpty || path.components == [.root] then (.ok (), tree)
  else match tree.missing [] (ancestors path) with
    | .error fault => (.error fault, tree)
    | .ok (tree, rest) => tree.makeEach rest

/-- Removes a directory that has nothing in it. There may be none, if what was removed before was
part of the way. -/
def removeEmpty (tree : Tree) (path : Path) : Except Fault Unit × Tree :=
  match tree.last path with
  | .error .notFound => (.ok (), tree)
  | .error fault => (.error fault, tree)
  | .ok (.special segment) =>
    (.error (if segment = some Path.dotDot then .notEmpty else .invalidArgument), tree)
  | .ok (.name parent name) =>
    match tree.get? (parent ++ [name]) with
    | none => (.ok (), tree)
    | some .directory => (.ok (), tree.erase (parent ++ [name]))
    | some (.file _) | some (.link _) => (.error .notDirectory, tree)

/-- Removes a directory with all below it, or a symbolic link. What is below goes first: if the
directory itself cannot be removed, it is left empty. -/
def removeAll (tree : Tree) (path : Path) : Except Fault Unit × Tree :=
  match tree.linkAt? path with
  | some location => (.ok (), tree.erase location)
  | none =>
    match tree.find path with
    | .error fault => (.error fault, tree)
    | .ok (location, .directory) => (tree.clear location).removeEmpty path
    | .ok (_, .file _) | .ok (_, .link _) => (.error .notDirectory, tree)

end Tree

end ScriptPlugins
