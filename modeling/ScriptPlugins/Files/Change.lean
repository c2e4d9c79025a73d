import ScriptPlugins.Files.Tree

/-!
# Changes from outside

While a build runs, others may create, remove and rename files. These operations are not part of a
pass; they are what a pass has to expect.
-/

namespace ScriptPlugins.Tree

open Text

/-- Puts an entry at a path, in directories that are made if need be. -/
def create (tree : Tree) (path : Path) (entry : Entry) : Except Fault Tree := do
  let tree ← match path.parent? with
    | none => pure tree
    | some parent =>
      match tree.makeDirectories parent with
      | (.ok (), tree) => pure tree
      | (.error fault, _) => .error fault
  match entry with
  | .file contents => tree.write path contents
  | .directory =>
    match tree.makeDirectories path with
    | (.ok (), tree) => return tree
    | (.error fault, _) => .error fault
  | .link target =>
    if target.bytes.isEmpty then .error .notFound
    else match ← tree.last path with
      | .special _ => .error .exists
      | .name parent name =>
        if (tree.get? (parent ++ [name])).isSome then .error .exists
        else return tree.put (parent ++ [name]) (.link target)

/-- Removes a file or a link, or a directory with all that is below it. -/
def remove (tree : Tree) (path : Path) : Except Fault Tree := do
  match ← tree.last path with
  | .name parent name =>
    match tree.get? (parent ++ [name]) with
    | none => .error .notFound
    | some .directory =>
      match tree.removeAll path with
      | (.ok (), tree) => return tree
      | (.error fault, _) => .error fault
    | some _ =>
      if path.endsInSlash then .error .notDirectory else return tree.erase (parent ++ [name])
  | .special _ =>
    match tree.removeAll path with
    | (.ok (), tree) => return tree
    | (.error fault, _) => .error fault

/-- Whether what is at one location may take the place of what is at another. -/
def refusesRename (tree : Tree) (moved : Entry) (location : Location) : Option Fault :=
  match moved, tree.get? location with
  | _, none => none
  | .directory, some .directory => if (tree.below location).isEmpty then none else some .notEmpty
  | .directory, some _ => some .notDirectory
  | _, some .directory => some .isDirectory
  | _, some _ => none

def move (tree : Tree) (source target : Location) : Tree :=
  let cleared := if source = target then tree else tree.erase target
  { cleared with
    entries := cleared.entries.map fun (location, entry) =>
      if source.isPrefixOf location then (target ++ location.drop source.length, entry)
      else (location, entry) }

def rename (tree : Tree) (path other : Path) : Except Fault Tree := do
  match ← tree.last path, ← tree.last other with
  | .name parent name, .name otherParent otherName =>
    let source := parent ++ [name]
    let target := otherParent ++ [otherName]
    match tree.get? source with
    | none => .error .notFound
    | some moved =>
      if (path.endsInSlash || other.endsInSlash) && moved ≠ .directory then .error .notDirectory
      else if isBelow source target then .error .invalidArgument
      else match tree.refusesRename moved target with
        | some fault => .error fault
        | none => return tree.move source target
  | _, _ => .error .invalidArgument

end ScriptPlugins.Tree
