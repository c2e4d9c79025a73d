import ScriptPlugins.Files.Tree
import ScriptPlugins.Log.Event
import ScriptPlugins.Text.Sort

/-!
# Finding scripts

The scripts of a project are the regular files below its source root, at any depth, whose names
match a pattern. Symbolic links below the root are neither followed nor found; the root itself may
be a link to a directory. A missing root holds no scripts. The paths come in their own order, so the
order in which a directory lists its entries is not seen.
-/

namespace ScriptPlugins.Discovery

open Text

/-- The path of what lies below a directory under these names. -/
def pathBelow (root : Path) (names : Location) : Path :=
  names.foldl (fun path name => path.join ⟨name⟩) root

/-- The regular files at or below a path, each with its own name. -/
def candidates (tree : Tree) (root : Path) : List (Path × Bytes) :=
  match tree.find root with
  | .error _ => []
  | .ok (location, .directory) =>
    (tree.below location).filterMap fun (names, entry) =>
      match entry with
      | .file _ => some (pathBelow root names, names.getLast?.getD [])
      | .directory | .link _ => none
  | .ok (_, .file _) =>
    if (tree.linkAt? root).isSome then [] else [(root, root.fileName?.getD root.bytes)]
  | .ok (_, .link _) => []

def event (level : Level) (message : String) : Event :=
  ⟨level, .discovery, message⟩

/-- The scripts at or below a path, and what there is to log. -/
def find (tree : Tree) (root : Path) (pattern : String) :
    Except Failure (List Path) × List Event :=
  match Glob.parse pattern with
  | .error refusal => (.error (.settings (.badPattern pattern refusal)), [])
  | .ok glob =>
    if tree.exists root then
      let named := (candidates tree root).map fun (path, name) => (path, Utf8.toString? name)
      let found := named.filterMap fun (path, name?) =>
        match name? with
        | some name => if glob.matches name then some path else none
        | none => none
      let skipped := (named.filter (·.2.isNone)).map fun _ =>
        event .warn "Skipping file with non-UTF-8 name"
      (.ok (sort Path.le found), skipped ++ [event .debug "Discovered script files"])
    else (.ok [], [event .debug "Script source root does not exist"])

end ScriptPlugins.Discovery
