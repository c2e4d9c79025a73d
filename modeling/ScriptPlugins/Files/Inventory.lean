import ScriptPlugins.Files.Tree

/-!
# Inventories

An inventory lists what lies below a directory, each entry by its name from there: files with their
contents, symbolic links with an at sign after the name, and directories with a slash, but only
those that are empty, because the others show in the names of what they hold. The list is in the
order of the bytes of the names as they are written.
-/

namespace ScriptPlugins

open Text

structure Inventory.Item where
  name : String
  contents : Option String
  deriving Repr, DecidableEq

namespace Inventory

def nameOf (names : Location) : String :=
  Utf8.display (join Path.slash names)

/-- How an entry is listed, if it is; `all` are the locations of all entries. -/
def item? (all : List Location) : Location × Entry → Option Item
  | (names, .file contents) => some ⟨nameOf names, some (Utf8.display contents)⟩
  | (names, .link _) => some ⟨nameOf names ++ "@", none⟩
  | (names, .directory) =>
    if all.any (Tree.isBelow names) then none else some ⟨nameOf names ++ "/", none⟩

def Item.le (first second : Item) : Bool :=
  decide (Utf8.ofString first.name ≤ Utf8.ofString second.name)

def ofTree (tree : Tree) (location : Location) : List Item :=
  let below := tree.below location
  (below.filterMap (item? (below.map (·.1)))).mergeSort Item.le

end Inventory

end ScriptPlugins
