import Mathlib.Data.List.Induction
import ScriptPlugins.Files.Tree
import ScriptPlugins.Proofs.Files.Path

/-!
# Looking up locations

A change of the tree is known by what is looked up afterwards, so there is one equation for each
operation, and nothing else has to know how entries are kept.

The list of entries can say things that no tree of files is like: two entries under one location, or
an entry below a file. A well-formed tree has none of these, and in it a listed entry is what its
location leads to.
-/

namespace ScriptPlugins.Tree

open Text

variable {tree : Tree} {location other : Location} {entry : Entry}

theorem lookup_filter (keeps : Location → Bool) (entries : List (Location × Entry))
    (location : Location) :
    (entries.filter (keeps ·.1)).lookup location =
      if keeps location then entries.lookup location else none := by
  induction entries with
  | nil => simp
  | cons item rest ih =>
      obtain ⟨key, entry⟩ := item
      by_cases hkey : location = key
      · subst hkey
        by_cases hkeeps : keeps location
        · simp [hkeeps]
        · simp [hkeeps, ih]
      · have hne : (location == key) = false := beq_eq_false_iff_ne.2 hkey
        by_cases hkeeps : keeps key
        · simp [hkeeps, List.lookup_cons, hne, ih]
        · simp [hkeeps, List.lookup_cons, hne, ih]

theorem mem_of_lookup {entries : List (Location × Entry)}
    (h : entries.lookup location = some entry) : (location, entry) ∈ entries := by
  induction entries with
  | nil => cases h
  | cons item rest ih =>
      obtain ⟨key, kept⟩ := item
      rw [List.lookup_cons] at h
      by_cases hkey : location = key
      · obtain rfl : kept = entry := by simpa [hkey] using h
        rw [hkey]
        exact List.mem_cons_self
      · rw [beq_eq_false_iff_ne.2 hkey] at h
        exact List.mem_cons_of_mem _ (ih h)

theorem lookup_of_mem {entries : List (Location × Entry)} (hnodup : (entries.map Prod.fst).Nodup)
    (h : (location, entry) ∈ entries) : entries.lookup location = some entry := by
  induction entries with
  | nil => cases h
  | cons item rest ih =>
      obtain ⟨hitem, hrest⟩ := List.nodup_cons.1 hnodup
      rcases List.mem_cons.1 h with rfl | hmem
      · simp
      · have hne : location ≠ item.1 := by
          intro heq
          rw [← heq] at hitem
          exact hitem (List.mem_map.2 ⟨_, hmem, rfl⟩)
        rw [List.lookup_cons, beq_eq_false_iff_ne.2 hne]
        exact ih hrest hmem

theorem get?_root (tree : Tree) : tree.get? [] = some .directory :=
  if_pos rfl

theorem get?_of_ne (tree : Tree) (h : location ≠ []) :
    tree.get? location = tree.entries.lookup location :=
  if_neg h

theorem ne_nil_of_get? (h : tree.get? location ≠ some .directory) : location ≠ [] := by
  rintro rfl
  exact h (get?_root tree)

theorem get?_put (tree : Tree) (h : location ≠ []) (entry : Entry) (other : Location) :
    (tree.put location entry).get? other =
      if other = location then some entry else tree.get? other := by
  by_cases hroot : other = []
  · have hne : ([] : Location) ≠ location := Ne.symm h
    rw [hroot, get?_root, get?_root, if_neg hne]
  · rw [get?_of_ne _ hroot, get?_of_ne _ hroot, put, List.lookup_append,
      lookup_filter (· != location)]
    by_cases heq : other = location
    · simp [heq]
    · simp [heq, List.lookup_cons, beq_eq_false_iff_ne.2 heq]

theorem get?_erase (tree : Tree) (h : location ≠ []) (other : Location) :
    (tree.erase location).get? other =
      if other = location then none else tree.get? other := by
  by_cases hroot : other = []
  · have hne : ([] : Location) ≠ location := Ne.symm h
    rw [hroot, get?_root, get?_root, if_neg hne]
  · rw [get?_of_ne _ hroot, get?_of_ne _ hroot, erase, lookup_filter (· != location)]
    by_cases heq : other = location <;> simp [heq]

theorem isBelow_iff : isBelow location other = true ↔ location ≠ other ∧ location <+: other := by
  simp [isBelow]

theorem get?_clear (tree : Tree) (location other : Location) :
    (tree.clear location).get? other =
      if isBelow location other then none else tree.get? other := by
  by_cases hroot : other = []
  · have hbelow : isBelow location [] = false := by
      rw [Bool.eq_false_iff, Ne, isBelow_iff, List.prefix_nil]
      exact fun ⟨hne, heq⟩ => hne heq
    rw [hroot, get?_root, get?_root, hbelow, if_neg Bool.false_ne_true]
  · rw [get?_of_ne _ hroot, get?_of_ne _ hroot, clear, lookup_filter (!isBelow location ·)]
    by_cases hbelow : isBelow location other <;> simp [hbelow]

def LinkFree (tree : Tree) : Prop :=
  ∀ location target, tree.get? location ≠ some (.link target)

def isLink : Entry → Bool
  | .link _ => true
  | .file _ | .directory => false

theorem linkFree_of_entries (h : ∀ item ∈ tree.entries, isLink item.2 = false) :
    tree.LinkFree := by
  intro location target hlink
  have hne : location ≠ [] := ne_nil_of_get? (by rw [hlink]; nofun)
  rw [get?_of_ne tree hne] at hlink
  exact Bool.noConfusion (h _ (mem_of_lookup hlink))

structure WellFormed (tree : Tree) : Prop where
  nodup : (tree.entries.map Prod.fst).Nodup
  /-- What is listed has a name of its own and stands in a directory. -/
  listed : ∀ item ∈ tree.entries, item.1 ≠ [] ∧ (∀ name ∈ item.1, Path.IsName name) ∧
    tree.get? item.1.dropLast = some .directory

instance (tree : Tree) : Decidable tree.WellFormed :=
  decidable_of_iff
    ((tree.entries.map Prod.fst).Nodup ∧ ∀ item ∈ tree.entries,
      item.1 ≠ [] ∧ (∀ name ∈ item.1, Path.IsName name) ∧
        tree.get? item.1.dropLast = some .directory)
    ⟨fun ⟨nodup, listed⟩ => ⟨nodup, listed⟩, fun h => ⟨h.nodup, h.listed⟩⟩

theorem WellFormed.get?_of_mem (hwell : tree.WellFormed) (h : (location, entry) ∈ tree.entries) :
    tree.get? location = some entry := by
  rw [get?_of_ne tree (hwell.listed _ h).1]
  exact lookup_of_mem hwell.nodup h

/-- Whatever stands somewhere has only directories above it. -/
theorem WellFormed.get?_of_prefix (hwell : tree.WellFormed) {above : Location}
    (h : tree.get? (above ++ other) = some entry) (hother : other ≠ []) :
    tree.get? above = some .directory := by
  induction other using List.reverseRecOn generalizing entry with
  | nil => exact absurd rfl hother
  | append_singleton front name ih =>
      have hne : above ++ (front ++ [name]) ≠ [] := by simp
      rw [get?_of_ne tree hne] at h
      have hdirectory := (hwell.listed _ (mem_of_lookup h)).2.2
      rw [← List.append_assoc, List.dropLast_concat] at hdirectory
      by_cases hfront : front = []
      · rwa [hfront, List.append_nil] at hdirectory
      · exact ih hdirectory hfront

end ScriptPlugins.Tree
