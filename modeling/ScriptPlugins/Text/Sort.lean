/-!
# Sorting a list

Every element is put before the first one that it may precede. So elements that may precede each
other keep the order in which they came.
-/

namespace ScriptPlugins.Text

variable {α : Type} (le : α → α → Bool)

def insertSorted (item : α) : List α → List α
  | [] => [item]
  | other :: rest =>
    if le item other then item :: other :: rest else other :: insertSorted item rest

def sort : List α → List α
  | [] => []
  | item :: rest => insertSorted le item (sort rest)

theorem insertSorted_perm (item : α) (items : List α) :
    (insertSorted le item items).Perm (item :: items) := by
  induction items with
  | nil => exact .refl _
  | cons other rest ih =>
    unfold insertSorted
    split
    · exact .refl _
    · exact (ih.cons other).trans (.swap item other rest)

theorem sort_perm (items : List α) : (sort le items).Perm items := by
  induction items with
  | nil => exact .refl _
  | cons item rest ih => exact (insertSorted_perm le item (sort le rest)).trans (ih.cons item)

theorem mem_sort {item : α} {items : List α} : item ∈ sort le items ↔ item ∈ items :=
  (sort_perm le items).mem_iff

section

variable {le} (htrans : ∀ first second third, le first second → le second third → le first third)
  (htotal : ∀ first second, le first second ∨ le second first)

include htrans htotal

theorem pairwise_insertSorted {items : List α} (item : α) (h : items.Pairwise (le · ·)) :
    (insertSorted le item items).Pairwise (le · ·) := by
  induction items with
  | nil => exact List.pairwise_singleton _ item
  | cons other rest ih =>
    obtain ⟨hother, hrest⟩ := List.pairwise_cons.1 h
    unfold insertSorted
    split
    · next hle =>
      refine List.pairwise_cons.2 ⟨fun later hlater => ?_, h⟩
      rcases List.mem_cons.1 hlater with rfl | hlater
      · exact hle
      · exact htrans _ _ _ hle (hother later hlater)
    · next hle =>
      have hother' : le other item := (htotal item other).resolve_left hle
      refine List.pairwise_cons.2 ⟨fun later hlater => ?_, ih hrest⟩
      rcases List.mem_cons.1 ((insertSorted_perm le item rest).mem_iff.1 hlater) with rfl | hlater
      · exact hother'
      · exact hother later hlater

theorem pairwise_sort (items : List α) : (sort le items).Pairwise (le · ·) := by
  induction items with
  | nil => exact .nil
  | cons item rest ih => exact pairwise_insertSorted htrans htotal item ih

end

end ScriptPlugins.Text
