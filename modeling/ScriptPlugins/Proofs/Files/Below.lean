import Mathlib.Data.List.Nodup
import ScriptPlugins.Proofs.Files.Likeness

/-!
# What stands below a directory

Going down from a directory without following links leads to everything that is listed under its
location, because in a well-formed tree there are only directories on the way to what is listed. So
a search does not have to go anywhere: it can take from the list what has the location as a start.

Well-formed trees that look alike list the same entries, in any order, and so below each directory.
-/

namespace ScriptPlugins.Tree

open Text

/-- What a walk from a directory comes to. It goes on in directories only, and through no link. -/
inductive Reaches (tree : Tree) (top : Location) : Location → Entry → Prop where
  | top (h : tree.get? top = some .directory) : tree.Reaches top [] .directory
  | under {names : Location} {name : Bytes} {entry : Entry}
      (hnames : tree.Reaches top names .directory)
      (h : tree.get? (top ++ (names ++ [name])) = some entry) :
      tree.Reaches top (names ++ [name]) entry

variable {tree first second : Tree} {top location names : Location} {entry : Entry}

theorem Reaches.get? (h : tree.Reaches top names entry) :
    tree.get? (top ++ names) = some entry := by
  cases h with
  | top h => rwa [List.append_nil]
  | under _ h => exact h

theorem WellFormed.reaches_iff (hwell : tree.WellFormed) (htop : tree.get? top = some .directory) :
    tree.Reaches top names entry ↔ tree.get? (top ++ names) = some entry := by
  refine ⟨Reaches.get?, fun h => ?_⟩
  induction names using List.reverseRecOn generalizing entry with
  | nil =>
      rw [List.append_nil, htop] at h
      obtain rfl := Option.some.inj h
      exact .top htop
  | append_singleton names name ih =>
      refine .under (ih ?_) h
      rw [← List.append_assoc] at h
      exact hwell.get?_of_prefix h (List.cons_ne_nil name [])

theorem WellFormed.mem_entries_iff (hwell : tree.WellFormed) :
    (location, entry) ∈ tree.entries ↔ location ≠ [] ∧ tree.get? location = some entry := by
  constructor
  · exact fun h => ⟨(hwell.listed _ h).1, hwell.get?_of_mem h⟩
  · rintro ⟨hne, h⟩
    rw [get?_of_ne tree hne] at h
    exact mem_of_lookup h

theorem mem_below_iff :
    (names, entry) ∈ tree.below location ↔
      names ≠ [] ∧ (location ++ names, entry) ∈ tree.entries := by
  constructor
  · intro h
    obtain ⟨⟨listed, kept⟩, hmem, heq⟩ := List.mem_map.1 h
    obtain ⟨hmem, hbelow⟩ := List.mem_filter.1 hmem
    obtain ⟨hne, rest, rfl⟩ := isBelow_iff.1 hbelow
    obtain ⟨rfl, rfl⟩ := Prod.mk.inj heq
    rw [List.drop_left]
    refine ⟨?_, hmem⟩
    rintro rfl
    exact hne (List.append_nil location).symm
  · rintro ⟨hne, hmem⟩
    have hbelow : isBelow location (location ++ names) = true :=
      isBelow_iff.2 ⟨by simpa using hne, List.prefix_append location names⟩
    exact List.mem_map.2 ⟨_, List.mem_filter.2 ⟨hmem, hbelow⟩, Prod.ext List.drop_left rfl⟩

theorem WellFormed.isName_of_mem_below (hwell : tree.WellFormed)
    (h : (names, entry) ∈ tree.below location) : ∀ name ∈ names, Path.IsName name := by
  intro name hname
  obtain ⟨-, hmem⟩ := mem_below_iff.1 h
  exact (hwell.listed _ hmem).2.1 name (List.mem_append_right _ hname)

/-- Nothing is listed twice below a location. -/
theorem WellFormed.pairwise_below (hwell : tree.WellFormed) (location : Location) :
    (tree.below location).Pairwise fun item other => item.1 ≠ other.1 := by
  have hkeys : tree.entries.Pairwise fun item other => item.1 ≠ other.1 :=
    List.pairwise_map.1 hwell.nodup
  refine List.pairwise_map.2 ((hkeys.filter _).imp_of_mem ?_)
  rintro ⟨listed, _⟩ ⟨listed', _⟩ hmem hmem' hne
  obtain ⟨-, rest, rfl⟩ := isBelow_iff.1 (List.mem_filter.1 hmem).2
  obtain ⟨-, rest', rfl⟩ := isBelow_iff.1 (List.mem_filter.1 hmem').2
  intro heq
  have hrest : rest = rest' := List.drop_left.symm.trans (heq.trans List.drop_left)
  exact hne (congrArg (location ++ ·) hrest)

theorem Alike.entries_perm (h : first.Alike second) (hfirst : first.WellFormed)
    (hsecond : second.WellFormed) : second.entries.Perm first.entries := by
  have hlisted := List.Nodup.of_map _ hfirst.nodup
  have hlisted' := List.Nodup.of_map _ hsecond.nodup
  refine (List.perm_ext_iff_of_nodup hlisted' hlisted).2 ?_
  rintro ⟨location, entry⟩
  rw [hsecond.mem_entries_iff, hfirst.mem_entries_iff, h.get?]

theorem Alike.below_perm (h : first.Alike second) (hfirst : first.WellFormed)
    (hsecond : second.WellFormed) (location : Location) :
    (second.below location).Perm (first.below location) :=
  ((h.entries_perm hfirst hsecond).filter _).map _

/-- Listing the same entries in another order makes no difference. -/
theorem alike_of_perm (hfirst : first.WellFormed) (hsecond : second.WellFormed)
    (hhome : second.home = first.home) (hperm : second.entries.Perm first.entries) :
    first.Alike second := by
  refine ⟨hhome, fun location => ?_⟩
  by_cases hroot : location = []
  · rw [hroot, get?_root, get?_root]
  · ext entry
    have hlisted := @WellFormed.mem_entries_iff _ location entry hfirst
    have hlisted' := @WellFormed.mem_entries_iff _ location entry hsecond
    rw [and_iff_right hroot] at hlisted hlisted'
    rw [← hlisted, ← hlisted', hperm.mem_iff]

end ScriptPlugins.Tree
