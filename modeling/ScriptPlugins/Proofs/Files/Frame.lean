import ScriptPlugins.Proofs.Files.Place

/-!
# What operations leave alone

An operation may do what it likes to the locations of its region. Elsewhere everything stays, except
that there may be more directories than before, because directories on the way to a place are made
when they are missing. Making directories has no region at all, and an operation on a path without
links has the place of the path, with all below it.
-/

namespace ScriptPlugins.Tree

open Text

/-- Neither location is the other, or above it, or below it. -/
def Apart (location other : Location) : Prop :=
  ¬ location <+: other ∧ ¬ other <+: location

instance (location other : Location) : Decidable (Apart location other) :=
  inferInstanceAs (Decidable (_ ∧ _))

theorem Apart.not_prefix {location other inner : Location} (h : Apart location other)
    (hinner : location <+: inner) : ¬ other <+: inner := by
  intro hother
  rcases List.prefix_or_prefix_of_prefix hinner hother with hprefix | hprefix
  · exact h.1 hprefix
  · exact h.2 hprefix

/-- Nothing outside a region has gone or become something else. -/
structure Frame (region : Location → Prop) (before after : Tree) : Prop where
  home : after.home = before.home
  linkFree : before.LinkFree → after.LinkFree
  outside : ∀ location, ¬ region location →
    after.get? location = before.get? location ∨
      before.get? location = none ∧ after.get? location = some .directory

/-- The region of an operation that makes directories and nothing else. -/
def nowhere : Location → Prop :=
  fun _ => False

variable {before middle after tree later : Tree} {region other : Location → Prop}
  {location : Location} {path : Path} {entry : Entry}

namespace Frame

theorem refl (region : Location → Prop) (tree : Tree) : Frame region tree tree :=
  ⟨rfl, id, fun _ _ => .inl rfl⟩

theorem trans (h : Frame region before middle) (h' : Frame region middle after) :
    Frame region before after := by
  refine ⟨h'.home.trans h.home, fun hfree => h'.linkFree (h.linkFree hfree), ?_⟩
  intro location hout
  rcases h.outside location hout with hsame | ⟨hnone, hmade⟩
  · rcases h'.outside location hout with hsame' | ⟨hnone', hmade'⟩
    · exact .inl (hsame'.trans hsame)
    · exact .inr ⟨hsame ▸ hnone', hmade'⟩
  · rcases h'.outside location hout with hsame' | ⟨hnone', -⟩
    · exact .inr ⟨hnone, hsame'.trans hmade⟩
    · rw [hmade] at hnone'
      cases hnone'

theorem mono (h : Frame region before after) (hsub : ∀ location, region location → other location) :
    Frame other before after :=
  ⟨h.home, h.linkFree, fun location hout => h.outside location fun hin => hout (hsub location hin)⟩

theorem of_nowhere (h : Frame nowhere before after) : Frame region before after :=
  h.mono fun _ => False.elim

theorem place (h : Frame region before after) (path : Path) :
    after.place path = before.place path := by
  rw [Tree.place, Tree.place, start, start, h.home]

theorem get?_of_some (h : Frame region before after) (hout : ¬ region location)
    (hentry : before.get? location = some entry) : after.get? location = some entry := by
  rcases h.outside location hout with hsame | ⟨hnone, -⟩
  · exact hsame.trans hentry
  · rw [hentry] at hnone
    cases hnone

/-- Whatever is not a directory was there before. -/
theorem get?_of_ne_directory (h : Frame region before after) (hout : ¬ region location)
    (hentry : after.get? location = some entry) (hne : entry ≠ .directory) :
    before.get? location = some entry := by
  rcases h.outside location hout with hsame | ⟨-, hmade⟩
  · exact hsame.symm.trans hentry
  · rw [hentry, Option.some.injEq] at hmade
    exact absurd hmade hne

/-- What changes one region in one way, and puts no link there. -/
theorem of_get? [DecidablePred region] {left : Option Entry} (hhome : after.home = before.home)
    (hget : ∀ location, after.get? location =
      if region location then left else before.get? location)
    (hlink : ∀ target, left ≠ some (.link target)) : Frame region before after := by
  refine ⟨hhome, ?_, ?_⟩
  · intro hfree location target
    rw [hget]
    by_cases hin : region location
    · rw [if_pos hin]
      exact hlink target
    · rw [if_neg hin]
      exact hfree location target
  · intro location hout
    rw [hget, if_neg hout]
    exact .inl rfl

end Frame

/-- Directories are still directories and files are still files, with other contents perhaps. -/
structure Grows (before after : Tree) : Prop where
  home : after.home = before.home
  directory : ∀ location, before.get? location = some .directory →
    after.get? location = some .directory
  file : ∀ location contents, before.get? location = some (.file contents) →
    ∃ contents, after.get? location = some (.file contents)

theorem Grows.refl (tree : Tree) : tree.Grows tree :=
  ⟨rfl, fun _ h => h, fun _ contents h => ⟨contents, h⟩⟩

theorem Grows.trans (h : before.Grows middle) (h' : middle.Grows after) :
    before.Grows after := by
  refine ⟨h'.home.trans h.home, ?_, ?_⟩
  · intro location hlocation
    exact h'.directory location (h.directory location hlocation)
  · intro location contents hlocation
    obtain ⟨middleContents, hmiddle⟩ := h.file location contents hlocation
    exact h'.file location middleContents hmiddle

theorem Frame.grows (h : Frame nowhere before after) : before.Grows after :=
  ⟨h.home, fun _ hlocation => h.get?_of_some id hlocation,
    fun _ contents hlocation => ⟨contents, h.get?_of_some id hlocation⟩⟩

theorem Leads.grows (h : before.Leads path) (hgrows : before.Grows after) :
    after.Leads path := by
  refine ⟨h.accepted, ?_⟩
  have hpassable := h.passable.mono hgrows.directory
  rwa [start, ← hgrows.home, ← start] at hpassable

/-- A path that leads to a file goes on to lead there. -/
theorem LinkFree.find_grows (hfree : before.LinkFree) (hfree' : after.LinkFree)
    (hgrows : before.Grows after) (h : before.find path = .ok (location, entry))
    {later : Entry} (hlater : after.get? location = some later) :
    after.find path = .ok (location, later) := by
  obtain ⟨hleads, hplace, -⟩ := hfree.find_eq_ok_iff.1 h
  refine hfree'.find_eq_ok_iff.2 ⟨hleads.grows hgrows, ?_, hlater⟩
  rw [← hplace, place, place, start, start, hgrows.home]

theorem frame_put_directory (h : tree.get? location = none) :
    Frame nowhere tree (tree.put location .directory) := by
  have hne : location ≠ [] := ne_nil_of_get? (by rw [h]; nofun)
  have hput : Frame (· = location) tree (tree.put location .directory) :=
    .of_get? rfl (get?_put tree hne _) nofun
  refine ⟨rfl, hput.linkFree, ?_⟩
  intro other _
  by_cases heq : other = location
  · rw [heq, get?_put tree hne, if_pos rfl]
    exact .inr ⟨h, rfl⟩
  · exact hput.outside other heq

theorem frame_makeDirectory (h : tree.makeDirectory path = .ok later) :
    Frame nowhere tree later := by
  obtain ⟨found, -, h⟩ := bind_eq_ok_iff.1 h
  cases found with
  | special segment => simp at h
  | name parent name =>
      cases hentry : tree.get? (parent ++ [name]) with
      | some entry => simp [hentry] at h
      | none =>
          obtain rfl : tree.put (parent ++ [name]) .directory = later := by
            simpa [hentry, pure, Except.pure] using h
          exact frame_put_directory hentry

theorem frame_makeEach (tree : Tree) (paths : List Path) :
    Frame nowhere tree (tree.makeEach paths).2 := by
  induction paths generalizing tree with
  | nil => exact .refl _ tree
  | cons path rest ih =>
      rw [makeEach]
      cases hmade : tree.makeDirectory path with
      | ok later => exact (frame_makeDirectory hmade).trans (ih later)
      | error fault =>
          by_cases hthere : fault = .exists && tree.isDirectory path
          · simp only [hthere, if_true]
            exact ih tree
          · simp only [hthere]
            exact .refl _ tree

theorem frame_missing {made rest : List Path} {paths : List Path}
    (h : tree.missing made paths = .ok (later, rest)) : Frame nowhere tree later := by
  induction paths generalizing made with
  | nil =>
      obtain ⟨rfl, -⟩ : tree = later ∧ made = rest := by simpa [missing] using h
      exact .refl _ tree
  | cons path more ih =>
      rw [missing] at h
      split at h
      · next made hmade =>
          obtain ⟨rfl, -⟩ := Prod.mk.inj (Except.ok.inj h)
          exact frame_makeDirectory hmade
      · exact ih h
      · split at h
        · obtain ⟨rfl, -⟩ := Prod.mk.inj (Except.ok.inj h)
          exact .refl _ tree
        · cases h

theorem frame_makeDirectories (tree : Tree) (path : Path) :
    Frame nowhere tree (tree.makeDirectories path).2 := by
  rw [makeDirectories]
  split
  · exact .refl _ tree
  · cases hmissing : tree.missing [] (ancestors path) with
    | error fault => exact .refl _ tree
    | ok found => exact (frame_missing hmissing).trans (frame_makeEach _ _)

theorem frame_put_file (hentry : tree.get? location ≠ some .directory) (contents : Bytes) :
    Frame (· = location) tree (tree.put location (.file contents)) :=
  .of_get? rfl (get?_put tree (ne_nil_of_get? hentry) _) nofun

theorem grows_put_file (hentry : tree.get? location ≠ some .directory) (contents : Bytes) :
    tree.Grows (tree.put location (.file contents)) := by
  have hne := ne_nil_of_get? hentry
  refine ⟨rfl, ?_, ?_⟩
  · intro other hother
    have hother' : other ≠ location := by
      rintro rfl
      exact hentry hother
    rw [get?_put tree hne, if_neg hother', hother]
  · intro other kept hother
    rw [get?_put tree hne]
    by_cases heq : other = location
    · exact ⟨contents, if_pos heq⟩
    · exact ⟨kept, by rw [if_neg heq, hother]⟩

theorem write_eq_ok {contents : Bytes} (h : tree.write path contents = .ok later) :
    ∃ location, tree.locate path = .ok location ∧ tree.get? location ≠ some .directory ∧
      (∀ target, tree.get? location ≠ some (.link target)) ∧
      later = tree.put location (.file contents) := by
  rw [write] at h
  by_cases hends : path.endsInSlash
  · rw [if_pos hends] at h
    obtain ⟨-, -, h⟩ := bind_eq_ok_iff.1 h
    cases h
  · rw [if_neg hends] at h
    obtain ⟨location, hlocate, h⟩ := bind_eq_ok_iff.1 h
    refine ⟨location, hlocate, ?_⟩
    cases hentry : tree.get? location with
    | none =>
        rw [hentry] at h
        exact ⟨by simp, by simp, (Except.ok.inj h).symm⟩
    | some entry =>
        rw [hentry] at h
        cases entry with
        | file kept => exact ⟨by simp, by simp, (Except.ok.inj h).symm⟩
        | directory => cases h
        | link target => cases h

/-- What writing a file has done, if it has. -/
structure Wrote (before : Tree) (path : Path) (contents : Bytes) (after : Tree) : Prop where
  leads : before.Leads path
  free : before.get? (before.place path) ≠ some .directory
  eq : after = before.put (before.place path) (.file contents)

theorem LinkFree.wrote (hfree : tree.LinkFree) {contents : Bytes}
    (h : tree.write path contents = .ok later) : tree.Wrote path contents later := by
  obtain ⟨location, hlocate, hdirectory, -, rfl⟩ := write_eq_ok h
  obtain ⟨hleads, rfl⟩ := hfree.locate_eq_ok_iff.1 hlocate
  exact ⟨hleads, hdirectory, rfl⟩

namespace Wrote

variable {contents : Bytes}

theorem frame (h : before.Wrote path contents after) :
    Frame (· = before.place path) before after := by
  rw [h.eq]
  exact frame_put_file h.free contents

theorem grows (h : before.Wrote path contents after) : before.Grows after := by
  rw [h.eq]
  exact grows_put_file h.free contents

theorem find (h : before.Wrote path contents after) (hfree : before.LinkFree) :
    after.find path = .ok (before.place path, .file contents) := by
  refine (h.frame.linkFree hfree).find_eq_ok_iff.2 ⟨?_, h.frame.place path, ?_⟩
  · exact h.leads.grows h.grows
  · rw [h.eq, get?_put _ (ne_nil_of_get? h.free), if_pos rfl]

end Wrote

theorem frame_clear (tree : Tree) (location : Location) :
    Frame (location <+: ·) tree (tree.clear location) := by
  have hclear : Frame (isBelow location · = true) tree (tree.clear location) :=
    .of_get? rfl (get?_clear tree location) nofun
  exact hclear.mono fun other hbelow => (isBelow_iff.1 hbelow).2

theorem frame_erase (tree : Tree) (hne : location ≠ []) :
    Frame (location <+: ·) tree (tree.erase location) := by
  have herase : Frame (· = location) tree (tree.erase location) :=
    .of_get? rfl (get?_erase tree hne) nofun
  refine herase.mono ?_
  rintro other rfl
  exact List.prefix_rfl

/-- Nothing happens, or the directory at the last name of the path is gone. -/
theorem removeEmpty_cases (tree : Tree) (path : Path) :
    (tree.removeEmpty path).2 = tree ∨ ∃ parent name, tree.last path = .ok (.name parent name) ∧
      tree.get? (parent ++ [name]) = some .directory ∧
      (tree.removeEmpty path).2 = tree.erase (parent ++ [name]) := by
  rw [removeEmpty]
  cases hlast : tree.last path with
  | error fault => cases fault <;> exact .inl rfl
  | ok found =>
      cases found with
      | special segment => exact .inl rfl
      | name parent name =>
          simp only
          split
          · exact .inl rfl
          · next hdirectory => exact .inr ⟨parent, name, rfl, hdirectory, rfl⟩
          · exact .inl rfl
          · exact .inl rfl

theorem LinkFree.frame_removeEmpty (hfree : tree.LinkFree) (path : Path) :
    Frame (tree.place path <+: ·) tree (tree.removeEmpty path).2 := by
  rcases removeEmpty_cases tree path with hsame | ⟨parent, name, hlast, -, herased⟩
  · rw [hsame]
    exact .refl _ tree
  · rw [herased, hfree.place_of_last hlast]
    exact frame_erase tree (by simp)

theorem linkAt?_eq_some (h : tree.linkAt? path = some location) :
    ∃ target, tree.get? location = some (.link target) := by
  rw [linkAt?] at h
  split at h
  · split at h
    · next target hlink =>
        obtain rfl := Option.some.inj h
        exact ⟨target, hlink⟩
    · cases h
  · cases h

theorem LinkFree.linkAt?_eq_none (hfree : tree.LinkFree) (path : Path) :
    tree.linkAt? path = none := by
  cases hlink : tree.linkAt? path with
  | none => rfl
  | some location =>
      obtain ⟨target, htarget⟩ := linkAt?_eq_some hlink
      exact absurd htarget (hfree location target)

/-- Nothing happens, or what is below the place of the path is gone and the directory is to follow. -/
theorem LinkFree.removeAll_cases (hfree : tree.LinkFree) (path : Path) :
    (tree.removeAll path).2 = tree ∨
      (tree.removeAll path).2 = ((tree.clear (tree.place path)).removeEmpty path).2 := by
  rw [removeAll, hfree.linkAt?_eq_none]
  cases hfind : tree.find path with
  | error fault => exact .inl rfl
  | ok found =>
      obtain ⟨location, entry⟩ := found
      obtain ⟨-, rfl, -⟩ := hfree.find_eq_ok_iff.1 hfind
      cases entry with
      | file contents => exact .inl rfl
      | link target => exact .inl rfl
      | directory => exact .inr rfl

theorem LinkFree.frame_removeAll (hfree : tree.LinkFree) (path : Path) :
    Frame (tree.place path <+: ·) tree (tree.removeAll path).2 := by
  rcases hfree.removeAll_cases path with hsame | hremoved
  · rw [hsame]
    exact .refl _ tree
  · have hclear := frame_clear tree (tree.place path)
    have hremove := (hclear.linkFree hfree).frame_removeEmpty path
    rw [hclear.place path] at hremove
    rw [hremoved]
    exact hclear.trans hremove

end ScriptPlugins.Tree
