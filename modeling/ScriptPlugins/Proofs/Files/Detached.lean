import ScriptPlugins.Proofs.Files.Spared

/-!
# Paths that what happens in a directory cannot reach

A file may stand apart from a directory and still depend on it: the way to the file can lead through
the directory and out of it again by two dots, or through a place that is missing until the directory
is made. Where neither is the case, whatever is removed, made and written in the directory, on the way
to it too, reading the file gives what it gave before, a failure included.
-/

namespace ScriptPlugins.Tree

open Text

variable {tree before middle after : Tree} {region way : Location → Prop} {directory path : Path}
  {here above location : Location} {names front : List Bytes}

theorem WellFormed.get?_eq_none (hwell : tree.WellFormed) (h : tree.get? above = none)
    (hbelow : above <+: location) : tree.get? location = none := by
  obtain ⟨names, rfl⟩ := hbelow
  by_cases hnames : names = []
  · rwa [hnames, List.append_nil]
  · cases hentry : tree.get? (above ++ names) with
    | none => rfl
    | some entry =>
        rw [hwell.get?_of_prefix hentry hnames] at h
        cases h

/-- A location that the way to a path comes by, from its start to its end. -/
def Passes (tree : Tree) (path : Path) (location : Location) : Prop :=
  ∃ front, front <+: path.segments ∧ resolve (tree.start path) front = location

/-- The path has no dots that lead back, and all its names can be names of files. -/
structure Plain (path : Path) : Prop where
  noParent : Path.dotDot ∉ path.segments
  short : ∀ name ∈ path.segments, name.length ≤ nameLimit

/-- A place at which a directory is made along with the directory at a path. -/
def OnWay (tree : Tree) (path : Path) (location : Location) : Prop :=
  ∃ ancestor ∈ ancestors path, tree.place ancestor = location

/-- The way leads through a place where nothing is, and it would do so with more directories too, as
long as they are made at certain places only. -/
inductive Broken (tree : Tree) (made : Location → Prop) : Location → List Bytes → Prop
  | missing {here : Location} {name : Bytes} {rest : List Bytes} (free : tree.get? here = none)
      (unmade : ¬ made here) : Broken tree made here (name :: rest)
  | past {here : Location} {name : Bytes} {rest : List Bytes}
      (passable : tree.get? here = some .directory ∨ tree.get? here = none)
      (short : name.length ≤ nameLimit) (broken : Broken tree made (turn here name) rest) :
      Broken tree made here (name :: rest)

/-- Neither the way to the path nor what it leads to depends on what there is in a directory and on
the way to it. -/
structure Detached (tree : Tree) (directory path : Path) : Prop where
  apart : Apart (tree.place directory) (tree.place path)
  around : ∀ location, tree.Passes path location → ¬ tree.place directory <+: location
  bypasses : tree.Bypasses directory (tree.place path)
  stands : Plain path ∨ tree.locate path ≠ .error .notFound ∨
    tree.Broken (tree.OnWay directory) (tree.start path) (steps path)

/-- For usual paths it is enough to stand apart. -/
theorem Plain.detached (hpath : Plain path) (hdirectory : Path.dotDot ∉ directory.segments)
    (hapart : Apart (tree.place directory) (tree.place path)) : tree.Detached directory path := by
  refine ⟨hapart, ?_, bypasses_of_noParent hdirectory hapart, .inl hpath⟩
  rintro location ⟨front, ⟨back, hsegments⟩, rfl⟩ hbelow
  have hback : Path.dotDot ∉ back := by
    intro hmem
    exact hpath.noParent (hsegments ▸ List.mem_append_right front hmem)
  apply hapart.1
  refine hbelow.trans ?_
  rw [place, ← hsegments, resolve_append]
  exact prefix_resolve _ hback

/-- Nothing has changed but in a region, and that there may be new directories on a way. -/
structure Within (region way : Location → Prop) (before after : Tree) : Prop where
  frame : Frame region before after
  aside : ∀ location, ¬ region location → ¬ way location →
    after.get? location = before.get? location

theorem Within.refl (region way : Location → Prop) (tree : Tree) : Within region way tree tree :=
  ⟨.refl region tree, fun _ _ _ => rfl⟩

theorem Within.trans (h : Within region way before middle) (h' : Within region way middle after) :
    Within region way before after := by
  refine ⟨h.frame.trans h'.frame, ?_⟩
  intro location hregion hway
  exact (h'.aside location hregion hway).trans (h.aside location hregion hway)

theorem Frame.onWay (h : Frame region before after) (path : Path) :
    after.OnWay path = before.OnWay path := by
  funext location
  simp only [OnWay, h.place]

theorem LinkFree.within_makeDirectories (hfree : tree.LinkFree) (region : Location → Prop)
    (path : Path) : Within region (tree.OnWay path) tree (tree.makeDirectories path).2 := by
  have hpaved : Paved (tree.OnWay path) tree (tree.makeDirectories path).2 :=
    hfree.paved_of_ancestors fun ancestor hancestor => ⟨ancestor, hancestor, rfl⟩
  exact ⟨hpaved.frame.of_nowhere, fun location _ hway => hpaved.aside location hway⟩

theorem Wrote.within {contents : Bytes} (h : before.Wrote path contents after)
    (hregion : region (before.place path)) : Within region way before after := by
  constructor
  · apply h.frame.mono
    rintro location rfl
    exact hregion
  · intro location hout _
    rw [h.eq, get?_put _ (ne_nil_of_get? h.free), if_neg]
    rintro rfl
    exact hout hregion

theorem LinkFree.within_removeAll (hfree : tree.LinkFree) (way : Location → Prop) (path : Path) :
    Within (tree.place path <+: ·) way tree (tree.removeAll path).2 := by
  refine ⟨hfree.frame_removeAll path, ?_⟩
  intro location hout _
  rcases hfree.removeAll_cases path with hsame | hremoved
  · rw [hsame]
  have hframe := frame_clear tree (tree.place path)
  have hclear : (tree.clear (tree.place path)).get? location = tree.get? location := by
    rw [get?_clear, if_neg]
    exact fun hbelow => hout (isBelow_iff.1 hbelow).2
  rw [hremoved, ← hclear]
  rcases removeEmpty_cases (tree.clear (tree.place path)) path with
    hkept | ⟨parent, name, hlast, -, herased⟩
  · rw [hkept]
  · have hplace := (hframe.linkFree hfree).place_of_last hlast
    rw [hframe.place] at hplace
    rw [herased, get?_erase _ (by simp), if_neg]
    rintro rfl
    exact hout (hplace ▸ List.prefix_rfl)

/-- The way leads where it led, unless it ended where something was missing. -/
theorem LinkFree.walkWith_of_frame (hfree : before.LinkFree) (hframe : Frame region before after)
    (follow follow' : Location → List Bytes → Except Fault Location)
    (hout : ∀ front, front <+: names → ¬ region (resolve here front)) :
    after.walkWith follow' here names = before.walkWith follow here names ∨
      before.walkWith follow here names = .error .notFound := by
  induction names generalizing here with
  | nil => exact .inl rfl
  | cons name rest ih =>
      have hhere : ¬ region here := hout [] List.nil_prefix
      rcases hframe.outside here hhere with hsame | ⟨hnone, -⟩
      · cases hentry : before.get? here with
        | none => exact .inr (by rw [walkWith, hentry])
        | some entry =>
            cases entry with
            | file contents => exact .inl (by rw [walkWith, walkWith, hsame, hentry])
            | link target => exact absurd hentry (hfree here target)
            | directory =>
                rw [hfree.walkWith_cons follow hentry,
                  (hframe.linkFree hfree).walkWith_cons follow' (hsame.trans hentry)]
                split
                · exact ih fun front hfront =>
                    hout (name :: front) ((List.prefix_cons_inj name).2 hfront)
                · exact .inl rfl
      · exact .inr (by rw [walkWith, hnone])

/-- Where there are at most directories, a way can only be stopped by one that is missing. -/
theorem LinkFree.walkWith_of_directories (hfree : tree.LinkFree)
    (follow : Location → List Bytes → Except Fault Location)
    (hshort : ∀ name ∈ names, name.length ≤ nameLimit)
    (h : ∀ front, front <+: names → tree.get? (resolve here front) = none ∨
      tree.get? (resolve here front) = some .directory) :
    tree.walkWith follow here names = .ok (resolve here names) ∨
      tree.walkWith follow here names = .error .notFound := by
  induction names generalizing here with
  | nil => exact .inl rfl
  | cons name rest ih =>
      have hhere : tree.get? here = none ∨ tree.get? here = some .directory :=
        h [] List.nil_prefix
      rcases hhere with hnone | hdirectory
      · exact .inr (by rw [walkWith, hnone])
      · rw [hfree.walkWith_cons follow hdirectory, if_pos (hshort name List.mem_cons_self)]
        exact ih (fun other hother => hshort other (List.mem_cons_of_mem _ hother))
          fun front hfront => h (name :: front) ((List.prefix_cons_inj name).2 hfront)

/-- Down from a missing place there is nothing yet, and later at most directories. -/
theorem LinkFree.walkWith_of_notFound (hfree : before.LinkFree) (hwell : before.WellFormed)
    (hframe : Frame region before after)
    (follow follow' : Location → List Bytes → Except Fault Location)
    (hout : ∀ front, front <+: names → ¬ region (resolve here front))
    (hparent : Path.dotDot ∉ names) (hshort : ∀ name ∈ names, name.length ≤ nameLimit)
    (h : before.walkWith follow here names = .error .notFound) :
    before.get? (resolve here names) = none ∧
      (after.walkWith follow' here names = .ok (resolve here names) ∨
        after.walkWith follow' here names = .error .notFound) := by
  induction names generalizing here with
  | nil => cases h
  | cons name rest ih =>
      cases hentry : before.get? here with
      | none =>
          refine ⟨hwell.get?_eq_none hentry (prefix_resolve here hparent), ?_⟩
          refine (hframe.linkFree hfree).walkWith_of_directories follow' hshort ?_
          intro front hfront
          have hnone := hwell.get?_eq_none hentry
            (prefix_resolve here fun hmem => hparent (hfront.subset hmem))
          rcases hframe.outside _ (hout front hfront) with hsame | ⟨-, hmade⟩
          · exact .inl (hsame.trans hnone)
          · exact .inr hmade
      | some entry =>
          cases entry with
          | file contents => simp [walkWith, hentry] at h
          | link target => exact absurd hentry (hfree here target)
          | directory =>
              have hhere : ¬ region here := hout [] List.nil_prefix
              have hkept := hframe.get?_of_some hhere hentry
              have hname := hshort name List.mem_cons_self
              rw [List.mem_cons, not_or] at hparent
              rw [hfree.walkWith_cons follow hentry, if_pos hname] at h
              rw [(hframe.linkFree hfree).walkWith_cons follow' hkept, if_pos hname]
              exact ih (fun front hfront => hout (name :: front)
                  ((List.prefix_cons_inj name).2 hfront)) hparent.2
                (fun other hother => hshort other (List.mem_cons_of_mem _ hother)) h

/-- What is still missing stops the way as before. -/
theorem Broken.walkWith (h : before.Broken way here names) (hfree : before.LinkFree)
    (hwithin : Within region way before after)
    (follow : Location → List Bytes → Except Fault Location)
    (hout : ∀ front, front <+: names → ¬ region (resolve here front)) :
    after.walkWith follow here names = .error .notFound := by
  induction h with
  | @missing here name rest hnone hunmade =>
      have hstill := hwithin.aside here (hout [] List.nil_prefix) hunmade
      rw [Tree.walkWith, hstill, hnone]
  | @past here name rest hopen hshort _ ih =>
      have hhere : ¬ region here := hout [] List.nil_prefix
      have hlater : after.get? here = none ∨ after.get? here = some .directory := by
        rcases hopen with hdirectory | hnone
        · exact .inr (hwithin.frame.get?_of_some hhere hdirectory)
        · rcases hwithin.frame.outside here hhere with hsame | ⟨-, hmade⟩
          · exact .inl (hsame.trans hnone)
          · exact .inr hmade
      rcases hlater with hnone | hdirectory
      · rw [Tree.walkWith, hnone]
      · rw [(hwithin.frame.linkFree hfree).walkWith_cons follow hdirectory, if_pos hshort]
        exact ih fun front hfront => hout (name :: front) ((List.prefix_cons_inj name).2 hfront)

theorem passes_of_prefix_steps (tree : Tree) (h : front <+: steps path) :
    tree.Passes path (resolve (tree.start path) front) := by
  rw [steps] at h
  split at h
  · rcases List.prefix_concat_iff.1 h with rfl | hfront
    · refine ⟨path.segments, List.prefix_rfl, ?_⟩
      rw [resolve_append, resolve_dot]
    · exact ⟨front, hfront, rfl⟩
  · rw [List.append_nil] at h
    exact ⟨front, h, rfl⟩

theorem find_of_locate_eq_ok (h : tree.locate path = .ok location) :
    tree.find path = match tree.get? location with
      | none => .error .notFound
      | some entry => .ok (location, entry) := by
  rw [find, h]
  rfl

theorem find_of_locate_eq_error {fault : Fault} (h : tree.locate path = .error fault) :
    tree.find path = .error fault := by
  rw [find, h]
  rfl

theorem find_congr (hlocate : after.locate path = before.locate path)
    (hget : ∀ location, before.locate path = .ok location →
      after.get? location = before.get? location) : after.find path = before.find path := by
  cases hlocation : before.locate path with
  | error fault =>
      rw [find_of_locate_eq_error hlocation, find_of_locate_eq_error (hlocate.trans hlocation)]
  | ok location =>
      rw [find_of_locate_eq_ok hlocation, find_of_locate_eq_ok (hlocate.trans hlocation),
        hget location hlocation]

theorem exists_follow (tree : Tree) (links : Nat) :
    ∃ follow, tree.walk links = tree.walkWith follow := by
  cases links with
  | zero => exact ⟨_, rfl⟩
  | succ links => exact ⟨_, rfl⟩

theorem Plain.short_steps (h : Plain path) : ∀ name ∈ steps path, name.length ≤ nameLimit := by
  intro name hname
  rw [steps, List.mem_append] at hname
  rcases hname with hname | hname
  · exact h.short name hname
  · split at hname
    · rw [List.mem_singleton.1 hname]
      decide
    · cases hname

theorem Detached.find_eq (h : before.Detached directory path) (hfree : before.LinkFree)
    (hwell : before.WellFormed)
    (hwithin : Within (before.place directory <+: ·) (before.OnWay directory) before after)
    (hspared : Spared (before.place path) before after) : after.find path = before.find path := by
  have hframe := hwithin.frame
  have hend : after.get? (before.place path) = before.get? (before.place path) :=
    hspared _ List.prefix_rfl
  have hget : ∀ location, before.locate path = .ok location →
      after.get? location = before.get? location := by
    intro location hlocate
    obtain ⟨-, rfl⟩ := hfree.locate_eq_ok_iff.1 hlocate
    exact hend
  have hout : ∀ front, front <+: steps path →
      ¬ before.place directory <+: resolve (before.start path) front :=
    fun front hfront => h.around _ (passes_of_prefix_steps before hfront)
  obtain ⟨follow, hwalk⟩ := before.exists_follow linkLimit
  obtain ⟨follow', hwalk'⟩ := after.exists_follow linkLimit
  cases haccepted : refusal? path with
  | some fault => exact find_congr (by rw [locate, locate, haccepted]) hget
  | none =>
      have hbefore : before.locate path =
          before.walkWith follow (before.start path) (steps path) := by
        rw [locate, haccepted, hwalk]
      have hafter : after.locate path =
          after.walkWith follow' (before.start path) (steps path) := by
        rw [locate, haccepted, hwalk', start, start, hframe.home]
      rcases hfree.walkWith_of_frame hframe follow follow' hout with hsame | hmissing
      · exact find_congr (hafter.trans (hsame.trans hbefore.symm)) hget
      · -- something is missing on the way, so the path is a plain one, or its way stays broken
        have hfails := find_of_locate_eq_error (hbefore.trans hmissing)
        rcases h.stands with hplain | hne | hbroken
        · obtain ⟨hnone, hwalks⟩ := hfree.walkWith_of_notFound hwell hframe follow follow' hout
            (noParent_steps hplain.noParent) hplain.short_steps hmissing
          rw [resolve_steps, ← place] at hnone hwalks
          rw [hfails]
          rcases hwalks with hok | herror
          · rw [find_of_locate_eq_ok (hafter.trans hok), hend, hnone]
          · exact find_of_locate_eq_error (hafter.trans herror)
        · exact absurd (hbefore.trans hmissing) hne
        · have hstops := hbroken.walkWith hfree hwithin follow' hout
          exact (find_of_locate_eq_error (hafter.trans hstops)).trans hfails.symm

theorem Detached.readText_eq (h : before.Detached directory path) (hfree : before.LinkFree)
    (hwell : before.WellFormed)
    (hwithin : Within (before.place directory <+: ·) (before.OnWay directory) before after)
    (hspared : Spared (before.place path) before after) :
    after.readText path = before.readText path := by
  rw [readText, readText, read, read, h.find_eq hfree hwell hwithin hspared]

end ScriptPlugins.Tree
