import ScriptPlugins.Proofs.Files.Descent

/-!
# What is left as it is

Outside the region of an operation there may be new directories. At a place that is to stay exactly
as it is there must be none of these either. They can come from making the directories of a path: the
way to a place that is elsewhere may lead through this one and out of it again by two dots. Nothing is
made there if it was there before, so the way through an existing project does no harm, whatever its
path is.
-/

namespace ScriptPlugins

open Text

namespace Path

variable {path other : Path}

theorem bytes_eq_nil_of_segments (hrelative : path.isAbsolute = false)
    (h : path.segments = []) : path.bytes = [] := by
  rw [segments] at h
  cases hbytes : path.bytes with
  | nil => rfl
  | cons b rest =>
      have hb : b ≠ slash := by
        rintro rfl
        rw [isAbsolute, hbytes] at hrelative
        cases hrelative
      rw [hbytes, pieces, if_neg hb] at h
      cases hrest : pieces slash rest with
      | nil => exact absurd hrest (pieces_ne_nil slash rest)
      | cons piece more => simp [hrest] at h

/-- Joining nothing to a path leaves a slash at its end. -/
theorem endsInSlash_join_of_segments_eq_nil (hrelative : other.isAbsolute = false)
    (h : other.segments = []) (hne : path.bytes ≠ []) : (path.join other).endsInSlash = true := by
  have hempty := bytes_eq_nil_of_segments hrelative h
  rw [endsInSlash, beq_iff_eq]
  rcases @bytes_join path other hrelative with ⟨hbytes, hnil | ⟨front, hfront⟩⟩ | ⟨hbytes, -⟩
  · exact absurd hnil hne
  · rw [hbytes, hempty, List.append_nil, hfront, List.getLast?_concat]
  · rw [hbytes, hempty, List.getLast?_concat]

end Path

namespace Tree

variable {tree later before middle after : Tree} {path project other ancestor : Path}
  {here location inner : Location} {names front : List Bytes}

/-- Nothing at a location or below it has come, gone or changed. -/
def Spared (location : Location) (before after : Tree) : Prop :=
  ∀ inner, location <+: inner → after.get? inner = before.get? inner

theorem Spared.refl (location : Location) (tree : Tree) : Spared location tree tree :=
  fun _ _ => rfl

theorem Spared.trans (h : Spared location before middle) (h' : Spared location middle after) :
    Spared location before after :=
  fun inner hinner => (h' inner hinner).trans (h inner hinner)

/-- Whatever the way to a path passes at a location or below it is there already. -/
def Bypasses (tree : Tree) (path : Path) (location : Location) : Prop :=
  ∀ ancestor ∈ ancestors path, location <+: tree.place ancestor →
    tree.get? (tree.place ancestor) ≠ none

theorem Bypasses.of_spared (h : before.Bypasses path location) (hhome : after.home = before.home)
    (hspared : Spared location before after) : after.Bypasses path location := by
  intro ancestor hancestor
  have hplace : after.place ancestor = before.place ancestor := by
    rw [place, place, start, start, hhome]
  rw [hplace]
  intro hinner
  rw [hspared _ hinner]
  exact h ancestor hancestor hinner

theorem LinkFree.spared_makeDirectories (hfree : tree.LinkFree) (h : tree.Bypasses path location) :
    Spared location tree (tree.makeDirectories path).2 := by
  have hpaved : Paved (fun other => location <+: other → tree.get? other ≠ none) tree
      (tree.makeDirectories path).2 := hfree.paved_of_ancestors h
  intro inner hinner
  cases hentry : tree.get? inner with
  | none =>
      rw [← hentry]
      exact hpaved.aside inner fun hway => hway hinner hentry
  | some entry => exact hpaved.frame.get?_of_some id hentry

theorem bypasses_of_noParent (hparent : Path.dotDot ∉ path.segments)
    (hapart : Apart (tree.place path) location) : tree.Bypasses path location := by
  intro ancestor hancestor hinner
  exact absurd (hinner.trans (place_of_mem_ancestors tree hparent hancestor)) hapart.2

theorem resolve_filter_dot (here : Location) (names : List Bytes) :
    resolve here (names.filter (· != Path.dot)) = resolve here names := by
  induction names generalizing here with
  | nil => rfl
  | cons name rest ih =>
      have hstep : resolve here (name :: rest) = resolve (turn here name) rest := rfl
      by_cases hdot : name = Path.dot
      · rw [hstep, turn, if_pos hdot, ← ih, List.filter_cons_of_neg (by simp [hdot])]
      · rw [hstep, ← ih, List.filter_cons_of_pos (by simp [hdot])]
        rfl

/-- All along a way that is open there are directories. -/
theorem Passable.get?_of_prefix (h : tree.Passable here names)
    (hend : tree.get? (resolve here names) = some .directory)
    (hfront : front <+: names.filter (· != Path.dot)) :
    tree.get? (resolve here front) = some .directory := by
  induction names generalizing here front with
  | nil =>
      obtain rfl := List.prefix_nil.1 hfront
      exact hend
  | cons name rest ih =>
      obtain ⟨hhere, -, hrest⟩ := h
      by_cases hdot : name = Path.dot
      · rw [List.filter_cons_of_neg (by simp [hdot])] at hfront
        have hstay : turn here name = here := if_pos hdot
        have hlast : tree.get? (resolve (turn here name) rest) = some .directory := hend
        rw [hstay] at hrest hlast
        exact ih hrest hlast hfront
      · rw [List.filter_cons_of_pos (by simp [hdot])] at hfront
        rcases List.prefix_cons_iff.1 hfront with rfl | ⟨more, rfl, hmore⟩
        · exact hhere
        · have hstep : resolve here (name :: more) = resolve (turn here name) more := rfl
          rw [hstep]
          exact ih hrest hend hmore

/-- The way of a path is open, and it ends at a directory. -/
def Opens (tree : Tree) (path : Path) : Prop :=
  tree.Passable (tree.start path) path.segments ∧ tree.get? (tree.place path) = some .directory

theorem LinkFree.opens_of_isDirectory (hfree : tree.LinkFree) (h : tree.isDirectory path = true) :
    tree.Opens path := by
  rw [isDirectory] at h
  split at h
  · next location hfind =>
      obtain ⟨hleads, rfl, hdirectory⟩ := hfree.find_eq_ok_iff.1 hfind
      exact ⟨(passable_append.1 hleads.passable).1, hdirectory⟩
  · cases h

/-- Whatever a path is joined to is a directory if the joined path leads somewhere. -/
theorem Leads.opens_of_join (h : tree.Leads (project.join other))
    (hrelative : other.isAbsolute = false) (hne : project.bytes ≠ []) : tree.Opens project := by
  have hsteps : ∃ name rest, steps (project.join other) = project.segments ++ name :: rest := by
    rw [steps, Path.segments_join hrelative, List.append_assoc]
    by_cases hsegments : other.segments = []
    · rw [hsegments, Path.endsInSlash_join_of_segments_eq_nil hrelative hsegments hne]
      exact ⟨Path.dot, [], rfl⟩
    · obtain ⟨name, rest, hother⟩ := List.exists_cons_of_ne_nil hsegments
      rw [hother]
      exact ⟨name, _, rfl⟩
  obtain ⟨name, rest, hsteps⟩ := hsteps
  have hpassable := h.passable
  rw [hsteps, start, Path.isAbsolute_join hrelative, ← start, passable_append] at hpassable
  exact ⟨hpassable.1, hpassable.2.1⟩

/-- From an existing directory on, a path that only leads down passes nothing but what is above its
place, and all before that directory is there. -/
theorem bypasses_join (hparent : Path.dotDot ∉ other.segments)
    (hproject : Path.dotDot ∉ project.segments ∨ tree.Opens project)
    (hapart : Apart (tree.place (project.join other)) location) :
    tree.Bypasses (project.join other) location := by
  by_cases habsolute : other.isAbsolute = true
  · have hjoin : project.join other = other := by rw [Path.join, if_pos habsolute]
    rw [hjoin] at hapart ⊢
    exact bypasses_of_noParent hparent hapart
  · rw [Bool.not_eq_true] at habsolute
    have hsegments := @Path.segments_join project other habsolute
    rcases hproject with hproject | ⟨hpassable, hdirectory⟩
    · refine bypasses_of_noParent ?_ hapart
      rw [hsegments, List.mem_append, not_or]
      exact ⟨hproject, hparent⟩
    · intro ancestor hancestor hinner
      obtain ⟨hstart, back, hback⟩ := segments_of_mem_ancestors tree hancestor
      have hplace : tree.place ancestor =
          resolve (tree.start project) (ancestor.segments.filter (· != Path.dot)) := by
        rw [resolve_filter_dot, place, hstart, start, start, Path.isAbsolute_join habsolute]
      have hend : tree.place (project.join other) = resolve (tree.place ancestor) back := by
        rw [hplace, ← resolve_append, hback, resolve_filter_dot, place, start, start,
          Path.isAbsolute_join habsolute]
      rw [hsegments, List.filter_append] at hback
      rcases List.append_eq_append_iff.1 hback with ⟨rest, habove, -⟩ | ⟨more, -, hmore⟩
      · -- the way has not come to the project yet
        rw [hplace, hpassable.get?_of_prefix hdirectory ⟨rest, habove.symm⟩]
        exact Option.some_ne_none _
      · have hdown : Path.dotDot ∉ back := by
          intro hmem
          have hfiltered : Path.dotDot ∈ other.segments.filter (· != Path.dot) := by
            rw [hmore]
            exact List.mem_append_right more hmem
          exact hparent (List.mem_filter.1 hfiltered).1
        rw [hend] at hapart
        exact absurd (hinner.trans (prefix_resolve _ hdown)) hapart.2

theorem spared_clear (hout : ∀ inner, location <+: inner → ¬ here <+: inner) (tree : Tree) :
    Spared location tree (tree.clear here) := by
  intro inner hinner
  rw [get?_clear, if_neg]
  rw [isBelow_iff]
  exact fun ⟨_, hbelow⟩ => hout inner hinner hbelow

theorem LinkFree.spared_removeEmpty (hfree : tree.LinkFree)
    (hout : ¬ location <+: tree.place path) : Spared location tree (tree.removeEmpty path).2 := by
  rcases removeEmpty_cases tree path with hsame | ⟨parent, name, hlast, -, herased⟩
  · rw [hsame]
    exact .refl _ tree
  · rw [hfree.place_of_last hlast] at hout
    rw [herased]
    intro inner hinner
    rw [get?_erase tree (by simp), if_neg]
    rintro rfl
    exact hout hinner

theorem LinkFree.spared_removeAll (hfree : tree.LinkFree)
    (hapart : Apart (tree.place path) location) : Spared location tree (tree.removeAll path).2 := by
  rcases hfree.removeAll_cases path with hsame | hremoved
  · rw [hsame]
    exact .refl _ tree
  · have hclear : Spared location tree (tree.clear (tree.place path)) :=
      spared_clear (fun inner hinner hbelow => hapart.not_prefix hbelow hinner) tree
    have hframe := frame_clear tree (tree.place path)
    rw [hremoved]
    refine hclear.trans ((hframe.linkFree hfree).spared_removeEmpty ?_)
    rw [hframe.place]
    exact hapart.2

theorem Wrote.spared {contents : Bytes} (h : before.Wrote path contents after)
    (hout : ¬ location <+: before.place path) : Spared location before after := by
  intro inner hinner
  rw [h.eq, get?_put _ (ne_nil_of_get? h.free), if_neg]
  rintro rfl
  exact hout hinner

end Tree

end ScriptPlugins
