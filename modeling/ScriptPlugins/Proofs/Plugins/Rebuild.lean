import ScriptPlugins.Proofs.Files.Descent
import ScriptPlugins.Proofs.Plugins.Likeness
import ScriptPlugins.Proofs.Plugins.Settling

/-!
# Rebuilding the wrappers

Generating removes the directory of the wrappers and puts it together again, one wrapper after the
other. If links and two dots play no part, all that is below the directory afterwards has been put
there by this run, and which wrappers these are can be told from the scripts that have been handled.
What the directory held before is of no account once it has been removed.

The removal may have nothing to remove although something is there: a slash at the end of the path
asks for a directory, and there may be a file. Then no wrapper can be written either.
-/

namespace ScriptPlugins

open Text

namespace Tree

variable {tree : Tree} {directory : Path} {names : Location}

/-- What there is below the directory at a path, under the names that lead there from it. -/
def inside (tree : Tree) (directory : Path) (names : Location) : Option Entry :=
  match tree.locate directory with
  | .ok location => tree.get? (location ++ names)
  | .error _ => none

theorem LinkFree.inside_of_leads (hfree : tree.LinkFree) (h : tree.Leads directory)
    (names : Location) : tree.inside directory names = tree.get? (tree.place directory ++ names) := by
  rw [inside, hfree.locate_eq_ok_iff.2 ⟨h, rfl⟩]

theorem LinkFree.inside_of_not_leads (hfree : tree.LinkFree) (h : ¬ tree.Leads directory)
    (names : Location) : tree.inside directory names = none := by
  rw [inside]
  cases hlocate : tree.locate directory with
  | error fault => rfl
  | ok location => exact absurd (hfree.locate_eq_ok_iff.1 hlocate).1 h

end Tree

namespace Script

variable {script : Script} {tree seen : Tree} {space : Option String}

/-- The namespace that a script has found out, or else the one that its file in a tree declares. -/
def spaceAt (script : Script) (tree : Tree) : Option String :=
  match script.declared, tree.get? (tree.place script.path) with
  | some found, _ => found
  | none, some (.file contents) =>
    (Utf8.toString? contents).bind (Namespace.declaredIn · script.keywords)
  | none, _ => none

/-- A script that has to be read finds what its file declared all along. -/
theorem spaceAt_of_frame {region : Location → Prop} (hfree : tree.LinkFree)
    (htext : script.text = none) (hframe : Tree.Frame region tree seen)
    (hout : ¬ region (tree.place script.path)) (h : script.spaceIn seen = .ok space) :
    script.spaceAt tree = space := by
  rw [spaceIn] at h
  rw [spaceAt]
  cases hdeclared : script.declared with
  | some found => simpa [hdeclared] using h
  | none =>
      cases hread : seen.readText script.path with
      | error fault => simp [hdeclared, load, htext, hread, Except.map] at h
      | ok text =>
          obtain ⟨contents, hcontents, hdecoded⟩ := Tree.readText_eq_ok_iff.1 hread
          obtain ⟨location, hfind⟩ := Tree.read_eq_ok_iff.1 hcontents
          obtain ⟨-, rfl, hentry⟩ := (hframe.linkFree hfree).find_eq_ok_iff.1 hfind
          rw [hframe.place] at hentry
          rw [hframe.get?_of_ne_directory hout hentry (by simp)]
          simpa [hdeclared, load, htext, hread, hdecoded, Except.map] using h

end Script

namespace WrapperWriter

variable {writer : WrapperWriter} {script later : Script} {scripts front : List Script}
  {before tree after : Tree} {names : Location} {path : Path} {paths : List Path}
  {space : Option String} {failure : Failure}

/-- The wrapper that a run leaves under a name: that of the last script whose wrapper has it. -/
def standing (writer : WrapperWriter) (tree : Tree) (scripts : List Script) (names : Location) :
    Option Entry :=
  (scripts.reverse.find? (names == [writer.nameOf ·])).map fun script =>
    .file (writer.sourceOf script (script.spaceAt tree))

theorem standing_concat (writer : WrapperWriter) (tree : Tree) (front : List Script)
    (script : Script) (names : Location) : writer.standing tree (front ++ [script]) names =
      if names = [writer.nameOf script] then
        some (.file (writer.sourceOf script (script.spaceAt tree)))
      else writer.standing tree front names := by
  rw [standing, standing, List.reverse_append, List.reverse_singleton, List.singleton_append,
    List.find?_cons]
  by_cases hnames : names = [writer.nameOf script]
  · rw [if_pos hnames, beq_iff_eq.2 hnames]
    rfl
  · rw [if_neg hnames, beq_eq_false_iff_ne.2 hnames]

/-- Something bars the way to the directory, and directories that are made do not open it. -/
def Barred (writer : WrapperWriter) (tree : Tree) : Prop :=
  ∀ later, Tree.Frame Tree.nowhere tree later → ¬ later.Leads writer.directory

theorem clean_cases (hwell : tree.WellFormed) (hfree : tree.LinkFree)
    (hdirectory : writer.directory.Descends) (h : (writer.clean tree).answer = .ok ()) :
    (∀ location, (writer.clean tree).state.get? location =
        if tree.place writer.directory <+: location then none else tree.get? location) ∨
      (writer.clean tree).state = tree ∧ tree.get? (tree.place writer.directory) ≠ none ∧
        writer.Barred tree := by
  rw [clean] at h ⊢
  by_cases hexists : tree.exists writer.directory
  · left
    have hremoved := hfree.get?_removeAll hdirectory.noParent
    rw [if_pos hexists] at h ⊢
    rcases hremove : tree.removeAll writer.directory with ⟨answer, cleared⟩
    rw [hremove] at hremoved
    cases answer with
    | error fault => simp [hremove] at h
    | ok done => exact hremoved rfl
  · rw [if_neg hexists]
    by_cases hentry : tree.get? (tree.place writer.directory) = none
    · left
      intro location
      by_cases hunder : tree.place writer.directory <+: location
      · rw [if_pos hunder]
        obtain ⟨names, rfl⟩ := hunder
        by_contra hsome
        obtain ⟨entry, hsome⟩ := Option.ne_none_iff_exists'.1 hsome
        by_cases hnames : names = []
        · rw [hnames, List.append_nil] at hsome
          cases hentry.symm.trans hsome
        · cases hentry.symm.trans (hwell.get?_of_prefix hsome hnames)
      · rw [if_neg hunder]
        rfl
    · right
      refine ⟨rfl, hentry, ?_⟩
      intro later hlater hleads
      obtain ⟨entry, hsome⟩ := Option.ne_none_iff_exists'.1 hentry
      have hbefore := hleads.of_frame hdirectory.noParent hlater hwell hentry
      exact hexists (Tree.exists_iff.2 ⟨_, entry, hfree.locate_eq_ok_iff.2 ⟨hbefore, rfl⟩, hsome⟩)

theorem exists_of_clean (hwell : tree.WellFormed) (hfree : tree.LinkFree)
    (hdirectory : writer.directory.Descends) (h : (writer.clean tree).answer = .ok ()) :
    (writer.clean tree).state.exists writer.directory = false := by
  have hframe := writer.frame_clean hfree
  rw [Bool.eq_false_iff]
  intro hexists
  obtain ⟨location, entry, hlocate, hentry⟩ := Tree.exists_iff.1 hexists
  obtain ⟨hleads, rfl⟩ := (hframe.linkFree hfree).locate_eq_ok_iff.1 hlocate
  rw [hframe.place] at hentry
  rcases clean_cases hwell hfree hdirectory h with hgone | ⟨hsame, -, hbarred⟩
  · rw [hgone, if_pos List.prefix_rfl] at hentry
    cases hentry
  · rw [hsame] at hleads
    exact hbarred tree (.refl _ tree) hleads

/-- The directory has been removed, and with it all that was in it. -/
structure Cleared (writer : WrapperWriter) (tree : Tree) : Prop where
  answer : (writer.clean tree).answer = .ok ()
  gone : (writer.clean tree).state.get? (tree.place writer.directory) = none

theorem Cleared.get? (h : writer.Cleared tree) (hwell : tree.WellFormed) (hfree : tree.LinkFree)
    (hdirectory : writer.directory.Descends) (location : Location) :
    (writer.clean tree).state.get? location =
      if tree.place writer.directory <+: location then none else tree.get? location := by
  rcases clean_cases hwell hfree hdirectory h.answer with hgone | ⟨hsame, hentry, -⟩
  · exact hgone location
  · have hnone := h.gone
    rw [hsame] at hnone
    exact absurd hnone hentry

/-- Trees that differ in the directory only look alike once it is cleared. -/
theorem Cleared.alike (h : writer.Cleared tree) (h' : writer.Cleared after)
    (hwell : tree.WellFormed) (hfree : tree.LinkFree) (hwell' : after.WellFormed)
    (hfree' : after.LinkFree) (hdirectory : writer.directory.Descends)
    (hhome : after.home = tree.home)
    (hsame : ∀ location, ¬ tree.place writer.directory <+: location →
      after.get? location = tree.get? location) :
    (writer.clean tree).state.Alike (writer.clean after).state := by
  have hplace : after.place writer.directory = tree.place writer.directory := by
    rw [Tree.place, Tree.place, Tree.start, Tree.start, hhome]
  constructor
  · rw [(writer.frame_clean hfree).home, (writer.frame_clean hfree').home, hhome]
  · intro location
    rw [h.get? hwell hfree hdirectory, h'.get? hwell' hfree' hdirectory, hplace]
    by_cases hunder : tree.place writer.directory <+: location
    · rw [if_pos hunder, if_pos hunder]
    · rw [if_neg hunder, if_neg hunder, hsame location hunder]

/-- A script that generating can find out about: its file is somewhere else, and its wrapper has a
place of its own. -/
structure Handles (writer : WrapperWriter) (tree : Tree) (script : Script) : Prop where
  wraps : writer.Wraps script
  text : script.text = none
  apart : ¬ tree.place writer.directory <+: tree.place script.path

/-- A tree that has the wrappers of these scripts below the directory, and nothing else. -/
structure Stocked (writer : WrapperWriter) (before : Tree) (scripts : List Script) (tree : Tree) :
    Prop where
  frame : Tree.Frame (before.place writer.directory <+: ·) before tree
  below : ∀ names, names ≠ [] →
    tree.get? (before.place writer.directory ++ names) = writer.standing before scripts names
  find : ∀ script ∈ scripts, ∃ contents, tree.find (writer.pathOf script) =
    .ok (before.place writer.directory ++ [writer.nameOf script], .file contents)

/-- Making the directory changes nothing below it. -/
theorem get?_makeDirectories (hfree : tree.LinkFree) (hdirectory : writer.directory.Descends)
    (hnames : names ≠ []) :
    (tree.makeDirectories writer.directory).2.get? (tree.place writer.directory ++ names) =
      tree.get? (tree.place writer.directory ++ names) := by
  apply (hfree.paved_makeDirectories hdirectory.noParent).aside
  intro hunder
  have hlength := hunder.length_le
  rw [List.length_append] at hlength
  have hpos := List.length_pos_iff.2 hnames
  omega

theorem Stocked.of_made (h : writer.Stocked before front tree) (hfree : before.LinkFree)
    (hdirectory : writer.directory.Descends) :
    writer.Stocked before front (tree.makeDirectories writer.directory).2 := by
  have htree := h.frame.linkFree hfree
  have hmade := Tree.frame_makeDirectories tree writer.directory
  refine ⟨h.frame.trans hmade.of_nowhere, ?_, ?_⟩
  · intro names hnames
    rw [← h.frame.place, get?_makeDirectories htree hdirectory hnames, h.frame.place]
    exact h.below names hnames
  · intro script hscript
    obtain ⟨contents, hfind⟩ := h.find script hscript
    have hentry := hmade.get?_of_some id (Tree.find_eq_ok_iff.1 hfind).2
    exact ⟨contents, htree.find_grows (hmade.linkFree htree) hmade.grows hfind hentry⟩

theorem Stocked.of_wrote (h : writer.Stocked before front tree) (hfree : before.LinkFree)
    (hscript : writer.Wraps script)
    (hwrote : tree.Wrote (writer.pathOf script)
      (writer.sourceOf script (script.spaceAt before)) after) :
    writer.Stocked before (front ++ [script]) after := by
  have htree := h.frame.linkFree hfree
  have hplace : tree.place (writer.pathOf script) =
      before.place writer.directory ++ [writer.nameOf script] := by
    rw [place_pathOf hscript.consistent hscript.isName, h.frame.place]
  refine ⟨h.frame.trans (hwrote.frame.mono ?_), ?_, ?_⟩
  · rintro location rfl
    rw [hplace]
    exact List.prefix_append _ _
  · intro names hnames
    rw [hwrote.eq, Tree.get?_put _ (Tree.ne_nil_of_get? hwrote.free), hplace, standing_concat,
      h.below names hnames]
    simp only [List.append_cancel_left_eq]
  · intro other hother
    rcases List.mem_append.1 hother with hother | hother
    · obtain ⟨contents, hfind⟩ := h.find other hother
      obtain ⟨kept, hkept⟩ := hwrote.grows.file _ _ (Tree.find_eq_ok_iff.1 hfind).2
      exact ⟨kept, htree.find_grows (hwrote.frame.linkFree htree) hwrote.grows hfind hkept⟩
    · obtain rfl := List.mem_singleton.1 hother
      have hfind := hwrote.find htree
      rw [hplace] at hfind
      exact ⟨_, hfind⟩

/-- Once its wrapper is written, a script is one of those that the directory is stocked with; if it
cannot be written, it is not. -/
theorem Stocked.writeWrapper (h : writer.Stocked before front tree) (hfree : before.LinkFree)
    (hdirectory : writer.directory.Descends) (hscript : writer.Handles before script) :
    (∀ path, (Pass.writeWrapper writer script tree).answer = .ok path →
      writer.Stocked before (front ++ [script]) (Pass.writeWrapper writer script tree).state.2) ∧
      ∀ failure, (Pass.writeWrapper writer script tree).answer = .error failure →
        writer.Stocked before front (Pass.writeWrapper writer script tree).state.2 := by
  obtain ⟨hwraps, htext, hapart⟩ := hscript
  have htree := h.frame.linkFree hfree
  cases hspace : script.spaceIn tree with
  | error failed =>
      rw [writer.writeWrapper_of_spaceIn_eq_error hwraps.consistent hspace]
      exact ⟨nofun, fun _ _ => h⟩
  | ok space =>
      obtain ⟨later, -, hanswer, hstate⟩ :=
        writer.writeWrapper_of_spaceIn_eq_ok hwraps.consistent hspace
      have hknown := Script.spaceAt_of_frame hfree htext h.frame hapart hspace
      have hmade := h.of_made hfree hdirectory
      rw [hanswer, hstate]
      constructor
      · intro path hpath
        obtain ⟨rfl, hwrite⟩ := write_of_deposit_eq_ok hpath
        have hwrote := (hmade.frame.linkFree hfree).wrote hwrite
        rw [← hknown] at hwrote ⊢
        exact hmade.of_wrote hfree hwraps hwrote
      · intro failure hfailure
        rw [state_of_deposit_eq_error hfailure]
        exact hmade

theorem Stocked.each (h : writer.Stocked before front tree) (hfree : before.LinkFree)
    (hdirectory : writer.directory.Descends)
    (hscripts : ∀ script ∈ scripts, writer.Handles before script)
    (hanswer : (Script.each (Pass.writeWrapper writer) scripts tree).answer = .ok paths) :
    writer.Stocked before (front ++ scripts)
      (Script.each (Pass.writeWrapper writer) scripts tree).state.2 := by
  induction scripts generalizing front tree paths with
  | nil =>
      rw [List.append_nil]
      exact h
  | cons script rest ih =>
      obtain ⟨path, others, hfirst, hrest, -⟩ := Script.each_cons_eq_ok_iff.1 hanswer
      have hstep := (h.writeWrapper hfree hdirectory (hscripts script List.mem_cons_self)).1 path hfirst
      rw [Script.state_each_cons hfirst, List.append_cons]
      exact ih hstep (fun other hother => hscripts other (List.mem_cons_of_mem _ hother)) hrest

theorem Barred.writeWrapper (h : writer.Barred tree) (hfree : tree.LinkFree)
    (hdirectory : writer.directory.Descends) (hscript : writer.Wraps script) :
    (∃ failure, (Pass.writeWrapper writer script tree).answer = .error failure) ∧
      Tree.Frame Tree.nowhere tree (Pass.writeWrapper writer script tree).state.2 := by
  cases hspace : script.spaceIn tree with
  | error failure =>
      rw [writer.writeWrapper_of_spaceIn_eq_error hscript.consistent hspace]
      exact ⟨⟨failure, rfl⟩, .refl _ tree⟩
  | ok space =>
      obtain ⟨later, -, hanswer, hstate⟩ :=
        writer.writeWrapper_of_spaceIn_eq_ok hscript.consistent hspace
      rw [hanswer, hstate]
      cases hdeposit : (writer.deposit script later space tree).answer with
      | error failure => exact ⟨⟨failure, rfl⟩, deposit_eq_error hdeposit⟩
      | ok path =>
          obtain ⟨rfl, made, hmade, hwrote⟩ := deposit_eq_ok hfree hdeposit
          have hleads := hwrote.leads
          rw [pathOf_eq writer hscript.consistent] at hleads
          exact absurd (hleads.of_join_name hscript.isName hdirectory.ne_nil) (h made hmade)

theorem Barred.eq_nil_of_each (h : writer.Barred tree) (hfree : tree.LinkFree)
    (hdirectory : writer.directory.Descends)
    (hscripts : ∀ script ∈ scripts, writer.Wraps script)
    (hanswer : (Script.each (Pass.writeWrapper writer) scripts tree).answer = .ok paths) :
    scripts = [] := by
  cases scripts with
  | nil => rfl
  | cons script rest =>
      obtain ⟨path, _, hfirst, -⟩ := Script.each_cons_eq_ok_iff.1 hanswer
      obtain ⟨⟨failure, hfails⟩, -⟩ :=
        h.writeWrapper hfree hdirectory (hscripts script List.mem_cons_self)
      cases hfails.symm.trans hfirst

/-- Below the directory there are the wrappers of these scripts and nothing else, and each wrapper's
path leads to it. -/
structure Rebuilt (writer : WrapperWriter) (before : Tree) (scripts : List Script) (after : Tree) :
    Prop where
  inside : ∀ names, names ≠ [] →
    after.inside writer.directory names = writer.standing before scripts names
  find : ∀ script ∈ scripts, ∃ location contents, after.locate writer.directory = .ok location ∧
    after.find (writer.pathOf script) = .ok (location ++ [writer.nameOf script], .file contents)

theorem Stocked.rebuilt (h : writer.Stocked before scripts after) (hfree : before.LinkFree)
    (hdirectory : writer.directory.Descends)
    (hscripts : ∀ script ∈ scripts, writer.Wraps script) :
    writer.Rebuilt before scripts after := by
  have hafter := h.frame.linkFree hfree
  have hleads : ∀ script ∈ scripts, after.Leads writer.directory := by
    intro script hscript
    obtain ⟨contents, hfind⟩ := h.find script hscript
    have hpath := (hafter.find_eq_ok_iff.1 hfind).1
    rw [pathOf_eq writer (hscripts script hscript).consistent] at hpath
    exact hpath.of_join_name (hscripts script hscript).isName hdirectory.ne_nil
  constructor
  · intro names hnames
    by_cases hopen : after.Leads writer.directory
    · rw [hafter.inside_of_leads hopen, h.frame.place, h.below names hnames]
    · have hnone : scripts = [] := by
        by_contra hne
        obtain ⟨script, rest, rfl⟩ := List.exists_cons_of_ne_nil hne
        exact hopen (hleads script List.mem_cons_self)
      rw [hafter.inside_of_not_leads hopen, hnone]
      rfl
  · intro script hscript
    obtain ⟨contents, hfind⟩ := h.find script hscript
    refine ⟨_, contents, ?_, hfind⟩
    rw [hafter.locate_eq_ok_iff, h.frame.place]
    exact ⟨hleads script hscript, rfl⟩

theorem Barred.rebuilt (h : writer.Barred before) (hfree : before.LinkFree)
    (hframe : Tree.Frame Tree.nowhere before after) : writer.Rebuilt before [] after :=
  ⟨fun names _ => (hframe.linkFree hfree).inside_of_not_leads (h after hframe) names, nofun⟩

/-- Writing has come to one of the scripts and has stopped there, with the wrappers of those before. -/
def StoppedAt (writer : WrapperWriter) (before : Tree) (scripts : List Script) (failure : Failure)
    (after : Tree) : Prop :=
  ∃ front script back middle, scripts = front ++ script :: back ∧
    writer.Rebuilt before front middle ∧
    (Pass.writeWrapper writer script middle).answer = .error failure ∧
    after = (Pass.writeWrapper writer script middle).state.2 ∧ writer.Rebuilt before front after

theorem Stocked.rebuilt_each (h : writer.Stocked before [] tree) (hfree : before.LinkFree)
    (hdirectory : writer.directory.Descends)
    (hscripts : ∀ script ∈ scripts, writer.Handles before script) :
    let run := Script.each (Pass.writeWrapper writer) scripts tree
    (∀ paths, run.answer = .ok paths → writer.Rebuilt before scripts run.state.2) ∧
      ∀ failure, run.answer = .error failure →
        writer.StoppedAt before scripts failure run.state.2 := by
  intro run
  rcases Script.each_cases (Pass.writeWrapper writer) scripts tree with ⟨paths, hpaths⟩ |
    ⟨front, script, back, paths, failed, rfl, hfront, hfails, hanswer, hstate⟩
  · have hall := h.each hfree hdirectory hscripts hpaths
    refine ⟨fun _ _ => hall.rebuilt hfree hdirectory fun script hscript =>
      (hscripts script hscript).wraps, ?_⟩
    intro failure hfailure
    cases hpaths.symm.trans hfailure
  · have hfrontHandles : ∀ other ∈ front, writer.Handles before other := fun other hother =>
      hscripts other (List.mem_append_left _ hother)
    have hwraps : ∀ other ∈ front, writer.Wraps other := fun other hother =>
      (hfrontHandles other hother).wraps
    have hmiddle := h.each hfree hdirectory hfrontHandles hfront
    have hlast := (hmiddle.writeWrapper hfree hdirectory
      (hscripts script (List.mem_append_right _ List.mem_cons_self))).2 failed hfails
    have hafter : run.state.2 = _ := congrArg Prod.snd hstate
    refine ⟨fun paths hpaths => absurd (hpaths.symm.trans hanswer) nofun, ?_⟩
    intro failure hfailure
    obtain rfl := Except.error.inj (hanswer.symm.trans hfailure)
    refine ⟨front, script, back, _, rfl, hmiddle.rebuilt hfree hdirectory hwraps, hfails, hafter, ?_⟩
    rw [hafter]
    exact hlast.rebuilt hfree hdirectory hwraps

theorem Barred.rebuilt_each (h : writer.Barred before) (hfree : before.LinkFree)
    (hdirectory : writer.directory.Descends) (hscripts : ∀ script ∈ scripts, writer.Wraps script) :
    let run := Script.each (Pass.writeWrapper writer) scripts before
    (∀ paths, run.answer = .ok paths → writer.Rebuilt before scripts run.state.2) ∧
      ∀ failure, run.answer = .error failure →
        writer.StoppedAt before scripts failure run.state.2 := by
  intro run
  have hempty := h.rebuilt hfree (.refl _ before)
  rcases Script.each_cases (Pass.writeWrapper writer) scripts before with ⟨paths, hpaths⟩ |
    ⟨front, script, back, paths, failed, rfl, hfront, hfails, hanswer, hstate⟩
  · obtain rfl := h.eq_nil_of_each hfree hdirectory hscripts hpaths
    exact ⟨fun _ _ => hempty, fun failure hfailure => absurd (hpaths.symm.trans hfailure) nofun⟩
  · obtain rfl := h.eq_nil_of_each hfree hdirectory
      (fun other hother => hscripts other (List.mem_append_left _ hother)) hfront
    have hframe := (h.writeWrapper hfree hdirectory (hscripts script List.mem_cons_self)).2
    have hafter : run.state.2 = _ := congrArg Prod.snd hstate
    refine ⟨fun paths hpaths => absurd (hpaths.symm.trans hanswer) nofun, ?_⟩
    intro failure hfailure
    obtain rfl := Except.error.inj (hanswer.symm.trans hfailure)
    refine ⟨[], script, back, before, rfl, hempty, hfails, hafter, ?_⟩
    rw [hafter]
    exact h.rebuilt hfree hframe

theorem rebuilt_each (hwell : before.WellFormed) (hfree : before.LinkFree)
    (hdirectory : writer.directory.Descends)
    (hscripts : ∀ script ∈ scripts, writer.Handles before script)
    (hclean : (writer.clean before).answer = .ok ()) :
    let run := Script.each (Pass.writeWrapper writer) scripts (writer.clean before).state
    (∀ paths, run.answer = .ok paths → writer.Rebuilt before scripts run.state.2) ∧
      ∀ failure, run.answer = .error failure →
        writer.StoppedAt before scripts failure run.state.2 := by
  rcases clean_cases hwell hfree hdirectory hclean with hgone | ⟨hsame, -, hbarred⟩
  · have hstocked : writer.Stocked before [] (writer.clean before).state := by
      refine ⟨writer.frame_clean hfree, ?_, nofun⟩
      intro names _
      rw [hgone, if_pos (List.prefix_append _ _)]
      rfl
    exact hstocked.rebuilt_each hfree hdirectory hscripts
  · rw [hsame]
    exact hbarred.rebuilt_each hfree hdirectory fun script hscript => (hscripts script hscript).wraps

end WrapperWriter

namespace Pass

variable {pass : Pass} {scripts : List Script} {tree other : Tree} {paths : List Path}

theorem state_find_eq (h : (pass.find tree).answer = .ok scripts)
    (h' : (pass.find other).answer = .ok scripts) :
    (pass.find other).state = (pass.find tree).state := by
  cases hfound : pass.scripts with
  | some found => rw [find_of_scripts hfound, find_of_scripts hfound]
  | none => rw [state_find hfound h, state_find hfound h']

theorem frame_generate (hfree : tree.LinkFree) (hfind : (pass.find tree).answer = .ok scripts)
    (hscripts : ∀ script ∈ scripts, pass.writer.Wraps script) :
    Tree.Frame (tree.place pass.writer.directory <+: ·) tree (pass.generate tree).state.2 := by
  have hcleaned := pass.writer.frame_clean hfree
  cases hclean : (pass.writer.clean tree).answer with
  | error failure =>
      rw [(generate_of_uncleaned hfind hclean).2]
      exact hcleaned
  | ok done =>
      have hwritten := WrapperWriter.frame_each (hcleaned.linkFree hfree) hscripts
      rw [hcleaned.place] at hwritten
      rw [(generate_of_cleaned hfind hclean).2]
      exact hcleaned.trans hwritten

theorem answer_clean_of_generate (hfind : (pass.find tree).answer = .ok scripts)
    (h : (pass.generate tree).answer = .ok paths) : (pass.writer.clean tree).answer = .ok () := by
  cases hclean : (pass.writer.clean tree).answer with
  | error failure => cases (generate_of_uncleaned hfind hclean).1.symm.trans h
  | ok done => rfl

/-- The paths that generating answers are those that its pass tells of afterwards. -/
theorem wrapperPaths_generate (hfind : (pass.find tree).answer = .ok scripts)
    (hscripts : ∀ script ∈ scripts, script.Consistent)
    (h : (pass.generate tree).answer = .ok paths) (seen : Tree) :
    paths = scripts.map pass.writer.pathOf ∧
      ((pass.generate tree).state.1.wrapperPaths seen).answer = .ok paths := by
  obtain ⟨hanswer, hstate⟩ := generate_of_cleaned hfind (answer_clean_of_generate hfind h)
  obtain ⟨count, -, -, hall⟩ := WrapperWriter.each_writeWrapper_records hscripts _
  obtain ⟨-, hwritten⟩ := hall paths (hanswer.symm.trans h)
  constructor
  · rw [hwritten, WrapperWriter.map_pathOf_each hscripts]
  · rw [hstate, wrapperPaths_of_scripts rfl, hwritten]
    exact congrArg (fun writer => Except.ok (List.map (WrapperWriter.pathOf writer) _))
      (writer_find pass tree)

/-- Of two trees that look alike once they are cleaned, generating makes the same. -/
theorem like_generate (hfind : (pass.find tree).answer = .ok scripts)
    (hfind' : (pass.find other).answer = .ok scripts)
    (hclean : (pass.writer.clean tree).answer = .ok ())
    (hclean' : (pass.writer.clean other).answer = .ok ())
    (halike : (pass.writer.clean tree).state.Alike (pass.writer.clean other).state) :
    (pass.generate tree).Like (pass.generate other) := by
  obtain ⟨hanswer, hstate⟩ := generate_of_cleaned hfind hclean
  obtain ⟨hanswer', hstate'⟩ := generate_of_cleaned hfind' hclean'
  have hlike := Script.like_each
    (fun script _ _ h => pass.writer.like_writeWrapper script h) scripts halike
  constructor
  · rw [hanswer', hanswer]
    exact hlike.answer
  · rw [hstate', hstate, state_find_eq hfind hfind']
    exact congrArg (fun laters => { (pass.find tree).state with scripts := some laters }) hlike.state
  · rw [hstate', hstate]
    exact hlike.tree

/-- Generating rebuilds the directory of the wrappers from nothing, and touches nothing else. -/
theorem generate_rebuilds (hpass : pass.Reached) (hwell : tree.WellFormed) (hfree : tree.LinkFree)
    (hextension : '/' ∉ pass.layout.wrapperExtension.toList)
    (hdirectory : pass.layout.generatedDirectory.Descends)
    (hfind : (pass.find tree).answer = .ok scripts)
    (hnames : ∀ script ∈ scripts, Identifier.isTypeName script.wrapperClass = true)
    (hapart : ∀ script ∈ scripts,
      Tree.Apart (tree.place pass.layout.generatedDirectory) (tree.place script.path)) :
    let writer := pass.writer
    let outcome := pass.generate tree
    Tree.Frame (tree.place writer.directory <+: ·) tree outcome.state.2 ∧
      (∀ paths, outcome.answer = .ok paths →
        paths = scripts.map writer.pathOf ∧
        (outcome.state.1.wrapperPaths outcome.state.2).answer = .ok paths ∧
        writer.Rebuilt tree scripts outcome.state.2 ∧
        (scripts = [] → outcome.state.2.exists writer.directory = false)) ∧
      (∀ failure, outcome.answer = .error failure → (writer.clean tree).answer = .ok () →
        writer.StoppedAt tree scripts failure outcome.state.2) ∧
      ∀ other : Tree, other.WellFormed → other.LinkFree → other.home = tree.home →
        (∀ location, ¬ tree.place writer.directory <+: location →
          other.get? location = tree.get? location) →
        (pass.find other).answer = .ok scripts →
        writer.Cleared tree → writer.Cleared other → outcome.Like (pass.generate other) := by
  intro writer outcome
  have hsound := (hpass.find tree).sound
  have hhandles : ∀ script ∈ scripts, writer.Handles tree script := by
    intro script hscript
    have hkept := hsound.kept (scripts_find hfind) script hscript
    refine ⟨WrapperWriter.wraps_of_isTypeName hkept.consistent (hnames script hscript) hextension, ?_,
      (hapart script hscript).1⟩
    exact (Script.forget_eq_iff.1 hkept.forget).2.2.2.2
  have hwraps : ∀ script ∈ scripts, writer.Wraps script := fun script hscript =>
    (hhandles script hscript).wraps
  refine ⟨frame_generate hfree hfind hwraps, ?_, ?_, ?_⟩
  · intro paths hpaths
    have hclean : (writer.clean tree).answer = .ok () := answer_clean_of_generate hfind hpaths
    obtain ⟨hanswer, hstate⟩ := generate_of_cleaned hfind hclean
    obtain ⟨hpathOf, htold⟩ := wrapperPaths_generate hfind
      (fun script hscript => (hwraps script hscript).consistent) hpaths outcome.state.2
    have hrebuilt := (WrapperWriter.rebuilt_each hwell hfree hdirectory hhandles hclean).1 paths
      (hanswer.symm.trans hpaths)
    have htree : outcome.state.2 = _ := congrArg Prod.snd hstate
    refine ⟨hpathOf, htold, ?_, ?_⟩
    · rw [htree]
      exact hrebuilt
    · rintro rfl
      rw [htree]
      exact WrapperWriter.exists_of_clean hwell hfree hdirectory hclean
  · intro failure hfailure hclean
    obtain ⟨hanswer, hstate⟩ := generate_of_cleaned hfind hclean
    have htree : outcome.state.2 = _ := congrArg Prod.snd hstate
    rw [htree]
    exact (WrapperWriter.rebuilt_each hwell hfree hdirectory hhandles hclean).2 failure
      (hanswer.symm.trans hfailure)
  · intro other hwell' hfree' hhome hsame hfind' hcleared hcleared'
    exact like_generate hfind hfind' hcleared.answer hcleared'.answer
      (hcleared.alike hcleared' hwell hfree hwell' hfree' hdirectory hhome hsame)

/-- A project whose directory of wrappers holds things from earlier. -/
def staleProject : Tree :=
  let home := Utf8.ofString "home"
  let source := Utf8.ofString "src"
  let wrappers := Utf8.ofString "out"
  { entries := [([home], .directory), ([home, source], .directory),
      ([home, source, Utf8.ofString "tool.gradle.kts"], .file (Utf8.ofString "package a\n")),
      ([home, wrappers], .directory),
      ([home, wrappers, Utf8.ofString "Stale.kt"], .file []),
      ([home, wrappers, Utf8.ofString "old"], .directory),
      ([home, wrappers, Utf8.ofString "old", Utf8.ofString "Tool.kt"], .file [])]
    home := [home] }

def overStale : Pass :=
  new { Layout.default with
      sourceRoot := .ofString "src", generatedDirectory := .ofString "out" }
    (.ofImports []) .files

theorem generate_rebuilds_stale :
    let directory := overStale.layout.generatedDirectory
    let scripts := [overStale.layout.scriptAt (.ofString "src/tool.gradle.kts")]
    let outcome := overStale.generate staleProject
    overStale.Reached ∧ staleProject.WellFormed ∧ staleProject.LinkFree ∧
      '/' ∉ overStale.layout.wrapperExtension.toList ∧ directory.Descends ∧
      (overStale.find staleProject).answer = .ok scripts ∧
      (∀ script ∈ scripts, Identifier.isTypeName script.wrapperClass = true) ∧
      (∀ script ∈ scripts,
        Tree.Apart (staleProject.place directory) (staleProject.place script.path)) ∧
      outcome.answer = .ok [.ofString "out/Tool.kt"] ∧
      outcome.state.2.inside directory [Utf8.ofString "Stale.kt"] = none ∧
      outcome.state.2.inside directory [Utf8.ofString "old", Utf8.ofString "Tool.kt"] = none := by
  intro directory scripts outcome
  have hreached : overStale.Reached := .new ..
  have hwell : staleProject.WellFormed := by decide
  have hfree : staleProject.LinkFree := Tree.linkFree_of_entries (by decide)
  have hextension : '/' ∉ overStale.layout.wrapperExtension.toList := by decide
  have hdirectory : directory.Descends := by decide
  have hfind : (overStale.find staleProject).answer = .ok scripts := by decide +kernel
  have hnames : ∀ script ∈ scripts, Identifier.isTypeName script.wrapperClass = true := by
    decide +kernel
  have hapart : ∀ script ∈ scripts,
      Tree.Apart (staleProject.place directory) (staleProject.place script.path) := by
    decide +kernel
  have hanswer : outcome.answer = .ok [.ofString "out/Tool.kt"] := by decide +kernel
  obtain ⟨-, hdone, -, -⟩ := generate_rebuilds hreached hwell hfree hextension hdirectory hfind hnames
    hapart
  obtain ⟨-, -, hrebuilt, -⟩ := hdone _ hanswer
  refine ⟨hreached, hwell, hfree, hextension, hdirectory, hfind, hnames, hapart, hanswer, ?_, ?_⟩
  · exact (hrebuilt.inside _ (List.cons_ne_nil _ _)).trans (by decide +kernel)
  · exact (hrebuilt.inside _ (List.cons_ne_nil _ _)).trans (by decide +kernel)

end Pass

end ScriptPlugins
