import ScriptPlugins.Plugins.Discovery
import ScriptPlugins.Proofs.Files.Below
import ScriptPlugins.Proofs.Files.Frame

/-!
# Where found scripts are

A script that has been found is a file at or below the source root, and its path is that of the root
with more names. So what can change the script is known from the root, before anything is searched.

A path that was found may become unreadable, and readable again, while directories come and go. But
what is read later, as long as nothing happens at the place itself, is what could have been read when
the path was found: the way to the file was open then.
-/

namespace ScriptPlugins.Discovery

open Text

variable {tree later : Tree} {root path found : Path} {top names : Location} {name contents : Bytes}

theorem pathBelow_cons (root : Path) (name : Bytes) (names : Location) :
    pathBelow root (name :: names) = pathBelow (root.join ⟨name⟩) names :=
  rfl

theorem segments_pathBelow (root : Path) (h : ∀ name ∈ names, Path.IsName name) :
    (pathBelow root names).segments = root.segments ++ names := by
  induction names generalizing root with
  | nil => exact (List.append_nil root.segments).symm
  | cons name rest ih =>
      rw [pathBelow_cons, ih _ fun other hother => h other (List.mem_cons_of_mem _ hother),
        Path.segments_join_name (h name List.mem_cons_self), List.append_assoc,
        List.singleton_append]

theorem components_pathBelow (root : Path) (h : ∀ name ∈ names, Path.IsName name) :
    (pathBelow root names).components = root.components ++ names.map .name := by
  induction names generalizing root with
  | nil => exact (List.append_nil root.components).symm
  | cons name rest ih =>
      rw [pathBelow_cons, ih _ fun other hother => h other (List.mem_cons_of_mem _ hother),
        Path.components_join_name (h name List.mem_cons_self), List.append_assoc]
      rfl

theorem isAbsolute_pathBelow (root : Path) (h : ∀ name ∈ names, Path.IsName name) :
    (pathBelow root names).isAbsolute = root.isAbsolute := by
  induction names generalizing root with
  | nil => rfl
  | cons name rest ih =>
      rw [pathBelow_cons, ih _ fun other hother => h other (List.mem_cons_of_mem _ hother),
        Path.isAbsolute_join_name (h name List.mem_cons_self)]

theorem endsInSlash_pathBelow (root : Path) (hne : names ≠ [])
    (h : ∀ name ∈ names, Path.IsName name) : (pathBelow root names).endsInSlash = false := by
  induction names generalizing root with
  | nil => exact absurd rfl hne
  | cons name rest ih =>
      rw [pathBelow_cons]
      by_cases hrest : rest = []
      · rw [hrest]
        exact Path.endsInSlash_join_name (h name List.mem_cons_self)
      · exact ih _ hrest fun other hother => h other (List.mem_cons_of_mem _ hother)

theorem start_pathBelow (tree : Tree) (root : Path) (h : ∀ name ∈ names, Path.IsName name) :
    tree.start (pathBelow root names) = tree.start root := by
  rw [Tree.start, Tree.start, isAbsolute_pathBelow root h]

theorem place_pathBelow (tree : Tree) (root : Path) (h : ∀ name ∈ names, Path.IsName name) :
    tree.place (pathBelow root names) = tree.place root ++ names := by
  rw [Tree.place, start_pathBelow tree root h, segments_pathBelow root h, Tree.resolve_append,
    Tree.resolve_of_isName _ h]
  rfl

/-- A tree has a file at or below a root, and a way to it. -/
structure Holds (tree : Tree) (root : Path) (names : Location) (contents : Bytes) : Prop where
  leads : tree.Leads root
  isName : ∀ name ∈ names, Path.IsName name
  file : tree.get? (tree.place root ++ names) = some (.file contents)

/-- A path is that of a file at a location, which is found by going down from where the root leads. -/
def StandsAt (tree : Tree) (root path : Path) (location : Location) (contents : Bytes) : Prop :=
  ∃ top entry names, tree.find root = .ok (top, entry) ∧ (∀ name ∈ names, Path.IsName name) ∧
    path = pathBelow root names ∧ location = top ++ names ∧
    tree.get? location = some (.file contents)

/-- The path of an entry below the root and its own name, if it is a regular file. -/
def candidate? (root : Path) (item : Location × Entry) : Option (Path × Bytes) :=
  match item.2 with
  | .file _ => some (pathBelow root item.1, item.1.getLast?.getD [])
  | .directory | .link _ => none

theorem candidate?_eq_some_iff {entry : Entry} :
    candidate? root (names, entry) = some (path, name) ↔
      (∃ contents, entry = .file contents) ∧ path = pathBelow root names ∧
        name = names.getLast?.getD [] := by
  cases entry <;> simp [candidate?, eq_comm]

theorem candidates_of_directory (h : tree.find root = .ok (top, .directory)) :
    candidates tree root = (tree.below top).filterMap (candidate? root) := by
  rw [candidates, h]
  rfl

theorem candidates_of_file {contents : Bytes} (h : tree.find root = .ok (top, .file contents)) :
    candidates tree root =
      if (tree.linkAt? root).isSome then [] else [(root, root.fileName?.getD root.bytes)] := by
  rw [candidates, h]

/-- What is found is a file at or below where the root leads, through whatever links. -/
theorem standsAt_of_mem_candidates (hwell : tree.WellFormed)
    (h : (path, name) ∈ candidates tree root) :
    ∃ location contents, StandsAt tree root path location contents := by
  cases hfind : tree.find root with
  | error fault => simp [candidates, hfind] at h
  | ok found =>
      obtain ⟨top, entry⟩ := found
      cases entry with
      | link target => simp [candidates, hfind] at h
      | file contents =>
          have hentry := (Tree.find_eq_ok_iff.1 hfind).2
          rw [candidates_of_file hfind] at h
          split at h
          · cases h
          · obtain ⟨rfl, -⟩ := Prod.mk.inj (List.mem_singleton.1 h)
            refine ⟨top, contents, top, _, [], hfind, nofun, rfl, ?_, hentry⟩
            exact (List.append_nil top).symm
      | directory =>
          rw [candidates_of_directory hfind] at h
          obtain ⟨⟨names, entry⟩, hbelow, hcandidate⟩ := List.mem_filterMap.1 h
          obtain ⟨⟨contents, rfl⟩, rfl, -⟩ := candidate?_eq_some_iff.1 hcandidate
          obtain ⟨-, hmem⟩ := Tree.mem_below_iff.1 hbelow
          exact ⟨_, contents, top, _, names, hfind, hwell.isName_of_mem_below hbelow, rfl, rfl,
            hwell.get?_of_mem hmem⟩

theorem StandsAt.location_eq {location top : Location} {entry : Entry}
    (h : StandsAt tree root path location contents) (hroot : tree.find root = .ok (top, entry))
    (hsegments : path.segments = root.segments ++ names) : location = top ++ names := by
  obtain ⟨_, _, below, hfind, hnames, rfl, rfl, -⟩ := h
  obtain ⟨rfl, -⟩ := Prod.mk.inj (Except.ok.inj (hfind.symm.trans hroot))
  rw [segments_pathBelow root hnames] at hsegments
  rw [List.append_cancel_left hsegments]

theorem holds_of_mem_candidates (hfree : tree.LinkFree) (hwell : tree.WellFormed)
    (h : (path, name) ∈ candidates tree root) :
    ∃ names contents, path = pathBelow root names ∧ Holds tree root names contents := by
  obtain ⟨_, contents, top, entry, names, hfind, hnames, hpath, rfl, hfile⟩ :=
    standsAt_of_mem_candidates hwell h
  obtain ⟨hleads, rfl, -⟩ := hfree.find_eq_ok_iff.1 hfind
  exact ⟨names, contents, hpath, hleads, hnames, hfile⟩

/-- A candidate whose name is text and matches. -/
def accepted? (glob : Glob) (candidate : Path × Bytes) : Option Path :=
  match Utf8.toString? candidate.2 with
  | some text => if glob.matches text then some candidate.1 else none
  | none => none

theorem accepted?_eq_some_iff {glob : Glob} : accepted? glob (path, name) = some found ↔
    path = found ∧ ∃ text, Utf8.toString? name = some text ∧ glob.matches text = true := by
  cases htext : Utf8.toString? name with
  | none => simp [accepted?, htext]
  | some text => by_cases hmatches : glob.matches text <;> simp [accepted?, htext, hmatches]

theorem find_of_exists {pattern : String} {glob : Glob} (hglob : Glob.parse pattern = .ok glob)
    (hexists : tree.exists root = true) :
    find tree root pattern =
      (.ok (sort Path.le ((candidates tree root).filterMap (accepted? glob))),
        ((candidates tree root).filter fun item => (Utf8.toString? item.2).isNone).map
            (fun _ => event .warn "Skipping file with non-UTF-8 name") ++
          [event .debug "Discovered script files"]) := by
  rw [find, hglob]
  simp only [hexists, if_true, List.filterMap_map, List.filter_map, List.map_map]
  rfl

theorem find_of_missing {pattern : String} {glob : Glob} (hglob : Glob.parse pattern = .ok glob)
    (hmissing : tree.exists root = false) :
    find tree root pattern = (.ok [], [event .debug "Script source root does not exist"]) := by
  simp [find, hglob, hmissing]

theorem mem_candidates_of_find {pattern : String} {paths : List Path}
    (h : (find tree root pattern).1 = .ok paths) (hpath : path ∈ paths) :
    ∃ name, (path, name) ∈ candidates tree root := by
  cases hglob : Glob.parse pattern with
  | error refusal => simp [find, hglob] at h
  | ok glob =>
      cases hexists : tree.exists root with
      | false =>
          rw [find_of_missing hglob hexists] at h
          obtain rfl := Except.ok.inj h
          cases hpath
      | true =>
          rw [find_of_exists hglob hexists] at h
          rw [← Except.ok.inj h, mem_sort] at hpath
          obtain ⟨⟨_, name⟩, hmem, haccepted⟩ := List.mem_filterMap.1 hpath
          obtain ⟨rfl, -⟩ := accepted?_eq_some_iff.1 haccepted
          exact ⟨name, hmem⟩

theorem Holds.leads_pathBelow (h : Holds tree root names contents) (hwell : tree.WellFormed)
    (haccepted : Tree.refusal? (pathBelow root names) = none)
    (hlength : ∀ name ∈ names, name.length ≤ Tree.nameLimit) :
    tree.Leads (pathBelow root names) := by
  by_cases hnames : names = []
  · rw [hnames]
    exact h.leads
  · refine ⟨haccepted, ?_⟩
    have hroot := h.leads.passable
    rw [Tree.steps, Tree.passable_append] at hroot
    rw [Tree.steps, endsInSlash_pathBelow root hnames h.isName, if_neg Bool.false_ne_true,
      List.append_nil, segments_pathBelow root h.isName, start_pathBelow tree root h.isName,
      Tree.passable_append]
    exact ⟨hroot.1, hwell.passable h.isName hlength h.file⟩

/-- What can be read later where nothing has happened is what could have been read before. -/
theorem Holds.readText_of_frame {region : Location → Prop} {text : String}
    (h : Holds tree root names contents) (hwell : tree.WellFormed) (hfree : tree.LinkFree)
    (hframe : Tree.Frame region tree later) (hout : ¬ region (tree.place root ++ names))
    (hread : later.readText (pathBelow root names) = .ok text) :
    tree.readText (pathBelow root names) = .ok text := by
  obtain ⟨kept, hkept, htext⟩ := Tree.readText_eq_ok_iff.1 hread
  obtain ⟨location, hfind⟩ := Tree.read_eq_ok_iff.1 hkept
  obtain ⟨hleads, hplace, hentry⟩ := (hframe.linkFree hfree).find_eq_ok_iff.1 hfind
  rw [hframe.place, place_pathBelow tree root h.isName] at hplace
  have hlength : ∀ name ∈ names, name.length ≤ Tree.nameLimit := by
    intro name hname
    refine hleads.passable.length_le name (List.mem_append_left _ ?_)
    rw [segments_pathBelow root h.isName]
    exact List.mem_append_right _ hname
  have hbefore : tree.get? location = some (.file kept) := by
    refine hframe.get?_of_ne_directory ?_ hentry nofun
    rwa [← hplace]
  refine Tree.readText_eq_ok_iff.2 ⟨kept, Tree.read_eq_ok_iff.2 ⟨location, ?_⟩, htext⟩
  refine hfree.find_eq_ok_iff.2 ⟨h.leads_pathBelow hwell hleads.accepted hlength, ?_, hbefore⟩
  rw [place_pathBelow tree root h.isName, hplace]

end ScriptPlugins.Discovery
