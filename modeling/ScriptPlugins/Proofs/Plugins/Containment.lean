import ScriptPlugins.Proofs.Files.Detached
import ScriptPlugins.Proofs.Plugins.Publishable

/-!
# What publishing can reach

An id is chosen by the author of a script and becomes the name of a file. It is looked at before
anything is written, and none is registered twice. So publishing writes its own files, right in the
directory, and each of them once: whatever comes of it, nothing changes anywhere else but that there
may be more directories. If there was nothing in the directory before, the plugins can be read off the
files.
-/

namespace ScriptPlugins.Catalog

open Text

variable {catalog other : Catalog} {plugin : Plugin} {plugins front back : List Plugin}
  {tree after : Tree} {directory : Path} {paths : List Path} {names : Location} {contents : Bytes}

/-- The catalogs that there can be. -/
inductive Reached : Catalog → Prop where
  | empty : Reached .empty
  | register {catalog : Catalog} (h : Reached catalog) (plugin : Plugin) :
      Reached (catalog.register plugin).state

theorem Reached.nodup (h : catalog.Reached) : (catalog.plugins.map Plugin.id).Nodup := by
  induction h with
  | empty => exact List.nodup_nil
  | @register catalog _ plugin ih =>
      cases hfind : catalog.find? plugin.id with
      | some taken => rwa [(register_of_find?_eq_some hfind).state]
      | none =>
          rw [(register_of_find?_eq_none hfind).state, List.map_append, List.map_singleton,
            ← List.concat_eq_append]
          exact ih.concat (find?_eq_none_iff.1 hfind)

/-- An id that would lead out of a directory, or that names the directory itself. -/
def Unfit (id : String) : Prop :=
  id ∈ ["", ".", ".."] ∨ '/' ∈ id.toList ∨ '\\' ∈ id.toList

theorem isPublishable_eq_false_iff {id : String} : isPublishable id = false ↔ Unfit id := by
  rw [← Bool.not_eq_true, isPublishable_iff, Unfit]
  simp only [List.mem_cons, List.not_mem_nil, or_false]
  tauto

theorem publish_of_unfit (hplugins : catalog.plugins = front ++ plugin :: back)
    (hfront : ∀ other ∈ front, ¬Unfit other.id) (hunfit : Unfit plugin.id) (directory : Path)
    (tree : Tree) : catalog.publish directory tree = .error (.invalidId plugin.id) tree [] := by
  have hfind : catalog.plugins.find? (!isPublishable ·.id) = some plugin := by
    rw [List.find?_eq_some_iff_append]
    refine ⟨by rw [isPublishable_eq_false_iff.2 hunfit]; rfl, front, back, hplugins, ?_⟩
    intro other hother
    have hfit := hfront other hother
    rw [← isPublishable_eq_false_iff, Bool.not_eq_false] at hfit
    rw [hfit]
    rfl
  exact publish_of_find hfind directory tree

theorem answer_writeEach (h : (writeEach directory plugins tree).answer = .ok paths) :
    paths = plugins.map (pathOf directory) := by
  induction plugins generalizing tree paths with
  | nil => exact (Except.ok.inj h).symm
  | cons plugin rest ih =>
      rw [writeEach] at h
      cases hwrite : tree.write (pathOf directory plugin) (Utf8.ofString (properties plugin)) with
      | error fault => simp [hwrite] at h
      | ok written =>
          simp only [hwrite] at h
          obtain ⟨others, hothers, hpaths⟩ := Outcome.andThen_eq_ok_iff.1 h
          rw [List.map_cons, ← ih hothers, Except.ok.inj hpaths]

/-- Whatever comes of publishing, nothing has changed but the files of the plugins. -/
theorem frame_publish (hfree : tree.LinkFree) (catalog : Catalog) (directory : Path) :
    Tree.Frame (files (tree.place directory) catalog.plugins) tree
      (catalog.publish directory tree).state := by
  by_cases hempty : catalog.plugins = []
  · rw [publish_of_empty hempty]
    exact .refl _ tree
  by_cases hids : catalog.Publishable
  · have hmake := Tree.frame_makeDirectories tree directory
    rcases hids.publish_cases hempty directory tree with ⟨fault, -, hstate⟩ | ⟨-, hstate⟩
    · rw [hstate]
      exact hmake.of_nowhere
    · obtain ⟨hframe, -⟩ :=
        @frame_writeEach catalog.plugins _ directory (hmake.linkFree hfree) hids
      rw [hmake.place] at hframe
      rw [hstate]
      exact hmake.of_nowhere.trans hframe
  · obtain ⟨id, hrefused⟩ := publish_of_not_publishable hids directory tree
    rw [hrefused]
    exact .refl _ tree

theorem publishable_of_publish (h : (catalog.publish directory tree).answer = .ok paths) :
    catalog.Publishable := by
  by_contra hids
  obtain ⟨id, hrefused⟩ := publish_of_not_publishable hids directory tree
  rw [hrefused] at h
  cases h

theorem paths_of_publish (h : (catalog.publish directory tree).answer = .ok paths) :
    paths = catalog.plugins.map (pathOf directory) := by
  by_cases hempty : catalog.plugins = []
  · rw [publish_of_empty hempty] at h
    rw [hempty, ← Except.ok.inj h, List.map_nil]
  · rcases (publishable_of_publish h).publish_cases hempty directory tree with
      ⟨fault, hanswer, -⟩ | ⟨hanswer, -⟩
    · cases hanswer.symm.trans h
    · exact answer_writeEach (hanswer.symm.trans h)

/-- What publishing has done, if it has. -/
structure Published (catalog : Catalog) (directory : Path) (before after : Tree) (paths : List Path) :
    Prop where
  listed : paths = catalog.plugins.map fun plugin =>
    directory.join (.ofString (plugin.id ++ ".properties"))
  distinct : paths.Pairwise fun path other => ¬path.same other
  inside : ∀ path ∈ paths, ∃ name, path.components = directory.components ++ [.name name] ∧
    before.place path = before.place directory ++ [name]
  held : ∀ plugin ∈ catalog.plugins,
    after.read (directory.join (.ofString (plugin.id ++ ".properties"))) =
      .ok (Utf8.ofString ("implementation-class=" ++ plugin.implementationClass ++ "\n"))
  others : ∀ location, (∀ path ∈ paths, location ≠ before.place path) →
    after.get? location = before.get? location ∨
      before.get? location = none ∧ after.get? location = some .directory

theorem distinct_pathOf (hnodup : (plugins.map Plugin.id).Nodup)
    (hids : ∀ plugin ∈ plugins, isPublishable plugin.id = true) (directory : Path) :
    (plugins.map (pathOf directory)).Pairwise fun path other => ¬path.same other := by
  rw [List.pairwise_map]
  refine (List.pairwise_map.1 hnodup).imp_of_mem ?_
  intro plugin other hplugin hother hid hsame
  have hname := isName_nameOf (hids plugin hplugin)
  have hname' := isName_nameOf (hids other hother)
  exact hid (nameOf_injective ((Path.same_join_name_iff hname hname').1 hsame))

theorem published_of_publish (hnodup : (catalog.plugins.map Plugin.id).Nodup) (hfree : tree.LinkFree)
    (h : (catalog.publish directory tree).answer = .ok paths) :
    Published catalog directory tree (catalog.publish directory tree).state paths := by
  have hids := publishable_of_publish h
  have hframe := frame_publish hfree catalog directory
  obtain ⟨-, -, hfind⟩ := publish_eq_ok hfree hnodup h
  obtain rfl := paths_of_publish h
  refine ⟨rfl, distinct_pathOf hnodup hids directory, ?_, ?_, ?_⟩
  · intro path hpath
    obtain ⟨plugin, hplugin, rfl⟩ := List.mem_map.1 hpath
    exact ⟨nameOf plugin, Path.components_join_name (isName_nameOf (hids plugin hplugin)),
      place_pathOf (hids plugin hplugin) tree directory⟩
  · intro plugin hplugin
    exact Tree.read_eq_ok_iff.2 ⟨_, hfind plugin hplugin⟩
  · intro location hout
    apply hframe.outside
    rintro ⟨plugin, hplugin, rfl⟩
    apply hout _ (List.mem_map_of_mem hplugin)
    rw [place_pathOf (hids plugin hplugin)]

/-- The directory is missing, or there is nothing in it. What counts is the place of the path: as long
as *new* is missing *new/..* leads nowhere, but its place is not missing. -/
inductive Vacant (tree : Tree) (directory : Path) : Prop where
  | missing (h : tree.get? (tree.place directory) = none) : Vacant tree directory
  | empty (h : tree.get? (tree.place directory) = some .directory)
      (hbelow : tree.below (tree.place directory) = []) : Vacant tree directory

theorem Vacant.get?_ne_file (h : Vacant tree directory) (hwell : tree.WellFormed) (names : Location)
    (contents : Bytes) : tree.get? (tree.place directory ++ names) ≠ some (.file contents) := by
  cases h with
  | missing h =>
      rw [hwell.get?_eq_none h (List.prefix_append _ _)]
      nofun
  | empty h hbelow =>
      by_cases hnames : names = []
      · rw [hnames, List.append_nil, h]
        nofun
      · intro hfile
        have hne : tree.place directory ++ names ≠ [] := by simp [hnames]
        rw [Tree.get?_of_ne tree hne] at hfile
        rw [Tree.below, List.map_eq_nil_iff, List.filter_eq_nil_iff] at hbelow
        refine hbelow _ (Tree.mem_of_lookup hfile) (Tree.isBelow_iff.2 ⟨?_, List.prefix_append _ _⟩)
        intro hsame
        exact hnames (List.append_right_eq_self.1 hsame.symm)

/-- A catalog that has been published into a directory with nothing in it. -/
structure Issued (catalog : Catalog) (directory : Path) (before after : Tree) : Prop where
  reached : catalog.Reached
  linkFree : before.LinkFree
  wellFormed : before.WellFormed
  vacant : Vacant before directory
  yields : ∃ paths, (catalog.publish directory before).Yields paths after

/-- The files in the directory are those of the plugins. -/
theorem Issued.get?_iff {before : Tree} (h : Issued catalog directory before after) :
    after.get? (before.place directory ++ names) = some (.file contents) ↔
      ∃ plugin ∈ catalog.plugins, names = [nameOf plugin] ∧
        contents = Utf8.ofString (properties plugin) := by
  obtain ⟨hreached, hfree, hwell, hvacant, paths, hanswer, rfl⟩ := h
  obtain ⟨-, -, hfind⟩ := publish_eq_ok hfree hreached.nodup hanswer
  have hfile : ∀ plugin ∈ catalog.plugins, (catalog.publish directory before).state.get?
      (before.place directory ++ [nameOf plugin]) = some (.file (Utf8.ofString (properties plugin))) :=
    fun plugin hplugin => (Tree.find_eq_ok_iff.1 (hfind plugin hplugin)).2
  constructor
  · intro hget
    by_cases hin : files (before.place directory) catalog.plugins (before.place directory ++ names)
    · obtain ⟨plugin, hplugin, hsame⟩ := hin
      obtain rfl := List.append_cancel_left hsame
      rw [hfile plugin hplugin, Option.some.injEq, Entry.file.injEq] at hget
      exact ⟨plugin, hplugin, rfl, hget.symm⟩
    · have hbefore := (frame_publish hfree catalog directory).get?_of_ne_directory hin hget nofun
      exact absurd hbefore (hvacant.get?_ne_file hwell names contents)
  · rintro ⟨plugin, hplugin, rfl, rfl⟩
    exact hfile plugin hplugin

theorem properties_injective {second : Plugin} (h : properties plugin = properties second) :
    plugin.implementationClass = second.implementationClass :=
  (String.append_right_inj "implementation-class=").1 ((String.append_left_inj "\n").1 h)

/-- The name of its file and what is in it tell a plugin. -/
theorem eq_of_file {second : Plugin} (hname : nameOf plugin = nameOf second)
    (hcontents : Utf8.ofString (properties plugin) = Utf8.ofString (properties second)) :
    plugin = second := by
  have hid := nameOf_injective hname
  have hclass := properties_injective (Utf8.ofString_injective hcontents)
  calc plugin = ⟨plugin.id, plugin.implementationClass⟩ := rfl
    _ = ⟨second.id, second.implementationClass⟩ := by rw [hid, hclass]
    _ = second := rfl

theorem Issued.mem_iff {before : Tree} (h : Issued catalog directory before after) :
    plugin ∈ catalog.plugins ↔ after.get? (before.place directory ++ [nameOf plugin]) =
      some (.file (Utf8.ofString (properties plugin))) := by
  rw [h.get?_iff]
  constructor
  · intro hplugin
    exact ⟨plugin, hplugin, rfl, rfl⟩
  · rintro ⟨second, hsecond, hname, hcontents⟩
    rwa [eq_of_file (List.singleton_inj.1 hname) hcontents]

/-- **Publishing is contained.** An empty catalog does nothing, and an unfit id is refused before
anything is done. If publishing succeeds, each plugin has its own file right in the directory. Whatever
comes of it, nothing else changes. And catalogs that leave the same files in directories that were
missing or empty have the same plugins. -/
theorem publish_contained (hcatalog : catalog.Reached) (hfree : tree.LinkFree) (directory : Path) :
    let outcome := catalog.publish directory tree
    (catalog.plugins = [] → outcome = .ok [] tree []) ∧
      (∀ front plugin back, catalog.plugins = front ++ plugin :: back →
        (∀ other ∈ front, ¬Unfit other.id) → Unfit plugin.id →
        outcome = .error (.invalidId plugin.id) tree []) ∧
      (∀ paths, outcome.answer = .ok paths →
        Published catalog directory tree outcome.state paths) ∧
      Tree.Frame (files (tree.place directory) catalog.plugins) tree outcome.state ∧
      (tree.WellFormed → Vacant tree directory → ∀ paths, outcome.answer = .ok paths →
        ∀ other target before after, Issued other target before after →
        (∀ names contents,
          outcome.state.get? (tree.place directory ++ names) = some (.file contents) ↔
            after.get? (before.place target ++ names) = some (.file contents)) →
        ∀ plugin, plugin ∈ catalog.plugins ↔ plugin ∈ other.plugins) := by
  intro outcome
  refine ⟨?_, ?_, ?_, frame_publish hfree catalog directory, ?_⟩
  · intro hempty
    exact publish_of_empty hempty directory tree
  · intro front plugin back hplugins hfront hunfit
    exact publish_of_unfit hplugins hfront hunfit directory tree
  · intro paths hpaths
    exact published_of_publish hcatalog.nodup hfree hpaths
  · intro hwell hvacant paths hpaths other target before after hother hsame plugin
    have hissued : Issued catalog directory tree outcome.state :=
      ⟨hcatalog, hfree, hwell, hvacant, paths, Outcome.yields_of_answer hpaths⟩
    rw [hissued.mem_iff, hother.mem_iff]
    exact hsame _ _

/-- Two plugins, after an attempt to register a third under the first id. Three dots are no way out of
a directory. -/
def dotted : Catalog :=
  (((empty.register ⟨"org.acme.tool", "Tool"⟩).state.register ⟨"...", "Dots"⟩).state.register
    ⟨"org.acme.tool", "Other"⟩).state

theorem publish_contained_dots :
    let outcome := dotted.publish (.ofString "out/ids") .empty
    let escaping := (dotted.register ⟨"a/../../x", "X"⟩).state
    dotted.Reached ∧ Tree.empty.LinkFree ∧ Tree.empty.WellFormed ∧
      Vacant .empty (.ofString "out/ids") ∧
      outcome.answer = .ok [.ofString "out/ids/org.acme.tool.properties",
        .ofString "out/ids/....properties"] ∧
      outcome.state.read (.ofString "out/ids/....properties") =
        .ok (Utf8.ofString "implementation-class=Dots\n") ∧
      escaping.publish (.ofString "out/ids") .empty = .error (.invalidId "a/../../x") .empty [] ∧
      ∀ other, Issued other (.ofString "out/ids") .empty outcome.state →
        ∀ plugin, plugin ∈ dotted.plugins ↔ plugin ∈ other.plugins := by
  intro outcome escaping
  have hdotted : dotted.Reached := .register (.register (.register .empty _) _) _
  have hescaping : escaping.Reached := .register hdotted _
  have hfree : Tree.empty.LinkFree := Tree.linkFree_of_entries (by decide)
  have hwell : Tree.empty.WellFormed := by decide
  have hvacant : Vacant .empty (.ofString "out/ids") := .missing (by decide)
  have hanswer : outcome.answer = .ok [.ofString "out/ids/org.acme.tool.properties",
      .ofString "out/ids/....properties"] := by decide +kernel
  obtain ⟨-, -, hpublished, -, hdetermined⟩ :=
    publish_contained hdotted hfree (.ofString "out/ids")
  obtain ⟨-, hrefused, -⟩ := publish_contained hescaping hfree (.ofString "out/ids")
  refine ⟨hdotted, hfree, hwell, hvacant, hanswer, ?_, ?_, ?_⟩
  · exact (hpublished _ hanswer).held ⟨"...", "Dots"⟩ (by decide)
  · refine hrefused dotted.plugins ⟨"a/../../x", "X"⟩ [] (by decide) ?_ (.inr (.inl (by decide)))
    intro other hother
    rw [← isPublishable_eq_false_iff]
    revert other
    decide
  · intro other hother
    exact hdetermined hwell hvacant _ hanswer other _ _ _ hother fun _ _ => Iff.rfl

end ScriptPlugins.Catalog
