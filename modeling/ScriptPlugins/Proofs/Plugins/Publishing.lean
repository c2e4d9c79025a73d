import ScriptPlugins.Plugins.Pass
import ScriptPlugins.Proofs.Files.Frame
import ScriptPlugins.Proofs.Plugins.Round

/-!
# Registering and publishing

Registering keeps the order in which scripts come, and since a taken id is refused, no id is
registered twice. An id that can be published names a file right in the directory of the plugins,
and different ids name different files, so no plugin is written over another.
-/

namespace ScriptPlugins

open Text

namespace Catalog

variable {catalog : Catalog} {plugin taken : Plugin} {plugins : List Plugin} {script : Script}
  {scripts : List Script} {tree after : Tree} {directory : Path} {paths : List Path}

theorem find?_eq_none_iff {id : String} :
    catalog.find? id = none ↔ id ∉ catalog.plugins.map Plugin.id := by
  rw [find?, List.find?_eq_none, List.mem_map]
  constructor
  · rintro h ⟨plugin, hmem, rfl⟩
    exact h plugin hmem (beq_self_eq_true _)
  · intro h plugin hmem heq
    exact h ⟨plugin, hmem, beq_iff_eq.1 heq⟩

theorem register_of_find?_eq_none (h : catalog.find? plugin.id = none) :
    (catalog.register plugin).Yields () ⟨catalog.plugins ++ [plugin]⟩ := by
  rw [register, h]
  exact ⟨rfl, rfl⟩

theorem register_of_find?_eq_some (h : catalog.find? plugin.id = some taken) :
    (catalog.register plugin).Fails (.duplicateId plugin.id taken.implementationClass) catalog := by
  rw [register, h]
  exact ⟨rfl, rfl⟩

theorem register_eq_ok {done : Unit} (h : (catalog.register plugin).answer = .ok done) :
    plugin.id ∉ catalog.plugins.map Plugin.id ∧
      (catalog.register plugin).state = ⟨catalog.plugins ++ [plugin]⟩ := by
  cases hfind : catalog.find? plugin.id with
  | some taken => cases (register_of_find?_eq_some hfind).answer.symm.trans h
  | none => exact ⟨find?_eq_none_iff.1 hfind, (register_of_find?_eq_none hfind).state⟩

theorem declareScript_eq_ok (hscript : script.Consistent) {done : Unit}
    (h : (Pass.declareScript tree script catalog).answer = .ok done) :
    ∃ plugin, script.Means tree plugin ∧ plugin.id ∉ catalog.plugins.map Plugin.id ∧
      (Pass.declareScript tree script catalog).state.2 = ⟨catalog.plugins ++ [plugin]⟩ := by
  cases hspace : script.spaceIn tree with
  | error failure =>
      rw [Pass.declareScript, hscript.plugin_eq_error hspace] at h
      cases h
  | ok space =>
      obtain ⟨later, hplugin, -⟩ := hscript.plugin_eq_ok hspace
      rw [Pass.declareScript, hplugin] at h ⊢
      obtain ⟨registered, hregister, -⟩ := Outcome.andThen_eq_ok_iff.1 h
      obtain ⟨hfresh, hstate⟩ := register_eq_ok hregister
      refine ⟨_, ⟨space, hspace, rfl⟩, hfresh, ?_⟩
      simp only [(Outcome.andThen_of_ok hregister).2, Outcome.state_ok, Outcome.state_onState]
      exact hstate

/-- The plugins of all scripts are registered in the order of the scripts. -/
theorem each_declareScript_eq_ok (hscripts : ∀ script ∈ scripts, script.Consistent)
    {registered : List Unit} (hnodup : (catalog.plugins.map Plugin.id).Nodup)
    (h : (Script.each (Pass.declareScript tree) scripts catalog).answer = .ok registered) :
    ∃ plugins, List.Forall₂ (Script.Means tree) scripts plugins ∧
      (Script.each (Pass.declareScript tree) scripts catalog).state.2.plugins =
        catalog.plugins ++ plugins ∧
      ((catalog.plugins ++ plugins).map Plugin.id).Nodup := by
  induction scripts generalizing catalog registered with
  | nil => exact ⟨[], .nil, (List.append_nil _).symm, by rwa [List.append_nil]⟩
  | cons script rest ih =>
      obtain ⟨done, others, hfirst, hrest, -⟩ := Script.each_cons_eq_ok_iff.1 h
      obtain ⟨plugin, hmeans, hfresh, hstate⟩ :=
        declareScript_eq_ok (hscripts script List.mem_cons_self) hfirst
      rw [Script.state_each_cons hfirst]
      rw [hstate] at hrest ⊢
      have hnodup' : ((catalog.plugins ++ [plugin]).map Plugin.id).Nodup := by
        rw [List.map_append, List.map_singleton, List.nodup_append]
        refine ⟨hnodup, by simp, ?_⟩
        rintro id hid other hother rfl
        rw [List.mem_singleton] at hother
        exact hfresh (hother ▸ hid)
      obtain ⟨plugins, hplugins, hplugins', hids⟩ :=
        ih (fun other hother => hscripts other (List.mem_cons_of_mem _ hother)) hnodup' hrest
      refine ⟨plugin :: plugins, .cons hmeans hplugins, ?_, ?_⟩
      · rw [hplugins', List.append_assoc, List.singleton_append]
      · rwa [List.append_assoc, List.singleton_append] at hids

def nameOf (plugin : Plugin) : Bytes :=
  Utf8.ofString (plugin.id ++ ".properties")

theorem nameOf_injective {other : Plugin} (h : nameOf plugin = nameOf other) :
    plugin.id = other.id := by
  have htext := congrArg String.toList (Utf8.ofString_injective h)
  rw [String.toList_append, String.toList_append] at htext
  exact String.toList_inj.1 (List.append_cancel_right htext)

theorem isName_nameOf (h : isPublishable plugin.id = true) : Path.IsName (nameOf plugin) := by
  simp only [isPublishable, Bool.and_eq_true, Bool.not_eq_true', bne_iff_ne, ne_eq] at h
  obtain ⟨⟨-, hslash⟩, -⟩ := h
  have htext : (plugin.id ++ ".properties").toList = plugin.id.toList ++ ".properties".toList :=
    String.toList_append
  have hlong : ∀ text : String, text.toList.length < 11 → plugin.id ++ ".properties" ≠ text := by
    rintro text hshort rfl
    rw [htext, List.length_append] at hshort
    have hlength : ".properties".toList.length = 11 := by decide
    omega
  refine Path.isName_ofString_iff.2 ⟨hlong "" (by decide), ?_, hlong "." (by decide),
    hlong ".." (by decide)⟩
  rw [htext, List.mem_append, not_or]
  refine ⟨?_, by decide⟩
  intro hmem
  rw [List.contains_iff_mem.2 hmem] at hslash
  cases hslash

theorem place_pathOf (h : isPublishable plugin.id = true) (tree : Tree) (directory : Path) :
    tree.place (pathOf directory plugin) = tree.place directory ++ [nameOf plugin] :=
  tree.place_join_name directory (isName_nameOf h)

def files (location : Location) (plugins : List Plugin) : Location → Prop :=
  fun other => ∃ plugin ∈ plugins, other = location ++ [nameOf plugin]

theorem writeEach_cons (directory : Path) (plugin : Plugin) (rest : List Plugin) (tree : Tree) :
    (∃ failure, (writeEach directory (plugin :: rest) tree).answer = .error failure ∧
        (writeEach directory (plugin :: rest) tree).state = tree) ∨
      ∃ written, tree.write (pathOf directory plugin) (Utf8.ofString (properties plugin)) =
          .ok written ∧
        (writeEach directory (plugin :: rest) tree).state =
          (writeEach directory rest written).state ∧
        ∀ paths, (writeEach directory (plugin :: rest) tree).answer = .ok paths →
          ∃ others, (writeEach directory rest written).answer = .ok others := by
  rw [writeEach]
  cases hwrite : tree.write (pathOf directory plugin) (Utf8.ofString (properties plugin)) with
  | error fault => exact .inl ⟨_, rfl, rfl⟩
  | ok written =>
      refine .inr ⟨written, rfl, ?_, ?_⟩
      · simp only
        cases hrest : (writeEach directory rest written).answer with
        | error failure => exact (Outcome.andThen_of_error hrest).2
        | ok paths => exact (Outcome.andThen_of_ok hrest).2
      · intro paths h
        obtain ⟨others, hothers, -⟩ := Outcome.andThen_eq_ok_iff.1 h
        exact ⟨others, hothers⟩

theorem frame_writeEach (hfree : tree.LinkFree)
    (hids : ∀ plugin ∈ plugins, isPublishable plugin.id = true) :
    Tree.Frame (files (tree.place directory) plugins) tree
        (writeEach directory plugins tree).state ∧
      tree.Grows (writeEach directory plugins tree).state := by
  induction plugins generalizing tree with
  | nil => exact ⟨.refl _ tree, .refl tree⟩
  | cons plugin rest ih =>
      rcases writeEach_cons directory plugin rest tree with ⟨-, -, hstate⟩ | ⟨written, hwrite, hstate, -⟩
      · rw [hstate]
        exact ⟨.refl _ tree, .refl tree⟩
      · have hwrote := hfree.wrote hwrite
        obtain ⟨hframe, hgrows⟩ := ih (hwrote.frame.linkFree hfree)
          fun other hother => hids other (List.mem_cons_of_mem _ hother)
        rw [hstate]
        refine ⟨(hwrote.frame.mono ?_).trans (hframe.mono ?_), hwrote.grows.trans hgrows⟩
        · rintro location rfl
          exact ⟨plugin, List.mem_cons_self, place_pathOf (hids plugin List.mem_cons_self) tree _⟩
        · rintro location ⟨other, hother, rfl⟩
          exact ⟨other, List.mem_cons_of_mem _ hother, by rw [hwrote.frame.place]⟩

theorem find_writeEach (hfree : tree.LinkFree)
    (hids : ∀ plugin ∈ plugins, isPublishable plugin.id = true)
    (hnodup : (plugins.map Plugin.id).Nodup)
    (h : (writeEach directory plugins tree).answer = .ok paths) :
    ∀ plugin ∈ plugins, (writeEach directory plugins tree).state.find (pathOf directory plugin) =
      .ok (tree.place directory ++ [nameOf plugin],
        .file (Utf8.ofString (properties plugin))) := by
  induction plugins generalizing tree paths with
  | nil => nofun
  | cons plugin rest ih =>
      rcases writeEach_cons directory plugin rest tree with
        ⟨failure, hanswer, -⟩ | ⟨written, hwrite, hstate, hothers⟩
      · rw [hanswer] at h
        cases h
      · have hwrote := hfree.wrote hwrite
        have hwritten := hwrote.frame.linkFree hfree
        have hrestIds : ∀ other ∈ rest, isPublishable other.id = true := fun other hother =>
          hids other (List.mem_cons_of_mem _ hother)
        obtain ⟨hid, hrestNodup⟩ := List.nodup_cons.1 hnodup
        obtain ⟨others, hrest⟩ := hothers paths h
        rw [hstate]
        intro other hother
        rcases List.mem_cons.1 hother with rfl | hother
        · obtain ⟨hframe, hgrows⟩ := @frame_writeEach rest written directory hwritten hrestIds
          have hfind := hwrote.find hfree
          rw [place_pathOf (hids other List.mem_cons_self)] at hfind
          refine hwritten.find_grows (hframe.linkFree hwritten) hgrows hfind
            (hframe.get?_of_some ?_ (Tree.find_eq_ok_iff.1 hfind).2)
          -- no later plugin has the same file name
          rintro ⟨later, hlater, heq⟩
          rw [hwrote.frame.place] at heq
          have hname := (List.append_inj' heq rfl).2
          refine hid (List.mem_map.2 ⟨later, hlater, ?_⟩)
          exact (nameOf_injective (List.singleton_inj.1 hname)).symm
        · have hlater := ih hwritten hrestIds hrestNodup hrest other hother
          rwa [hwrote.frame.place] at hlater

theorem publish_eq_ok (hfree : tree.LinkFree) (hnodup : (catalog.plugins.map Plugin.id).Nodup)
    (h : (catalog.publish directory tree).answer = .ok paths) :
    Tree.Frame (tree.place directory <+: ·) tree (catalog.publish directory tree).state ∧
      tree.Grows (catalog.publish directory tree).state ∧
      ∀ plugin ∈ catalog.plugins,
        (catalog.publish directory tree).state.find (pathOf directory plugin) =
          .ok (tree.place directory ++ [nameOf plugin],
            .file (Utf8.ofString (properties plugin))) := by
  rw [publish] at h ⊢
  by_cases hempty : catalog.plugins.isEmpty
  · rw [if_pos hempty, List.isEmpty_iff.1 hempty]
    exact ⟨.refl _ tree, .refl tree, nofun⟩
  · rw [if_neg hempty] at h ⊢
    cases hbad : catalog.plugins.find? (!isPublishable ·.id) with
    | some plugin =>
        rw [hbad] at h
        cases h
    | none =>
        have hids : ∀ plugin ∈ catalog.plugins, isPublishable plugin.id = true := by
          simpa using List.find?_eq_none.1 hbad
        have hmake := Tree.frame_makeDirectories tree directory
        cases hmade : tree.makeDirectories directory with
        | mk answer made =>
            rw [hmade] at hmake
            cases answer with
            | error fault => simp [hbad, hmade] at h
            | ok done =>
                simp only [hbad, hmade] at h ⊢
                obtain ⟨written, hwritten, -⟩ := Outcome.andThen_eq_ok_iff.1 h
                have hmadeFree := hmake.linkFree hfree
                obtain ⟨hframe, hgrows⟩ :=
                  @frame_writeEach catalog.plugins made directory hmadeFree hids
                have hfind := find_writeEach hmadeFree hids hnodup hwritten
                rw [(Outcome.andThen_of_ok hwritten).2, Outcome.state_ok]
                rw [hmake.place] at hframe hfind
                refine ⟨hmake.of_nowhere.trans (hframe.mono ?_), hmake.grows.trans hgrows, hfind⟩
                rintro location ⟨plugin, -, rfl⟩
                exact List.prefix_append _ _

end Catalog

end ScriptPlugins
