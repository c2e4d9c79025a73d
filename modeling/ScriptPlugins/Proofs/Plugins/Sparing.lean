import ScriptPlugins.Proofs.Files.Detached
import ScriptPlugins.Proofs.Plugins.Publishable
import ScriptPlugins.Proofs.Plugins.Settling

/-!
# Places that tasks leave alone

Generating changes nothing at a place that is apart from the wrappers and that the way to them does
not pass, whether it succeeds or fails. Directories are made on that way and nowhere else. And
publishing that is refused for an id has not begun.
-/

namespace ScriptPlugins

open Text

namespace WrapperWriter

variable {writer : WrapperWriter} {script later : Script} {scripts : List Script}
  {space : Option String} {tree : Tree} {location : Location}

theorem spared_clean (hfree : tree.LinkFree)
    (hapart : Tree.Apart (tree.place writer.directory) location) :
    Tree.Spared location tree (writer.clean tree).state := by
  rw [state_clean]
  split_ifs
  · exact hfree.spared_removeAll hapart
  · exact .refl location tree

theorem spared_deposit (hfree : tree.LinkFree) (hwraps : writer.Wraps script)
    (hapart : Tree.Apart (tree.place writer.directory) location)
    (hbypasses : tree.Bypasses writer.directory location) :
    Tree.Spared location tree (writer.deposit script later space tree).state.2 := by
  have hmade := hfree.spared_makeDirectories hbypasses
  cases hanswer : (writer.deposit script later space tree).answer with
  | error failure =>
      rw [state_of_deposit_eq_error hanswer]
      exact hmade
  | ok path =>
      obtain ⟨rfl, hwrite⟩ := write_of_deposit_eq_ok hanswer
      have hframe := Tree.frame_makeDirectories tree writer.directory
      refine hmade.trans (((hframe.linkFree hfree).wrote hwrite).spared ?_)
      rw [hframe.place, place_pathOf hwraps.consistent hwraps.isName]
      exact hapart.not_prefix (List.prefix_append _ _)

theorem spared_writeWrapper (hfree : tree.LinkFree) (hwraps : writer.Wraps script)
    (hapart : Tree.Apart (tree.place writer.directory) location)
    (hbypasses : tree.Bypasses writer.directory location) :
    Tree.Spared location tree (Pass.writeWrapper writer script tree).state.2 := by
  apply keeps_writeWrapper hwraps.consistent
  · exact .refl location tree
  · exact fun _ _ => spared_deposit hfree hwraps hapart hbypasses

theorem within_clean (hfree : tree.LinkFree) (way : Location → Prop) (writer : WrapperWriter) :
    Tree.Within (tree.place writer.directory <+: ·) way tree (writer.clean tree).state := by
  rw [state_clean]
  split_ifs
  · exact hfree.within_removeAll way writer.directory
  · exact .refl _ way tree

theorem within_deposit (hfree : tree.LinkFree) (hwraps : writer.Wraps script) :
    Tree.Within (tree.place writer.directory <+: ·) (tree.OnWay writer.directory) tree
      (writer.deposit script later space tree).state.2 := by
  have hmade := hfree.within_makeDirectories (tree.place writer.directory <+: ·) writer.directory
  cases hanswer : (writer.deposit script later space tree).answer with
  | error failure =>
      rw [state_of_deposit_eq_error hanswer]
      exact hmade
  | ok path =>
      obtain ⟨rfl, hwrite⟩ := write_of_deposit_eq_ok hanswer
      refine hmade.trans (((hmade.frame.linkFree hfree).wrote hwrite).within ?_)
      rw [hmade.frame.place, place_pathOf hwraps.consistent hwraps.isName]
      exact List.prefix_append _ _

theorem within_writeWrapper (hfree : tree.LinkFree) (hwraps : writer.Wraps script) :
    Tree.Within (tree.place writer.directory <+: ·) (tree.OnWay writer.directory) tree
      (Pass.writeWrapper writer script tree).state.2 := by
  apply keeps_writeWrapper hwraps.consistent
  · exact .refl _ _ tree
  · exact fun _ _ => within_deposit hfree hwraps

theorem spared_each (hfree : tree.LinkFree) (hscripts : ∀ script ∈ scripts, writer.Wraps script)
    (hapart : Tree.Apart (tree.place writer.directory) location)
    (hbypasses : scripts ≠ [] → tree.Bypasses writer.directory location) :
    Tree.Spared location tree (Script.each (Pass.writeWrapper writer) scripts tree).state.2 := by
  have hkeeps := @Script.each_keeps _ _ (Pass.writeWrapper writer) scripts tree (fun later =>
    Tree.Frame (tree.place writer.directory <+: ·) tree later ∧ Tree.Spared location tree later)
    ⟨.refl _ tree, .refl location tree⟩ ?_
  · exact hkeeps.2
  · rintro script hscript later ⟨hframe, hspared⟩
    have hwraps := hscripts script hscript
    have hlaterFree := hframe.linkFree hfree
    have hlaterApart : Tree.Apart (later.place writer.directory) location := by
      rwa [hframe.place]
    have hpast := (hbypasses (List.ne_nil_of_mem hscript)).of_spared hframe.home hspared
    have hstep := frame_writeWrapper hlaterFree hwraps.consistent hwraps.isName
    rw [hframe.place] at hstep
    exact ⟨hframe.trans hstep,
      hspared.trans (spared_writeWrapper hlaterFree hwraps hlaterApart hpast)⟩

end WrapperWriter

/-- Generating wrappers elsewhere, whether it succeeds or fails. -/
theorem Pass.spared_generate {pass : Pass} {scripts : List Script} {tree : Tree}
    {location : Location} (hfound : pass.scripts = some scripts) (hfree : tree.LinkFree)
    (hscripts : ∀ script ∈ scripts, pass.writer.Wraps script)
    (hapart : Tree.Apart (tree.place pass.writer.directory) location)
    (hbypasses : scripts ≠ [] → tree.Bypasses pass.writer.directory location) :
    Tree.Spared location tree (pass.generate tree).state.2 := by
  have hcleaned := WrapperWriter.spared_clean hfree hapart
  have hfind : (pass.find tree).answer = .ok scripts := by
    rw [find_of_scripts hfound]
    rfl
  cases hclean : (pass.writer.clean tree).answer with
  | error failure =>
      rw [(generate_of_uncleaned hfind hclean).2]
      exact hcleaned
  | ok done =>
      rw [(generate_of_cleaned hfind hclean).2]
      have hframe := pass.writer.frame_clean hfree
      refine hcleaned.trans (WrapperWriter.spared_each (hframe.linkFree hfree) hscripts ?_ ?_)
      · rwa [hframe.place]
      · exact fun hne => (hbypasses hne).of_spared hframe.home hcleaned

theorem Catalog.state_of_publish_eq_invalidId {catalog : Catalog} {directory : Path} {tree : Tree}
    {id : String} (h : (catalog.publish directory tree).answer = .error (.invalidId id)) :
    (catalog.publish directory tree).state = tree := by
  by_cases hpublishable : catalog.Publishable
  · exact absurd h (hpublishable.publish_ne_invalidId directory tree id)
  · obtain ⟨other, hrefused⟩ := publish_of_not_publishable hpublishable directory tree
    rw [hrefused, Outcome.state_error]

end ScriptPlugins
