import ScriptPlugins.Proofs.Files.Steady
import ScriptPlugins.Proofs.Plugins.Configuring

/-!
# Wrappers that stand

When generating has succeeded, there is something at the path of every wrapper, whatever links the
tree has and whatever the extension of the wrappers does to their paths. The wrappers are removed
before the first is written, and from then on nothing is taken away.
-/

namespace ScriptPlugins

open Text

namespace WrapperWriter

variable {writer : WrapperWriter} {script later : Script} {scripts : List Script}
  {tree after : Tree} {space : Option String} {path : Path} {paths : List Path} {location : Location}
  {contents : Bytes}

theorem Wraps.of_kept (h : writer.Wraps script) (hlater : Script.Kept script later) :
    writer.Wraps later := by
  refine ⟨hlater.consistent, ?_⟩
  rw [nameOf_of_forget hlater.forget]
  exact h.isName

theorem map_pathOf_of_forall₂_kept {laters : List Script}
    (hscripts : ∀ script ∈ scripts, script.Consistent)
    (h : List.Forall₂ Script.Kept scripts laters) :
    laters.map writer.pathOf = scripts.map writer.pathOf := by
  induction h with
  | nil => rfl
  | cons hkept _ ih =>
      rw [List.map_cons, List.map_cons,
        pathOf_of_forget (hscripts _ List.mem_cons_self) hkept.consistent hkept.forget,
        ih fun other hother => hscripts other (List.mem_cons_of_mem _ hother)]

theorem steady_deposit (writer : WrapperWriter) (script later : Script) (space : Option String)
    (tree : Tree) : tree.Steady (writer.deposit script later space tree).state.2 := by
  have hmake := Tree.steady_makeDirectories tree writer.directory
  rw [deposit]
  rcases hmade : tree.makeDirectories writer.directory with ⟨answer, made⟩
  rw [hmade] at hmake
  cases answer with
  | error fault => exact hmake
  | ok done =>
      cases hwrite : made.write (writer.pathOf script) (writer.sourceOf script space) with
      | error fault => simpa only [hwrite, Outcome.state_error] using hmake
      | ok after => simpa only [hwrite, Outcome.state_ok] using hmake.trans (Tree.steady_write hwrite)

theorem find_deposit (h : (writer.deposit script later space tree).answer = .ok path) :
    ∃ location, (writer.deposit script later space tree).state.2.find (writer.pathOf script) =
      .ok (location, .file (writer.sourceOf script space)) := by
  obtain ⟨rfl, hwrite⟩ := write_of_deposit_eq_ok h
  obtain ⟨location, hlocate, hdirectory, -, hafter⟩ := Tree.write_eq_ok hwrite
  refine ⟨location, Tree.find_eq_ok_iff.2 ⟨(Tree.steady_write hwrite).locate hlocate, ?_⟩⟩
  rw [hafter, Tree.get?_put _ (Tree.ne_nil_of_get? hdirectory), if_pos rfl]

/-- A file stays as it is unless the path of the wrapper leads to it. -/
theorem get?_deposit (hentry : tree.get? location = some (.file contents))
    (haside : (writer.deposit script later space tree).state.2.locate (writer.pathOf script) ≠
      .ok location) :
    (writer.deposit script later space tree).state.2.get? location = some (.file contents) := by
  cases hanswer : (writer.deposit script later space tree).answer with
  | error failure => exact (deposit_eq_error hanswer).get?_of_some id hentry
  | ok path =>
      obtain ⟨rfl, hwrite⟩ := write_of_deposit_eq_ok hanswer
      obtain ⟨there, hlocate, hdirectory, -, hafter⟩ := Tree.write_eq_ok hwrite
      have hne : location ≠ there := by
        rintro rfl
        exact haside ((Tree.steady_write hwrite).locate hlocate)
      rw [hafter, Tree.get?_put _ (Tree.ne_nil_of_get? hdirectory), if_neg hne]
      exact (Tree.frame_makeDirectories tree writer.directory).get?_of_some id hentry

theorem steady_writeWrapper (writer : WrapperWriter) (hscript : script.Consistent) (tree : Tree) :
    tree.Steady (Pass.writeWrapper writer script tree).state.2 := by
  apply keeps_writeWrapper hscript
  · exact .refl tree
  · exact fun later space => steady_deposit writer script later space tree

theorem find_writeWrapper (hscript : script.Consistent)
    (h : (Pass.writeWrapper writer script tree).answer = .ok path) :
    path = writer.pathOf script ∧ ∃ space location,
      script.Learnt space (Pass.writeWrapper writer script tree).state.1 ∧
      (Pass.writeWrapper writer script tree).state.2.find (writer.pathOf script) =
        .ok (location, .file (writer.sourceOf script space)) := by
  cases hspace : script.spaceIn tree with
  | error failure =>
      rw [writer.writeWrapper_of_spaceIn_eq_error hscript hspace] at h
      cases h
  | ok space =>
      obtain ⟨later, hlearnt, hanswer, hstate⟩ :=
        writer.writeWrapper_of_spaceIn_eq_ok hscript hspace
      rw [hanswer] at h
      rw [hstate, state_fst_deposit]
      obtain ⟨location, hfind⟩ := find_deposit h
      exact ⟨(write_of_deposit_eq_ok h).1, space, location, hlearnt, hfind⟩

theorem get?_writeWrapper (hscript : script.Consistent)
    (hentry : tree.get? location = some (.file contents))
    (haside : (Pass.writeWrapper writer script tree).state.2.locate (writer.pathOf script) ≠
      .ok location) :
    (Pass.writeWrapper writer script tree).state.2.get? location = some (.file contents) := by
  cases hspace : script.spaceIn tree with
  | error failure =>
      rw [writer.writeWrapper_of_spaceIn_eq_error hscript hspace]
      exact hentry
  | ok space =>
      obtain ⟨later, -, -, hstate⟩ := writer.writeWrapper_of_spaceIn_eq_ok hscript hspace
      rw [hstate] at haside ⊢
      exact get?_deposit hentry haside

theorem steady_each (hscripts : ∀ script ∈ scripts, script.Consistent) (tree : Tree) :
    tree.Steady (Script.each (Pass.writeWrapper writer) scripts tree).state.2 := by
  refine Script.each_keeps (.refl tree) ?_
  intro script hscript later hlater
  exact hlater.trans (writer.steady_writeWrapper (hscripts script hscript) later)

theorem get?_each (hscripts : ∀ script ∈ scripts, script.Consistent)
    (hentry : tree.get? location = some (.file contents))
    (haside : ∀ script ∈ scripts, (Script.each (Pass.writeWrapper writer) scripts
      tree).state.2.locate (writer.pathOf script) ≠ .ok location) :
    (Script.each (Pass.writeWrapper writer) scripts tree).state.2.get? location =
      some (.file contents) := by
  induction scripts generalizing tree with
  | nil => exact hentry
  | cons script rest ih =>
      have hscript := hscripts script List.mem_cons_self
      have hrest : ∀ other ∈ rest, other.Consistent := fun other hother =>
        hscripts other (List.mem_cons_of_mem _ hother)
      have hfirst := haside script List.mem_cons_self
      have hothers := fun other hother => haside other (List.mem_cons_of_mem script hother)
      rw [Script.each] at hfirst hothers ⊢
      cases hanswer : (Pass.writeWrapper writer script tree).answer with
      | error failure =>
          simp only [hanswer] at hfirst ⊢
          exact get?_writeWrapper hscript hentry hfirst
      | ok path =>
          simp only [hanswer] at hfirst hothers ⊢
          refine ih hrest (get?_writeWrapper hscript hentry ?_) hothers
          -- where the path leads now it still leads at the end
          intro hlocate
          exact hfirst ((steady_each hrest _).locate hlocate)

theorem map_pathOf_each (hscripts : ∀ script ∈ scripts, script.Consistent) :
    (Script.each (Pass.writeWrapper writer) scripts tree).state.1.map writer.pathOf =
      scripts.map writer.pathOf := by
  have hkept := Script.forall₂_kept_each
    (fun _ tree hscript => Script.becomes_writeWrapper writer hscript tree) hscripts tree
  exact map_pathOf_of_forall₂_kept hscripts hkept

/-- The path of a script's wrapper, and the source, for the namespace that the script has found. -/
def fileOf (writer : WrapperWriter) (script : Script) : Path × Bytes :=
  (writer.pathOf script, writer.sourceOf script script.knownSpace)

theorem fileOf_of_learnt (hscript : script.Consistent) (h : script.Learnt space later) :
    writer.fileOf later = (writer.pathOf script, writer.sourceOf script space) := by
  obtain ⟨-, hfileName, hstem, -, -⟩ := Script.forget_eq_iff.1 h.forget
  rw [fileOf, pathOf_of_forget hscript h.consistent h.forget, sourceOf, sourceOf, hfileName, hstem,
    h.knownSpace]

/-- A wrapper stands at its path unless the path of a later one leads to the same place. -/
theorem find_of_each {laters : List Script} {front back : List (Path × Bytes)}
    (hscripts : ∀ script ∈ scripts, script.Consistent)
    (h : (Script.each (Pass.writeWrapper writer) scripts tree).Yields paths (laters, after))
    (hfiles : laters.map writer.fileOf = front ++ (path, contents) :: back)
    (haside : ∀ other ∈ back, after.locate other.1 ≠ after.locate path) :
    ∃ location, after.find path = .ok (location, .file contents) := by
  induction scripts generalizing tree paths laters front with
  | nil =>
      obtain ⟨rfl, -⟩ := Prod.mk.inj h.state
      simp at hfiles
  | cons script rest ih =>
      obtain ⟨_, others, hfirst, hrest, -⟩ := Script.each_cons_eq_ok_iff.1 h.answer
      have hscript := hscripts script List.mem_cons_self
      have hothers : ∀ other ∈ rest, other.Consistent := fun other hother =>
        hscripts other (List.mem_cons_of_mem _ hother)
      obtain ⟨rfl, rfl⟩ := Prod.mk.inj ((Script.state_each_cons hfirst).symm.trans h.state)
      cases front with
      | cons first front => exact ih hothers ⟨hrest, rfl⟩ (List.cons.inj hfiles).2
      | nil =>
          obtain ⟨hfile, rfl⟩ := List.cons.inj hfiles
          obtain ⟨-, space, location, hlearnt, hfind⟩ := find_writeWrapper hscript hfirst
          rw [fileOf_of_learnt hscript hlearnt] at hfile
          obtain ⟨rfl, rfl⟩ := Prod.mk.inj hfile
          obtain ⟨hlocate, hentry⟩ := Tree.find_eq_ok_iff.1 hfind
          have hlater := (@steady_each writer rest hothers _).locate hlocate
          refine ⟨location, Tree.find_eq_ok_iff.2 ⟨hlater, get?_each hothers hentry ?_⟩⟩
          intro other hother hsame
          have hpath : writer.pathOf other ∈ rest.map writer.pathOf := List.mem_map_of_mem hother
          rw [← map_pathOf_each hothers, List.mem_map] at hpath
          obtain ⟨known, hknown, hpath⟩ := hpath
          refine haside (writer.fileOf known) (List.mem_map_of_mem hknown) ?_
          rw [hlater, ← hsame, ← hpath, fileOf]

/-- Once all wrappers have been written, each path leads to a wrapper, its own or a later one. -/
theorem find_wrapper_each (hscripts : ∀ script ∈ scripts, script.Consistent)
    (h : (Script.each (Pass.writeWrapper writer) scripts tree).answer = .ok paths) :
    ∀ script ∈ scripts, ∃ location other space,
      (Script.each (Pass.writeWrapper writer) scripts tree).state.2.find (writer.pathOf script) =
        .ok (location, .file (writer.sourceOf other space)) := by
  induction scripts generalizing tree paths with
  | nil => nofun
  | cons script rest ih =>
      obtain ⟨path, others, hfirst, hrest, -⟩ := Script.each_cons_eq_ok_iff.1 h
      have hothers : ∀ other ∈ rest, other.Consistent := fun other hother =>
        hscripts other (List.mem_cons_of_mem _ hother)
      rw [Script.state_each_cons hfirst]
      intro other hother
      rcases List.mem_cons.1 hother with rfl | hother
      · obtain ⟨-, space, location, -, hfind⟩ :=
          find_writeWrapper (hscripts other List.mem_cons_self) hfirst
        obtain ⟨hlocate, hentry⟩ := Tree.find_eq_ok_iff.1 hfind
        have hlater := (@steady_each writer rest hothers _).locate hlocate
        by_cases haside : ∀ later ∈ rest, (Script.each (Pass.writeWrapper writer) rest
            (Pass.writeWrapper writer other tree).state.2).state.2.locate (writer.pathOf later) ≠
              .ok location
        · exact ⟨location, other, space,
            Tree.find_eq_ok_iff.2 ⟨hlater, get?_each hothers hentry haside⟩⟩
        · -- a later wrapper goes to the same place, and that is one of those written after the first
          simp only [not_forall, not_not] at haside
          obtain ⟨later, hmem, hsame⟩ := haside
          obtain ⟨there, written, kept, hwritten⟩ := ih hothers hrest later hmem
          obtain ⟨hthere, hfile⟩ := Tree.find_eq_ok_iff.1 hwritten
          obtain rfl := Except.ok.inj (hthere.symm.trans hsame)
          exact ⟨there, written, kept, Tree.find_eq_ok_iff.2 ⟨hlater, hfile⟩⟩
      · exact ih hothers hrest other hother

end WrapperWriter

namespace Pass

variable {pass later : Pass} {scripts : List Script} {tree after : Tree} {paths : List Path}

theorem wrapperPaths_of_scripts (hfound : pass.scripts = some scripts) (tree : Tree) :
    (pass.wrapperPaths tree).answer = .ok (scripts.map pass.writer.pathOf) := by
  rw [wrapperPaths, find_of_scripts hfound]
  rfl

/-- After generating, every path that is a wrapper's leads to something. -/
theorem exists_wrappers_of_generate (hsound : pass.Sound) (hfound : pass.scripts = some scripts)
    (h : (pass.generate tree).Yields paths (later, after)) :
    ∃ wrappers, (later.wrapperPaths after).answer = .ok wrappers ∧
      ∀ wrapper ∈ wrappers, after.exists wrapper = true := by
  obtain ⟨cleaned, -, hanswer, rfl, rfl⟩ := generate_yields hfound h
  have hconsistent := hsound.consistent hfound
  have hpaths := @WrapperWriter.map_pathOf_each pass.writer _ cleaned hconsistent
  refine ⟨_, wrapperPaths_of_scripts rfl _, ?_⟩
  intro wrapper hwrapper
  change wrapper ∈ List.map pass.writer.pathOf _ at hwrapper
  rw [hpaths] at hwrapper
  obtain ⟨script, hscript, rfl⟩ := List.mem_map.1 hwrapper
  obtain ⟨location, other, space, hfind⟩ :=
    WrapperWriter.find_wrapper_each hconsistent hanswer script hscript
  rw [Tree.exists, hfind]
  rfl

end Pass

end ScriptPlugins
