import ScriptPlugins.Plugins.Pass
import ScriptPlugins.Proofs.Files.Frame
import ScriptPlugins.Proofs.Plugins.Round
import ScriptPlugins.Proofs.Source.Naming

/-!
# Writing wrappers

A class name that configuring accepts, with an extension that has no slash, names a file right in
the directory of the wrappers. So writing a wrapper changes nothing elsewhere, and in the directory
it is one file that is there afterwards. Another wrapper may take its place, but nothing takes it
away before the directory is cleaned again.
-/

namespace ScriptPlugins

open Text

theorem Identifier.ne_empty_of_isTypeName {name : String} (h : isTypeName name = true) :
    name ≠ "" := by
  rintro rfl
  cases h

theorem WrapperTemplate.isName_fileName (template : WrapperTemplate) {name : String}
    (hname : Identifier.isTypeName name = true) (hextension : '/' ∉ template.extension.toList) :
    Path.IsName (Utf8.ofString (template.fileName name)) := by
  have hslash : '/' ∉ name.toList :=
    Identifier.notMem_of_isTypeName hname (by decide) (by decide)
  have hdot : '.' ∉ name.toList :=
    Identifier.notMem_of_isTypeName hname (by decide) (by decide)
  have hne : name.toList ≠ [] := fun hnil =>
    Identifier.ne_empty_of_isTypeName hname (String.toList_inj.1 hnil)
  have htext : (template.fileName name).toList = name.toList ++ '.' :: template.extension.toList := by
    simp [fileName]
  rw [Path.isName_ofString_iff, htext]
  obtain ⟨first, rest, hfirst⟩ := List.exists_cons_of_ne_nil hne
  have hfirstDot : first ≠ '.' := by
    rintro rfl
    rw [hfirst] at hdot
    exact hdot List.mem_cons_self
  have hhead : ∀ text : String, text.toList.head? = some '.' → template.fileName name ≠ text := by
    rintro text hdot rfl
    rw [htext, hfirst] at hdot
    exact hfirstDot (Option.some.inj hdot)
  refine ⟨?_, ?_, hhead "." rfl, hhead ".." rfl⟩
  · intro hempty
    rw [hempty] at htext
    simp at htext
  · simp [hslash, hextension]

namespace WrapperWriter

variable {writer : WrapperWriter} {script later : Script} {scripts : List Script}
  {before tree after : Tree} {path : Path} {paths : List Path} {space : Option String}

def nameOf (writer : WrapperWriter) (script : Script) : Bytes :=
  Utf8.ofString (writer.template.fileName (Naming.wrapperClass script.stem))

def sourceOf (writer : WrapperWriter) (script : Script) (space : Option String) : Bytes :=
  Utf8.ofString (writer.template.render (Naming.wrapperClass script.stem)
    (Script.qualify space (Naming.compiledClass script.fileName)))

theorem sourceOf_ne_nil (writer : WrapperWriter) (script : Script) (space : Option String) :
    writer.sourceOf script space ≠ [] := by
  rw [sourceOf, WrapperTemplate.render, Utf8.ofString, String.toList_ofList, Utf8.encode_append]
  exact List.append_ne_nil_of_right_ne_nil _ (by decide)

theorem pathOf_eq (writer : WrapperWriter) (hscript : script.Consistent) :
    writer.pathOf script = writer.directory.join ⟨writer.nameOf script⟩ := by
  rw [pathOf, hscript.wrapperClass_eq]
  rfl

theorem pathOf_of_forget (hscript : script.Consistent) (hlater : later.Consistent)
    (h : later.forget = script.forget) : writer.pathOf later = writer.pathOf script := by
  rw [pathOf_eq writer hscript, pathOf_eq writer hlater, nameOf, nameOf,
    (Script.forget_eq_iff.1 h).2.2.1]

theorem nameOf_of_forget (h : later.forget = script.forget) :
    writer.nameOf later = writer.nameOf script := by
  rw [nameOf, nameOf, (Script.forget_eq_iff.1 h).2.2.1]

theorem place_pathOf (hscript : script.Consistent) (hname : Path.IsName (writer.nameOf script))
    (tree : Tree) :
    tree.place (writer.pathOf script) = tree.place writer.directory ++ [writer.nameOf script] := by
  rw [pathOf_eq writer hscript, Tree.place_join_name tree _ hname]

theorem state_clean (writer : WrapperWriter) (tree : Tree) :
    (writer.clean tree).state =
      if tree.exists writer.directory then (tree.removeAll writer.directory).2 else tree := by
  rw [clean]
  split_ifs
  · obtain ⟨answer, cleared⟩ := tree.removeAll writer.directory
    cases answer <;> rfl
  · rfl

theorem frame_clean (hfree : tree.LinkFree) (writer : WrapperWriter) :
    Tree.Frame (tree.place writer.directory <+: ·) tree (writer.clean tree).state := by
  rw [state_clean]
  split_ifs
  · exact hfree.frame_removeAll writer.directory
  · exact .refl _ tree

/-- What is left to do for a wrapper once the namespace of its script is known. -/
def deposit (writer : WrapperWriter) (script later : Script) (space : Option String)
    (tree : Tree) : Outcome (Script × Tree) Failure Path :=
  match tree.makeDirectories writer.directory with
  | (.error fault, made) => .error (.files writer.directory fault) (later, made) []
  | (.ok (), made) =>
    match made.write (writer.pathOf script) (writer.sourceOf script space) with
    | .error fault => .error (.files (writer.pathOf script) fault) (later, made) []
    | .ok after => .ok (writer.pathOf script) (later, after) [event "Generated script plugin wrapper"]

theorem write_of_spaceIn_eq_ok (writer : WrapperWriter) (hscript : script.Consistent)
    (hspace : script.spaceIn tree = .ok space) : ∃ later, script.Learnt space later ∧
      writer.write script tree = writer.deposit script later space tree := by
  have hclass := hscript.implementationClass_eq
  have hconsistent := hscript.implementationClass_snd
  have hforget := Script.forget_implementationClass script
  have hspace' := (Script.spaceIn_congr (Script.declared_implementationClass script) hforget
    tree).trans hspace
  obtain ⟨later, htype, hlearnt⟩ := hconsistent.compiledType_eq_ok hspace'
  have hlater : script.Learnt space later :=
    ⟨hlearnt.consistent, hlearnt.declared, hlearnt.forget.trans hforget⟩
  have hpath := @pathOf_of_forget writer _ _ hscript hlater.consistent hlater.forget
  refine ⟨later, hlater, ?_⟩
  rw [(Script.forget_eq_iff.1 hforget).2.1] at htype
  simp only [write, htype, hclass, hpath]
  rfl

theorem deposit_of_forget {other : Script} (hscript : script.Consistent)
    (hother : other.Consistent) (h : other.forget = script.forget) :
    writer.deposit other later space tree = writer.deposit script later space tree := by
  obtain ⟨-, hfileName, hstem, -, -⟩ := Script.forget_eq_iff.1 h
  rw [deposit, deposit, pathOf_of_forget hscript hother h, sourceOf, sourceOf, hfileName, hstem]

theorem state_fst_deposit : (writer.deposit script later space tree).state.1 = later := by
  rw [deposit]
  split
  · rfl
  · split <;> rfl

/-- What has been done for a wrapper, if it has been done: directories were made, then the file was
written. -/
theorem write_of_deposit_eq_ok (h : (writer.deposit script later space tree).answer = .ok path) :
    path = writer.pathOf script ∧
      (tree.makeDirectories writer.directory).2.write path (writer.sourceOf script space) =
        .ok (writer.deposit script later space tree).state.2 := by
  rw [deposit] at h ⊢
  cases hmade : tree.makeDirectories writer.directory with
  | mk answer made =>
      cases answer with
      | error fault => simp [hmade] at h
      | ok done =>
          cases hwrite : made.write (writer.pathOf script) (writer.sourceOf script space) with
          | error fault => simp [hmade, hwrite] at h
          | ok after =>
              obtain rfl : writer.pathOf script = path := by simpa [hmade, hwrite] using h
              refine ⟨rfl, ?_⟩
              simp only [hwrite, Outcome.state_ok]

/-- A wrapper that cannot be written may leave directories behind, but no more. -/
theorem state_of_deposit_eq_error {failure : Failure}
    (h : (writer.deposit script later space tree).answer = .error failure) :
    (writer.deposit script later space tree).state.2 =
      (tree.makeDirectories writer.directory).2 := by
  rw [deposit] at h ⊢
  cases hmade : tree.makeDirectories writer.directory with
  | mk answer made =>
      cases answer with
      | error fault => rfl
      | ok done =>
          cases hwrite : made.write (writer.pathOf script) (writer.sourceOf script space) with
          | error fault => simp only [hwrite, Outcome.state_error]
          | ok after => simp [hmade, hwrite] at h

theorem deposit_eq_ok (hfree : tree.LinkFree)
    (h : (writer.deposit script later space tree).answer = .ok path) :
    path = writer.pathOf script ∧ ∃ made, Tree.Frame Tree.nowhere tree made ∧
      made.Wrote path (writer.sourceOf script space)
        (writer.deposit script later space tree).state.2 := by
  obtain ⟨hpath, hwrite⟩ := write_of_deposit_eq_ok h
  have hmade := Tree.frame_makeDirectories tree writer.directory
  exact ⟨hpath, _, hmade, (hmade.linkFree hfree).wrote hwrite⟩

theorem deposit_eq_error {failure : Failure}
    (h : (writer.deposit script later space tree).answer = .error failure) :
    Tree.Frame Tree.nowhere tree (writer.deposit script later space tree).state.2 := by
  rw [state_of_deposit_eq_error h]
  exact Tree.frame_makeDirectories tree writer.directory

theorem frame_deposit (hfree : tree.LinkFree) (hscript : script.Consistent)
    (hname : Path.IsName (writer.nameOf script)) :
    Tree.Frame (tree.place writer.directory <+: ·) tree
      (writer.deposit script later space tree).state.2 := by
  cases hanswer : (writer.deposit script later space tree).answer with
  | error failure => exact (deposit_eq_error hanswer).of_nowhere
  | ok path =>
      obtain ⟨rfl, made, hmake, hwrote⟩ := deposit_eq_ok hfree hanswer
      refine hmake.of_nowhere.trans (hwrote.frame.mono ?_)
      rintro location rfl
      rw [hmake.place, place_pathOf hscript hname]
      exact List.prefix_append _ _

theorem grows_deposit (hfree : tree.LinkFree) :
    tree.Grows (writer.deposit script later space tree).state.2 := by
  cases hanswer : (writer.deposit script later space tree).answer with
  | error failure => exact (deposit_eq_error hanswer).grows
  | ok path =>
      obtain ⟨-, made, hmake, hwrote⟩ := deposit_eq_ok hfree hanswer
      exact hmake.grows.trans hwrote.grows

theorem writeWrapper_of_spaceIn_eq_ok (writer : WrapperWriter) (hscript : script.Consistent)
    (hspace : script.spaceIn tree = .ok space) : ∃ later, script.Learnt space later ∧
      (Pass.writeWrapper writer script tree).answer =
        (writer.deposit script later space tree).answer ∧
      (Pass.writeWrapper writer script tree).state =
        (writer.deposit script later space tree).state := by
  obtain ⟨typed, htype, htyped⟩ := hscript.compiledType_eq_ok hspace
  obtain ⟨later, hlater, hwrite⟩ :=
    writer.write_of_spaceIn_eq_ok htyped.consistent (htyped.spaceIn tree)
  rw [deposit_of_forget hscript htyped.consistent htyped.forget] at hwrite
  refine ⟨later, htyped.trans hlater, ?_, ?_⟩
  · rw [Pass.writeWrapper, htype, ← hwrite]
  · rw [Pass.writeWrapper, htype, ← hwrite]

theorem writeWrapper_of_spaceIn_eq_error (writer : WrapperWriter) {failure : Failure}
    (hscript : script.Consistent) (hspace : script.spaceIn tree = .error failure) :
    Pass.writeWrapper writer script tree = .error failure (script, tree) [] := by
  rw [Pass.writeWrapper, hscript.compiledType_eq_error hspace]

/-- What depositing keeps is kept, whether the script can be read or not. -/
theorem keeps_writeWrapper {P : Tree → Prop} (hscript : script.Consistent) (hstart : P tree)
    (hdeposit : ∀ later space, P (writer.deposit script later space tree).state.2) :
    P (Pass.writeWrapper writer script tree).state.2 := by
  cases hspace : script.spaceIn tree with
  | error failure =>
      rw [writer.writeWrapper_of_spaceIn_eq_error hscript hspace]
      exact hstart
  | ok space =>
      obtain ⟨later, -, -, hstate⟩ := writer.writeWrapper_of_spaceIn_eq_ok hscript hspace
      rw [hstate]
      exact hdeposit later space

theorem frame_writeWrapper (hfree : tree.LinkFree) (hscript : script.Consistent)
    (hname : Path.IsName (writer.nameOf script)) :
    Tree.Frame (tree.place writer.directory <+: ·) tree
      (Pass.writeWrapper writer script tree).state.2 := by
  apply keeps_writeWrapper hscript
  · exact .refl _ tree
  · exact fun _ _ => frame_deposit hfree hscript hname

theorem grows_writeWrapper (hfree : tree.LinkFree) (hscript : script.Consistent) :
    tree.Grows (Pass.writeWrapper writer script tree).state.2 := by
  apply keeps_writeWrapper hscript
  · exact .refl tree
  · exact fun _ _ => grows_deposit hfree

theorem writeWrapper_eq_ok (hfree : tree.LinkFree) (hscript : script.Consistent)
    (h : (Pass.writeWrapper writer script tree).answer = .ok path) :
    path = writer.pathOf script ∧ ∃ space made, script.spaceIn tree = .ok space ∧
      script.Learnt space (Pass.writeWrapper writer script tree).state.1 ∧
      Tree.Frame Tree.nowhere tree made ∧
      made.Wrote path (writer.sourceOf script space)
        (Pass.writeWrapper writer script tree).state.2 := by
  cases hspace : script.spaceIn tree with
  | error failure =>
      rw [writer.writeWrapper_of_spaceIn_eq_error hscript hspace] at h
      cases h
  | ok space =>
      obtain ⟨later, hlearnt, hanswer, hstate⟩ :=
        writer.writeWrapper_of_spaceIn_eq_ok hscript hspace
      obtain ⟨hpath, made, hmade, hwrote⟩ := deposit_eq_ok hfree (hanswer.symm.trans h)
      refine ⟨hpath, space, made, rfl, ?_, hmade, ?_⟩
      · rw [hstate, state_fst_deposit]
        exact hlearnt
      · rw [hstate]
        exact hwrote

/-- A script whose wrapper has a place of its own in the directory of the wrappers. -/
structure Wraps (writer : WrapperWriter) (script : Script) : Prop where
  consistent : script.Consistent
  isName : Path.IsName (writer.nameOf script)

theorem wraps_of_isTypeName (hscript : script.Consistent)
    (hname : Identifier.isTypeName script.wrapperClass = true)
    (hextension : '/' ∉ writer.template.extension.toList) : writer.Wraps script := by
  rw [hscript.wrapperClass_eq] at hname
  exact ⟨hscript, writer.template.isName_fileName hname hextension⟩

theorem frame_each (hfree : tree.LinkFree) (hscripts : ∀ script ∈ scripts, writer.Wraps script) :
    Tree.Frame (tree.place writer.directory <+: ·) tree
      (Script.each (Pass.writeWrapper writer) scripts tree).state.2 := by
  refine Script.each_keeps (.refl _ tree) ?_
  intro script hscript later hlater
  have hstep := frame_writeWrapper (hlater.linkFree hfree) (hscripts script hscript).consistent
    (hscripts script hscript).isName
  rw [hlater.place] at hstep
  exact hlater.trans hstep

theorem grows_each (hfree : tree.LinkFree) (hscripts : ∀ script ∈ scripts, writer.Wraps script) :
    tree.Grows (Script.each (Pass.writeWrapper writer) scripts tree).state.2 := by
  have hkeeps : tree.Grows (Script.each (Pass.writeWrapper writer) scripts tree).state.2 ∧
      (Script.each (Pass.writeWrapper writer) scripts tree).state.2.LinkFree := by
    refine @Script.each_keeps _ _ _ _ _ (fun later => tree.Grows later ∧ later.LinkFree)
      ⟨.refl tree, hfree⟩ ?_
    rintro script hscript later ⟨hgrows, hlater⟩
    have hstep := frame_writeWrapper hlater (hscripts script hscript).consistent
      (hscripts script hscript).isName
    exact ⟨hgrows.trans (grows_writeWrapper hlater (hscripts script hscript).consistent),
      hstep.linkFree hlater⟩
  exact hkeeps.1

/-- Every script has found out its namespace, in a tree that differs from the first one only in the
wrappers. -/
theorem learnt_each (hfree : tree.LinkFree) (hscripts : ∀ script ∈ scripts, writer.Wraps script)
    (h : (Script.each (Pass.writeWrapper writer) scripts tree).answer = .ok paths) :
    List.Forall₂ (fun script later => ∃ seen space,
        Tree.Frame (tree.place writer.directory <+: ·) tree seen ∧
          script.spaceIn seen = .ok space ∧ script.Learnt space later)
      scripts (Script.each (Pass.writeWrapper writer) scripts tree).state.1 := by
  induction scripts generalizing tree paths with
  | nil => exact .nil
  | cons script rest ih =>
      obtain ⟨path, others, hfirst, hrest, -⟩ := Script.each_cons_eq_ok_iff.1 h
      have hwraps := hscripts script List.mem_cons_self
      have hframe := frame_writeWrapper hfree hwraps.consistent hwraps.isName
      obtain ⟨-, space, made, hspace, hlearnt, -⟩ :=
        writeWrapper_eq_ok hfree hwraps.consistent hfirst
      rw [Script.state_each_cons hfirst]
      refine .cons ⟨tree, space, .refl _ tree, hspace, hlearnt⟩ ?_
      have hlater := ih (hframe.linkFree hfree)
        (fun other hother => hscripts other (List.mem_cons_of_mem _ hother)) hrest
      refine hlater.imp ?_
      rintro other last ⟨seen, found, hseen, hfound, hlast⟩
      rw [hframe.place] at hseen
      exact ⟨seen, found, hframe.trans hseen, hfound, hlast⟩

theorem find_each (hfree : tree.LinkFree) (hscripts : ∀ script ∈ scripts, writer.Wraps script)
    (h : (Script.each (Pass.writeWrapper writer) scripts tree).answer = .ok paths) :
    ∀ script ∈ scripts, ∃ contents,
      (Script.each (Pass.writeWrapper writer) scripts tree).state.2.find (writer.pathOf script) =
        .ok (tree.place writer.directory ++ [writer.nameOf script], .file contents) := by
  induction scripts generalizing tree paths with
  | nil => nofun
  | cons script rest ih =>
      obtain ⟨path, others, hfirst, hrest, -⟩ := Script.each_cons_eq_ok_iff.1 h
      have hwraps := hscripts script List.mem_cons_self
      have hothers : ∀ other ∈ rest, writer.Wraps other := fun other hother =>
        hscripts other (List.mem_cons_of_mem _ hother)
      have hframe := frame_writeWrapper hfree hwraps.consistent hwraps.isName
      have hlaterFree := hframe.linkFree hfree
      rw [Script.state_each_cons hfirst]
      intro other hother
      rcases List.mem_cons.1 hother with rfl | hother
      · obtain ⟨rfl, space, made, -, -, hmade, hwrote⟩ :=
          writeWrapper_eq_ok hfree hwraps.consistent hfirst
        have hfind := hwrote.find (hmade.linkFree hfree)
        rw [hmade.place, place_pathOf hwraps.consistent hwraps.isName] at hfind
        have hgrows := @grows_each writer rest _ hlaterFree hothers
        have hentry := (Tree.find_eq_ok_iff.1 hfind).2
        obtain ⟨contents, hcontents⟩ := hgrows.file _ _ hentry
        exact ⟨contents, hlaterFree.find_grows
          ((frame_each hlaterFree hothers).linkFree hlaterFree) hgrows hfind hcontents⟩
      · obtain ⟨contents, hcontents⟩ := ih hlaterFree hothers hrest other hother
        rw [hframe.place] at hcontents
        exact ⟨contents, hcontents⟩

end WrapperWriter

end ScriptPlugins
