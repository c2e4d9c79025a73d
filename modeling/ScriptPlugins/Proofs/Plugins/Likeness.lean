import ScriptPlugins.Proofs.Files.Likeness
import ScriptPlugins.Proofs.Plugins.Wrapping

/-!
# Writing in trees that look alike

A run over scripts sees of a tree only what paths lead to. So in trees that look alike it comes to the
same answer, the scripts learn the same, and the trees that it leaves look alike again.
-/

namespace ScriptPlugins

open Text

/-- Two actions that answer the same and leave the same, in trees that look alike. -/
structure Outcome.Like {σ ε α : Type} (first second : Outcome (σ × Tree) ε α) : Prop where
  answer : second.answer = first.answer
  state : second.state.1 = first.state.1
  tree : first.state.2.Alike second.state.2

namespace Script

variable {first second : Tree} {α : Type}

theorem compiledType_of_alike (h : first.Alike second) (script : Script) :
    script.compiledType second = script.compiledType first := by
  have hload : script.load second = script.load first := by rw [load, load, h.readText]
  rw [compiledType, compiledType, qualified, qualified, namespace?, namespace?, hload]

theorem like_each {act : Script → Tree → Outcome (Script × Tree) Failure α}
    (hact : ∀ script first second, first.Alike second → (act script first).Like (act script second))
    (scripts : List Script) (h : first.Alike second) :
    (each act scripts first).Like (each act scripts second) := by
  induction scripts generalizing first second with
  | nil => exact ⟨rfl, rfl, h⟩
  | cons script rest ih =>
      obtain ⟨hanswer, hscript, htree⟩ := hact script first second h
      rw [each, each]
      simp only [hanswer, hscript]
      cases (act script first).answer with
      | error failure => exact ⟨rfl, rfl, htree⟩
      | ok answer =>
          obtain ⟨hothers, hscripts, hafter⟩ := ih htree
          exact ⟨congrArg (Except.map (answer :: ·)) hothers,
            congrArg ((act script first).state.1 :: ·) hscripts, hafter⟩

end Script

namespace WrapperWriter

variable {first second : Tree}

theorem like_write (writer : WrapperWriter) (script : Script) (h : first.Alike second) :
    (writer.write script first).Like (writer.write script second) := by
  obtain ⟨hanswer, hmade⟩ := h.makeDirectories writer.directory
  simp only [write, Script.compiledType_of_alike h]
  cases script.implementationClass.2.compiledType first with
  | error failure => exact ⟨rfl, rfl, h⟩
  | ok typed =>
      obtain ⟨name, later⟩ := typed
      rcases hleft : first.makeDirectories writer.directory with ⟨answer, made⟩
      rcases hright : second.makeDirectories writer.directory with ⟨answer', made'⟩
      rw [hleft, hright] at hanswer hmade
      obtain rfl : answer' = answer := hanswer
      cases answer' with
      | error fault => exact ⟨rfl, rfl, hmade⟩
      | ok done =>
          have hwrite := hmade.write (writer.pathOf later)
            (Utf8.ofString (writer.template.render script.implementationClass.1 name))
          simp only
          generalize made.write _ _ = left, made'.write _ _ = right at hwrite ⊢
          cases hwrite with
          | ok hafter => exact ⟨rfl, rfl, hafter⟩
          | error fault => exact ⟨rfl, rfl, hmade⟩

theorem like_writeWrapper (writer : WrapperWriter) (script : Script) (h : first.Alike second) :
    (Pass.writeWrapper writer script first).Like (Pass.writeWrapper writer script second) := by
  rw [Pass.writeWrapper, Pass.writeWrapper, Script.compiledType_of_alike h]
  cases script.compiledType first with
  | error failure => exact ⟨rfl, rfl, h⟩
  | ok typed =>
      obtain ⟨hanswer, hscript, htree⟩ := writer.like_write typed.2 h
      exact ⟨hanswer, hscript, htree⟩

end WrapperWriter

end ScriptPlugins
