import ScriptPlugins.Proofs.Files.Steady
import ScriptPlugins.Proofs.Plugins.Publishable
import ScriptPlugins.Proofs.Plugins.Wrapping
import ScriptPlugins.Proofs.Source.Qualified
import ScriptPlugins.Proofs.Text.Lines

/-!
# What wrappers say

The names that go into a wrapper stand between texts of the template in their lines, so no line is
blank, starts with more blanks than it should or ends in a carriage return because of them. As long
as none of them has a line feed, a rendered wrapper is the template with the names filled in and
nothing else, and they can be read off its lines.

No line feed gets into the names of a script whose class is valid: the scanner takes none into a
namespace, and the legal form of a file name has none.
-/

namespace ScriptPlugins

open Text

namespace WrapperTemplate

variable {template : WrapperTemplate}
  {context className compiledType className' compiledType' : String}

/-- A text without a line feed. -/
def OneLine (text : String) : Prop :=
  '\n' ∉ text.toList

instance (text : String) : Decidable (OneLine text) :=
  inferInstanceAs (Decidable ('\n' ∉ text.toList))

/-- The lines of a wrapper. -/
def sourceLines (context className compiledType : String) : List String :=
  ["class " ++ className ++ " : org.gradle.api.Plugin<" ++ context ++ "> \x7b",
   "    override fun apply(target: " ++ context ++ ") \x7b",
   "        Class",
   "            .forName(\"" ++ compiledType ++ "\")",
   "            .getDeclaredConstructor(" ++ context ++ "::class.java)",
   "            .newInstance(target)",
   "    \x7d",
   "\x7d"]

/-- The source of a wrapper: its lines, each ended by a line feed. -/
def source (context className compiledType : String) : String :=
  String.join ((sourceLines context className compiledType).map (· ++ "\n"))

/-- The lines of the template, each indented by its depth. -/
def layout (template : WrapperTemplate) (className compiledType : String) : List (List Char) :=
  (template.body className compiledType).map fun item => indent item.1 ++ item.2.toList

theorem indent_add (depth more : Nat) : indent (depth + more) = indent depth ++ indent more := by
  rw [indent, indent, indent, List.replicate_append_replicate, Nat.mul_add]

theorem feed_notMem_indent (depth : Nat) : '\n' ∉ indent depth := by
  rw [indent, List.mem_replicate]
  rintro ⟨-, heq⟩
  exact absurd heq (by decide)

theorem isBlankLine_indent (depth : Nat) : isBlankLine (indent depth) = true := by
  rw [isBlankLine, indent, List.all_replicate]
  simp [isBlank]

theorem isBlockLine_body (hcontext : OneLine template.contextType)
    (hclass : OneLine className) (htype : OneLine compiledType) :
    ∀ item ∈ template.body className compiledType, IsBlockLine item.2.toList := by
  intro item hitem
  simp only [body, List.mem_cons, List.not_mem_nil, or_false] at hitem
  rw [OneLine] at hcontext hclass htype
  -- each line starts and ends with text of the template, whatever stands between
  rcases hitem with rfl | rfl | rfl | rfl | rfl | rfl | rfl | rfl
  all_goals
    constructor
    · simp [hcontext, hclass, htype, pluginContract]
    · simp [pluginContract, List.getLast?_cons, List.getLast?_append]
    · simp [pluginContract, isBlankLine, isBlank]

theorem isBlockLine_layout (hcontext : OneLine template.contextType)
    (hclass : OneLine className) (htype : OneLine compiledType) :
    ∀ line ∈ template.layout className compiledType, IsBlockLine line := by
  intro line hline
  obtain ⟨item, hitem, rfl⟩ := List.mem_map.1 hline
  exact (isBlockLine_body hcontext hclass htype item hitem).indented (feed_notMem_indent _)
    (isBlankLine_indent _)

theorem toList_render (hcontext : OneLine template.contextType)
    (hclass : OneLine className) (htype : OneLine compiledType) :
    (template.render className compiledType).toList =
      join '\n' (template.layout className compiledType) ++ ['\n'] := by
  have hblock : (template.body className compiledType).map
      (fun item => indent (blockDepth + item.1) ++ item.2.toList) =
      (template.layout className compiledType).map (indent blockDepth ++ ·) := by
    rw [layout, List.map_map]
    refine List.map_congr_left fun item _ => ?_
    rw [Function.comp_apply, indent_add, List.append_assoc]
  have hflush : ∃ line ∈ template.layout className compiledType, indentOf line = 0 :=
    ⟨_, List.mem_cons_self, by simp [indent, indentOf, isBlank]⟩
  have htrim := trimIndent_block (feed_notMem_indent blockDepth) (isBlankLine_indent blockDepth)
    (isBlockLine_layout hcontext hclass htype) (by decide) hflush
  rw [render, String.toList_ofList, hblock, ← htrim]
  rfl

theorem map_sourceLines (template : WrapperTemplate) (className compiledType : String) :
    (sourceLines template.contextType className compiledType).map String.toList =
      template.layout className compiledType := by
  simp [sourceLines, layout, body, indent, pluginContract, List.replicate]

theorem map_sourceLines_ne_nil (context className compiledType : String) :
    (sourceLines context className compiledType).map String.toList ≠ [] :=
  List.cons_ne_nil _ _

theorem toList_source (context className compiledType : String) :
    (source context className compiledType).toList =
      join '\n' ((sourceLines context className compiledType).map String.toList) ++ ['\n'] := by
  rw [← flatMap_ended _ (map_sourceLines_ne_nil _ _ _)]
  simp [source, String.toList_join, List.flatMap_map]

theorem render_eq_source (hcontext : OneLine template.contextType)
    (hclass : OneLine className) (htype : OneLine compiledType) :
    template.render className compiledType =
      source template.contextType className compiledType := by
  rw [← String.toList_inj, toList_render hcontext hclass htype, toList_source, map_sourceLines]

theorem pieces_source (hcontext : OneLine context) (hclass : OneLine className)
    (htype : OneLine compiledType) :
    pieces '\n' (source context className compiledType).toList =
      (sourceLines context className compiledType).map String.toList ++ [[]] := by
  have hfeed : ∀ line ∈ (sourceLines context className compiledType).map String.toList,
      '\n' ∉ line := by
    rw [map_sourceLines ⟨context, defaultExtension⟩]
    exact fun line hline => (isBlockLine_layout hcontext hclass htype line hline).noFeed
  rw [toList_source, pieces_append, pieces_join '\n' (map_sourceLines_ne_nil _ _ _) hfeed]
  rfl

theorem source_injective (hcontext : OneLine context) (hclass : OneLine className)
    (htype : OneLine compiledType) (hclass' : OneLine className') (htype' : OneLine compiledType')
    (h : source context className compiledType = source context className' compiledType') :
    className = className' ∧ compiledType = compiledType' := by
  have hpieces := congrArg (fun text => pieces '\n' text.toList) h
  rw [pieces_source hcontext hclass htype, pieces_source hcontext hclass' htype'] at hpieces
  have hlines : sourceLines context className compiledType =
      sourceLines context className' compiledType' :=
    List.map_injective_iff.2 (fun _ _ => String.toList_inj.1) (List.append_cancel_right hpieces)
  simpa [sourceLines] using hlines

end WrapperTemplate

namespace Script

variable {script later : Script} {tree : Tree} {space : Option String} {name : String}

open WrapperTemplate

theorem Sourced.oneLine_qualify (h : script.Sourced) (hspace : script.spaceIn tree = .ok space) :
    OneLine (qualify space (Naming.compiledClass script.fileName)) := by
  have hclass : OneLine (Naming.compiledClass script.fileName) :=
    Naming.sign_notMem_compiledClass script.fileName (by decide)
  cases space with
  | none => exact hclass
  | some declared =>
      obtain ⟨text, htext⟩ := h.of_spaceIn hspace
      have hdeclared : OneLine declared := Namespace.feed_notMem_of_declaredIn htext
      rw [OneLine] at hclass hdeclared ⊢
      simp [qualify, hclass, hdeclared]

theorem Consistent.spaceIn_of_compiledType (h : script.Consistent)
    (htype : script.compiledType tree = .ok (name, later)) : ∃ space,
      script.spaceIn tree = .ok space ∧
        name = qualify space (Naming.compiledClass script.fileName) := by
  cases hspace : script.spaceIn tree with
  | error failure => cases (h.compiledType_eq_error hspace).symm.trans htype
  | ok space =>
      obtain ⟨_, hsame, -⟩ := h.compiledType_eq_ok hspace
      exact ⟨space, rfl, (Prod.mk.inj (Except.ok.inj (htype.symm.trans hsame))).1⟩

end Script

namespace WrapperWriter

variable {script later : Script} {tree : Tree} {path : Path} {compiledType : String}

open WrapperTemplate

/-- What is read where a wrapper has been written. -/
theorem read_of_write (writer : WrapperWriter) (hscript : script.Consistent)
    (htype : script.compiledType tree = .ok (compiledType, later))
    (h : (writer.write script tree).answer = .ok path) :
    (writer.write script tree).state.2.read path =
      .ok (Utf8.ofString (writer.template.render script.wrapperClass compiledType)) := by
  obtain ⟨space, hspace, rfl⟩ := hscript.spaceIn_of_compiledType htype
  obtain ⟨last, -, hwrite⟩ := writer.write_of_spaceIn_eq_ok hscript hspace
  rw [hwrite] at h ⊢
  obtain ⟨rfl, hwritten⟩ := write_of_deposit_eq_ok h
  rw [hscript.wrapperClass_eq, ← sourceOf]
  exact Tree.read_of_write hwritten

end WrapperWriter

namespace WrapperTemplate

/-- **Rendering is exact.** The names are the only part of a wrapper that changes, and they can be
told from it. The type of a script whose class is valid is on one line, so what is written for a
script is its wrapper to the letter. -/
theorem render_exact_injective :
    (∀ (template : WrapperTemplate) className compiledType, OneLine template.contextType →
      OneLine className → OneLine compiledType →
      template.render className compiledType =
        source template.contextType className compiledType) ∧
      (∀ (template other : WrapperTemplate) className compiledType className' compiledType',
        other.contextType = template.contextType → OneLine template.contextType →
        OneLine className → OneLine compiledType → OneLine className' → OneLine compiledType' →
        template.render className compiledType = other.render className' compiledType' →
        className = className' ∧ compiledType = compiledType') ∧
      ∀ (script : Script) tree compiledType later, script.Reached →
        Identifier.isTypeName script.wrapperClass = true →
        script.compiledType tree = .ok (compiledType, later) →
        OneLine compiledType ∧
          ∀ (writer : WrapperWriter) path, OneLine writer.template.contextType →
            (writer.write script tree).answer = .ok path →
            (writer.write script tree).state.2.read path = .ok (Utf8.ofString
              (source writer.template.contextType script.wrapperClass compiledType)) := by
  refine ⟨fun _ _ _ => render_eq_source, ?_, ?_⟩
  · intro template other className compiledType className' compiledType' hsame hcontext hclass htype
      hclass' htype' h
    have hcontext' : OneLine other.contextType := hsame ▸ hcontext
    rw [render_eq_source hcontext hclass htype, render_eq_source hcontext' hclass' htype',
      hsame] at h
    exact source_injective hcontext hclass htype hclass' htype' h
  · intro script tree compiledType later hscript hname htype
    have hclass : OneLine script.wrapperClass :=
      Identifier.notMem_of_isTypeName hname (by decide) (by decide)
    have hline : OneLine compiledType := by
      obtain ⟨space, hspace, rfl⟩ := hscript.consistent.spaceIn_of_compiledType htype
      exact hscript.sourced.oneLine_qualify hspace
    refine ⟨hline, fun writer path hcontext hpath => ?_⟩
    rw [writer.read_of_write hscript.consistent htype hpath, render_eq_source hcontext hclass hline]

/-- A context that ends in a carriage return, a class that starts with a blank and a brace, and types
that are empty or blank. -/
theorem render_exact_injective_odd :
    let template : WrapperTemplate := ⟨"Context\r", "kt"⟩
    let script := Script.ofText (.ofString "tool.gradle.kts") ".gradle.kts" "package org.acme\n"
    let writer : WrapperWriter := ⟨.ofString "out", template⟩
    template.render "\t\x7b" "" = source "Context\r" "\t\x7b" "" ∧
      template.render "\t\x7b" "" ≠ template.render "\t\x7b" "\r" ∧
      OneLine "org.acme.Tool_gradle" ∧
      (writer.write script .empty).state.2.read (.ofString "out/Tool.kt") =
        .ok (Utf8.ofString (source "Context\r" "Tool" "org.acme.Tool_gradle")) := by
  intro template script writer
  have hclass : script.wrapperClass = "Tool" := by decide +kernel
  have htype : script.compiledType .empty = .ok ("org.acme.Tool_gradle",
      { script with
        declared := some (some "org.acme")
        knownType := some "org.acme.Tool_gradle" }) := by
    decide +kernel
  have hpath : (writer.write script .empty).answer = .ok (.ofString "out/Tool.kt") := by
    decide +kernel
  obtain ⟨hexact, hinjective, hscripts⟩ := render_exact_injective
  obtain ⟨hline, hwritten⟩ := hscripts script .empty _ _ (.ofText ..)
    (by rw [hclass]; decide +kernel) htype
  refine ⟨?_, ?_, hline, ?_⟩
  · exact hexact template _ _ (by decide) (by decide) (by decide)
  · intro heq
    have hsame := hinjective template template _ _ _ _ rfl (by decide) (by decide) (by decide)
      (by decide) (by decide) heq
    exact absurd hsame.2 (by decide)
  · have hread := hwritten writer _ (by decide) hpath
    rwa [hclass] at hread

end WrapperTemplate

end ScriptPlugins
