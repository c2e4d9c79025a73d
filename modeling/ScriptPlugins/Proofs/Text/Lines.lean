import ScriptPlugins.Proofs.Text.Pieces
import ScriptPlugins.Text.Lines

/-!
# Indented blocks

Cutting into lines undoes joining with line feeds, except that it takes a carriage return before a
line feed and an empty last line away. A block that is written with a margin before each of its lines,
and on lines of its own, therefore comes out of `trimIndent` as it is without the margin: what its
lines have in them after their first character that is not blank does not matter.
-/

namespace ScriptPlugins.Text

variable {line last margin : List Char} {all front block : List (List Char)} {count : Nat}

theorem dropReturn_of_ne (h : line.getLast? ≠ some '\r') : dropReturn line = line :=
  if_neg h

theorem lines_join (hfeed : ∀ line ∈ front ++ [last], '\n' ∉ line)
    (hreturn : ∀ line ∈ front, line.getLast? ≠ some '\r') (hlast : last ≠ []) :
    lines (join '\n' (front ++ [last])) = front ++ [last] := by
  have hended : front.map dropReturn = front :=
    (List.map_congr_left fun line hline => dropReturn_of_ne (hreturn line hline)).trans
      (List.map_id front)
  rw [lines, pieces_join '\n' (List.append_ne_nil_of_right_ne_nil _ (List.cons_ne_nil _ _)) hfeed]
  simp only [List.dropLast_concat, hended, List.getLast?_concat]

theorem commonIndent_eq
    (hexists : ∃ line ∈ all, isBlankLine line = false ∧ indentOf line = count)
    (hle : ∀ line ∈ all, isBlankLine line = false → count ≤ indentOf line) :
    commonIndent all = count := by
  have hmin : ((all.filter (!isBlankLine ·)).map indentOf).min? = some count := by
    rw [List.min?_eq_some_iff]
    constructor
    · obtain ⟨line, hline, hblank, hcount⟩ := hexists
      exact List.mem_map.2 ⟨line, List.mem_filter.2 ⟨hline, by rw [hblank]; rfl⟩, hcount⟩
    · rintro _ hmem
      obtain ⟨line, hline, rfl⟩ := List.mem_map.1 hmem
      obtain ⟨hline, hblank⟩ := List.mem_filter.1 hline
      rw [Bool.not_eq_true'] at hblank
      exact hle line hline hblank
  rw [commonIndent, hmin, Option.getD_some]

theorem indentOf_append (hmargin : isBlankLine margin = true) :
    indentOf (margin ++ line) = margin.length + indentOf line := by
  rw [indentOf, indentOf, List.takeWhile_append_of_pos (List.all_eq_true.1 hmargin),
    List.length_append]

theorem isBlankLine_append (hmargin : isBlankLine margin = true) :
    isBlankLine (margin ++ line) = isBlankLine line := by
  rw [isBlankLine, List.all_append, ← isBlankLine, hmargin, Bool.true_and, isBlankLine]

/-- A line that a block can have: it is not blank, and no break can be taken for a part of it. -/
structure IsBlockLine (line : List Char) : Prop where
  noFeed : '\n' ∉ line
  noReturn : line.getLast? ≠ some '\r'
  notBlank : isBlankLine line = false

theorem IsBlockLine.ne_nil (h : IsBlockLine line) : line ≠ [] := by
  rintro rfl
  exact Bool.noConfusion h.notBlank

theorem IsBlockLine.indented (h : IsBlockLine line) (hfeed : '\n' ∉ margin)
    (hmargin : isBlankLine margin = true) : IsBlockLine (margin ++ line) where
  noFeed := by
    rw [List.mem_append, not_or]
    exact ⟨hfeed, h.noFeed⟩
  noReturn := by
    have hnoReturn := h.noReturn
    rw [List.getLast?_eq_some_getLast h.ne_nil] at hnoReturn
    rwa [List.getLast?_append, List.getLast?_eq_some_getLast h.ne_nil, Option.some_or]
  notBlank := by rw [isBlankLine_append hmargin, h.notBlank]

theorem dropBlankEnds_block (hmargin : isBlankLine margin = true) :
    dropBlankEnds ([] :: (all ++ [margin])) = all := by
  have hfirst : (([] : List Char) :: (all ++ [margin])).head?.any isBlankLine = true := rfl
  have hlast : (all ++ [margin]).getLast?.any isBlankLine = true := by
    rwa [List.getLast?_concat, Option.any_some]
  rw [dropBlankEnds, hfirst, if_pos rfl, List.drop_succ_cons, List.drop_zero, hlast, if_pos rfl,
    List.dropLast_concat]

section

variable (hfeed : '\n' ∉ margin) (hmargin : isBlankLine margin = true)
  (hblock : ∀ line ∈ block, IsBlockLine line)

include hfeed hmargin hblock

theorem lines_block (hne : margin ≠ []) :
    lines (join '\n' ([] :: (block.map (margin ++ ·) ++ [margin]))) =
      [] :: (block.map (margin ++ ·) ++ [margin]) := by
  have hindented : ∀ line ∈ block.map (margin ++ ·), IsBlockLine line := by
    intro line hline
    obtain ⟨inner, hinner, rfl⟩ := List.mem_map.1 hline
    exact (hblock inner hinner).indented hfeed hmargin
  rw [← List.cons_append]
  refine lines_join ?_ ?_ hne
  · intro line hline
    rw [List.mem_append, List.mem_cons, List.mem_singleton] at hline
    obtain (rfl | hline) | rfl := hline
    · exact List.not_mem_nil
    · exact (hindented line hline).noFeed
    · exact hfeed
  · intro line hline
    rcases List.mem_cons.1 hline with rfl | hline
    · nofun
    · exact (hindented line hline).noReturn

theorem commonIndent_block (hflush : ∃ line ∈ block, indentOf line = 0) :
    commonIndent ([] :: (block.map (margin ++ ·) ++ [margin])) = margin.length := by
  apply commonIndent_eq
  · obtain ⟨line, hline, hzero⟩ := hflush
    refine ⟨margin ++ line, ?_, ?_, ?_⟩
    · exact List.mem_cons_of_mem _ (List.mem_append_left _ (List.mem_map_of_mem hline))
    · exact ((hblock line hline).indented hfeed hmargin).notBlank
    · rw [indentOf_append hmargin, hzero, Nat.add_zero]
  · intro line hline hblank
    rw [List.mem_cons, List.mem_append, List.mem_map, List.mem_singleton] at hline
    obtain rfl | ⟨line, -, rfl⟩ | rfl := hline
    · exact Bool.noConfusion hblank
    · rw [indentOf_append hmargin]
      exact Nat.le_add_right _ _
    · rw [hmargin] at hblank
      exact Bool.noConfusion hblank

/-- The lines of a block without the margin, if it has a line that starts with no blank. -/
theorem trimIndent_block (hne : margin ≠ []) (hflush : ∃ line ∈ block, indentOf line = 0) :
    trimIndent (join '\n' ([] :: (block.map (margin ++ ·) ++ [margin]))) = join '\n' block := by
  have htrimmed : (block.map (margin ++ ·)).map (fun line =>
      if isBlankLine line then [] else line.drop margin.length) = block := by
    rw [List.map_map]
    refine (List.map_congr_left fun line hline => ?_).trans (List.map_id block)
    rw [Function.comp_apply, isBlankLine_append hmargin, (hblock line hline).notBlank,
      if_neg Bool.false_ne_true, List.drop_left, id]
  rw [trimIndent, lines_block hfeed hmargin hblock hne,
    commonIndent_block hfeed hmargin hblock hflush, dropBlankEnds_block hmargin, htrimmed]

end

end ScriptPlugins.Text
