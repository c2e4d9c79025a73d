import Mathlib.Data.List.TakeWhile
import ScriptPlugins.Proofs.Text.Lines

/-!
# What trimming an indentation takes away

A blank first and a blank last line go, and all that blank lines have in them. Every other line
loses as many characters as the least indented one has blanks at its start. So all of them are
blanks, and that line starts flush left afterwards.

A margin that is put before every line goes away with the rest. It makes no line less blank, and the
indentation that the lines share grows by its length. A text is a run of lines, each with its line
feed but for the last, and what holds of all texts is shown along that run.
-/

namespace ScriptPlugins.Text

variable {text line margin : List Char} {all : List (List Char)} {count : Nat}

/-- A text is empty, or a line that no line feed ends, or it starts with a line that one ends. -/
theorem line_induction {P : List Char → Prop} (empty : P [])
    (last : ∀ line, line ≠ [] → '\n' ∉ line → P line)
    (ended : ∀ line rest, '\n' ∉ line → P rest → P (line ++ '\n' :: rest)) (text : List Char) :
    P text := by
  have hjoined : ∀ all : List (List Char), (∀ piece ∈ all, '\n' ∉ piece) → P (join '\n' all) := by
    intro all hall
    induction all with
    | nil => exact empty
    | cons piece rest ih =>
        have hpiece := hall piece List.mem_cons_self
        cases rest with
        | nil =>
            by_cases hne : piece = []
            · rw [hne]
              exact empty
            · exact last piece hne hpiece
        | cons next more =>
            apply ended piece _ hpiece
            exact ih fun other hother => hall other (List.mem_cons_of_mem _ hother)
  rw [← join_pieces '\n' text]
  exact hjoined _ (separator_not_mem_of_mem_pieces '\n' text)

theorem lines_ended (hfeed : '\n' ∉ line) (rest : List Char) :
    lines (line ++ '\n' :: rest) = dropReturn line :: lines rest := by
  obtain ⟨piece, more, hrest⟩ := List.exists_cons_of_ne_nil (pieces_ne_nil '\n' rest)
  have hpieces : pieces '\n' (line ++ '\n' :: rest) = line :: piece :: more := by
    rw [pieces_append, pieces_of_not_mem '\n' line hfeed, hrest, List.singleton_append]
  rw [lines, lines, hpieces, hrest]
  simp only [List.dropLast_cons_cons, List.map_cons, List.getLast?_cons_cons]
  cases (piece :: more).getLast? with
  | none => rfl
  | some last => cases last <;> rfl

theorem lines_last (hne : line ≠ []) (hfeed : '\n' ∉ line) : lines line = [line] := by
  rw [lines, pieces_of_not_mem '\n' line hfeed]
  cases line with
  | nil => exact absurd rfl hne
  | cons c rest => rfl

theorem feed_notMem_of_mem_lines (h : line ∈ lines text) : '\n' ∉ line := by
  induction text using line_induction with
  | empty => cases h
  | last only hne hfeed =>
      rw [lines_last hne hfeed, List.mem_singleton] at h
      rwa [h]
  | ended first rest hfeed ih =>
      rw [lines_ended hfeed] at h
      rcases List.mem_cons.1 h with rfl | h
      · rw [dropReturn]
        split
        · exact fun hmem => hfeed (List.dropLast_subset _ hmem)
        · exact hfeed
      · exact ih h

/-- A text with a margin before every character that starts a line. -/
def putMargin (margin : List Char) (startsLine : Bool) : List Char → List Char
  | [] => []
  | c :: rest => (if startsLine then margin else []) ++ c :: putMargin margin (c == '\n') rest

/-- A text with a margin at the start of every line. -/
def indented (margin text : List Char) : List Char :=
  putMargin margin true text

theorem putMargin_append (hfeed : '\n' ∉ line) (margin rest : List Char) :
    putMargin margin false (line ++ rest) = line ++ putMargin margin false rest := by
  induction line with
  | nil => rfl
  | cons c more ih =>
      rw [List.mem_cons, not_or] at hfeed
      have hc : (c == '\n') = false := beq_false_of_ne (Ne.symm hfeed.1)
      rw [List.cons_append, putMargin, hc, ih hfeed.2]
      rfl

theorem indented_ended (hfeed : '\n' ∉ line) (margin rest : List Char) :
    indented margin (line ++ '\n' :: rest) = margin ++ line ++ '\n' :: indented margin rest := by
  have hbreak : ∀ startsLine, putMargin margin startsLine ('\n' :: rest) =
      (if startsLine then margin else []) ++ '\n' :: indented margin rest := fun _ => rfl
  cases line with
  | nil =>
      rw [List.append_nil]
      exact hbreak true
  | cons c more =>
      rw [List.mem_cons, not_or] at hfeed
      have hc : (c == '\n') = false := beq_false_of_ne (Ne.symm hfeed.1)
      rw [indented, List.cons_append, putMargin, hc, putMargin_append hfeed.2, hbreak false]
      simp

theorem indented_last (hne : line ≠ []) (hfeed : '\n' ∉ line) (margin : List Char) :
    indented margin line = margin ++ line := by
  cases line with
  | nil => exact absurd rfl hne
  | cons c more =>
      rw [List.mem_cons, not_or] at hfeed
      have hc : (c == '\n') = false := beq_false_of_ne (Ne.symm hfeed.1)
      have hmore := putMargin_append hfeed.2 margin []
      rw [List.append_nil] at hmore
      rw [indented, putMargin, hc, hmore]
      simp [putMargin]

theorem dropReturn_append (hreturn : margin.getLast? ≠ some '\r') :
    dropReturn (margin ++ line) = margin ++ dropReturn line := by
  by_cases hne : line = []
  · rw [hne, List.append_nil, dropReturn_of_ne hreturn,
      dropReturn_of_ne (by simp), List.append_nil]
  · have hlast : (margin ++ line).getLast? = line.getLast? := by
      rw [List.getLast?_append, List.getLast?_eq_some_getLast hne, Option.some_or]
    rw [dropReturn, dropReturn, hlast, List.dropLast_append_of_ne_nil hne]
    split <;> rfl

theorem lines_indented (hfeed : '\n' ∉ margin) (hreturn : margin.getLast? ≠ some '\r')
    (text : List Char) : lines (indented margin text) = (lines text).map (margin ++ ·) := by
  have happend : ∀ line : List Char, '\n' ∉ line → '\n' ∉ margin ++ line := by
    intro line hline
    rw [List.mem_append, not_or]
    exact ⟨hfeed, hline⟩
  induction text using line_induction with
  | empty => rfl
  | last line hne hline =>
      rw [indented_last hne hline, lines_last hne hline, List.map_singleton]
      exact lines_last (List.append_ne_nil_of_right_ne_nil _ hne) (happend line hline)
  | ended line rest hline ih =>
      rw [indented_ended hline, lines_ended (happend line hline), lines_ended hline, ih,
        dropReturn_append hreturn, List.map_cons]

/-- Whether a line stays, from what is in it and from its place among `total` lines: unless it is
blank and the first or the last of them. -/
def stays (total : Nat) (item : List Char × Nat) : Bool :=
  !(isBlankLine item.1 && (item.2 == 0 || item.2 + 1 == total))

/-- The lines but for the first and the last if these are blank. -/
def withoutBlankEnds (all : List (List Char)) : List (List Char) :=
  (all.zipIdx.filter (stays all.length)).map Prod.fst

theorem stays_of_not_blank (hblank : isBlankLine line = false) (total i : Nat) :
    stays total (line, i) = true := by
  rw [stays, hblank, Bool.false_and, Bool.not_false]

theorem stays_of_inner {total i : Nat} (hfirst : i ≠ 0) (hlast : i + 1 ≠ total)
    (line : List Char) : stays total (line, i) = true := by
  rw [stays, beq_false_of_ne hfirst, beq_false_of_ne hlast, Bool.or_false, Bool.and_false,
    Bool.not_false]

theorem dropBlankEnds_eq (all : List (List Char)) : dropBlankEnds all = withoutBlankEnds all := by
  rcases all with _ | ⟨first, rest⟩
  · rfl
  rcases List.eq_nil_or_concat rest with rfl | ⟨middle, last, rfl⟩
  · cases hblank : isBlankLine first <;> simp [dropBlankEnds, withoutBlankEnds, stays, hblank]
  rw [List.concat_eq_append]
  have hlength : (first :: (middle ++ [last])).length = 1 + middle.length + 1 := by
    rw [List.length_cons, List.length_append, List.length_singleton]
    omega
  have hmiddle : (middle.zipIdx 1).filter (stays (1 + middle.length + 1)) = middle.zipIdx 1 := by
    rw [List.filter_eq_self]
    rintro ⟨line, i⟩ hmem
    obtain ⟨hle, hlt, -⟩ := List.mem_zipIdx hmem
    exact stays_of_inner (by omega) (by omega) line
  rw [withoutBlankEnds, hlength, List.zipIdx_cons, List.zipIdx_append, List.filter_cons,
    List.filter_append, Nat.zero_add, hmiddle]
  cases hfirst : isBlankLine first <;> cases hlast : isBlankLine last <;>
    simp [dropBlankEnds, stays, hfirst, hlast, List.getLast?_cons, List.dropLast_cons_of_ne_nil]

theorem withoutBlankEnds_map (hmargin : isBlankLine margin = true) (all : List (List Char)) :
    withoutBlankEnds (all.map (margin ++ ·)) = (withoutBlankEnds all).map (margin ++ ·) := by
  have hstays : stays all.length ∘ Prod.map (margin ++ ·) id = stays all.length := by
    funext item
    rw [Function.comp_apply, stays, stays, Prod.map_fst, Prod.map_snd, isBlankLine_append hmargin,
      id]
  rw [withoutBlankEnds, withoutBlankEnds, List.length_map, List.zipIdx_map, List.filter_map, hstays,
    List.map_map, List.map_map]
  rfl

theorem withoutBlankEnds_subset (all : List (List Char)) : withoutBlankEnds all ⊆ all := by
  intro line hline
  obtain ⟨⟨_, i⟩, hitem, rfl⟩ := List.mem_map.1 hline
  exact List.fst_mem_of_mem_zipIdx (List.mem_filter.1 hitem).1

theorem mem_withoutBlankEnds (h : line ∈ all) (hblank : isBlankLine line = false) :
    line ∈ withoutBlankEnds all := by
  obtain ⟨i, hi, rfl⟩ := List.mem_iff_getElem.1 h
  rw [withoutBlankEnds, List.mem_map]
  refine ⟨(all[i], i), List.mem_filter.2 ⟨?_, stays_of_not_blank hblank _ _⟩, rfl⟩
  exact List.mem_zipIdx_iff_getElem?.2 (List.getElem?_eq_getElem hi)

/-- The common indentation is that of a line, and no other line has less. -/
theorem commonIndent_spec (h : ∃ line ∈ all, isBlankLine line = false) :
    (∃ line ∈ all, isBlankLine line = false ∧ indentOf line = commonIndent all) ∧
      ∀ line ∈ all, isBlankLine line = false → commonIndent all ≤ indentOf line := by
  have hmem : ∀ line, line ∈ all.filter (!isBlankLine ·) ↔ line ∈ all ∧ isBlankLine line = false :=
    fun line => by rw [List.mem_filter, Bool.not_eq_true']
  obtain ⟨first, hfirst⟩ := h
  cases hmin : ((all.filter (!isBlankLine ·)).map indentOf).min? with
  | none =>
      rw [List.min?_eq_none_iff, List.map_eq_nil_iff] at hmin
      exact absurd ((hmem first).2 hfirst) (by rw [hmin]; exact List.not_mem_nil)
  | some count =>
      have hcommon : commonIndent all = count := by rw [commonIndent, hmin, Option.getD_some]
      rw [List.min?_eq_some_iff] at hmin
      obtain ⟨hcount, hle⟩ := hmin
      obtain ⟨line, hline, hindent⟩ := List.mem_map.1 hcount
      obtain ⟨hline, hblank⟩ := (hmem line).1 hline
      rw [hcommon]
      refine ⟨⟨line, hline, hblank, hindent⟩, fun other hother hother' => ?_⟩
      exact hle _ (List.mem_map_of_mem ((hmem other).2 ⟨hother, hother'⟩))

theorem commonIndent_map (hmargin : isBlankLine margin = true)
    (h : ∃ line ∈ all, isBlankLine line = false) :
    commonIndent (all.map (margin ++ ·)) = margin.length + commonIndent all := by
  obtain ⟨⟨line, hline, hblank, hindent⟩, hle⟩ := commonIndent_spec h
  apply commonIndent_eq
  · refine ⟨margin ++ line, List.mem_map_of_mem hline, ?_, ?_⟩
    · rwa [isBlankLine_append hmargin]
    · rw [indentOf_append hmargin, hindent]
  · intro other hother hother'
    obtain ⟨inner, hinner, rfl⟩ := List.mem_map.1 hother
    rw [isBlankLine_append hmargin] at hother'
    rw [indentOf_append hmargin]
    exact Nat.add_le_add_left (hle inner hinner hother') _

/-- The indentation cuts a line into its leading blanks and the rest. -/
theorem split_indentOf (line : List Char) :
    line.take (indentOf line) = line.takeWhile isBlank ∧
      line.drop (indentOf line) = line.dropWhile isBlank := by
  rw [indentOf]
  generalize hblanks : line.takeWhile isBlank = blanks
  have hsplit : line = blanks ++ line.dropWhile isBlank := by
    rw [← hblanks, List.takeWhile_append_dropWhile]
  generalize line.dropWhile isBlank = rest at hsplit
  rw [hsplit]
  exact ⟨List.take_left, List.drop_left⟩

theorem isBlank_of_mem_take {c : Char} (hle : count ≤ indentOf line) (h : c ∈ line.take count) :
    isBlank c = true := by
  have htake : c ∈ line.take (indentOf line) := List.take_subset_take_left line hle h
  rw [(split_indentOf line).1] at htake
  exact List.mem_takeWhile_imp htake

theorem exists_drop_indentOf (hblank : isBlankLine line = false) :
    ∃ c rest, line.drop (indentOf line) = c :: rest ∧ isBlank c = false := by
  rw [(split_indentOf line).2]
  have hhead := List.head?_dropWhile_not isBlank line
  cases hrest : line.dropWhile isBlank with
  | nil =>
      rw [List.dropWhile_eq_nil_iff, ← List.all_eq_true, ← isBlankLine, hblank] at hrest
      cases hrest
  | cons c rest =>
      rw [hrest] at hhead
      exact ⟨c, rest, rfl, hhead⟩

/-- A line without its first characters. Of a blank line nothing is left. -/
def dedent (count : Nat) (line : List Char) : List Char :=
  if isBlankLine line then [] else line.drop count

theorem trimIndent_eq (text : List Char) : trimIndent text =
    join '\n' ((withoutBlankEnds (lines text)).map (dedent (commonIndent (lines text)))) := by
  rw [← dropBlankEnds_eq]
  rfl

/-- What is done to a text depends on its lines only, and on these not on a margin of blanks. -/
theorem trimIndent_congr {other : List Char} (hmargin : isBlankLine margin = true)
    (h : lines other = (lines text).map (margin ++ ·)) : trimIndent other = trimIndent text := by
  rw [trimIndent_eq, trimIndent_eq, h, withoutBlankEnds_map hmargin, List.map_map]
  congr 1
  apply List.map_congr_left
  intro line hline
  rw [Function.comp_apply, dedent, dedent, isBlankLine_append hmargin]
  cases hblank : isBlankLine line with
  | true => rfl
  | false =>
      have hmem : line ∈ lines text := withoutBlankEnds_subset _ hline
      rw [commonIndent_map hmargin ⟨line, hmem, hblank⟩, List.drop_length_add_append]

/-- **Only blanks are lost.** The lines of a text are joined again but for blank ends, blank lines
as empty ones and all others without the same number of blanks. That number is as great as it can
be, so a line starts flush left unless all are blank. A margin before all lines makes no
difference. -/
theorem trimIndent_loses_blanks (text : List Char) :
    ∃ count,
      trimIndent text = join '\n' ((withoutBlankEnds (lines text)).map (dedent count)) ∧
      (∀ line ∈ lines text, '\n' ∉ line) ∧
      (∀ line ∈ lines text, isBlankLine line = false →
        count ≤ line.length ∧ ∀ c ∈ line.take count, isBlank c = true) ∧
      ((∃ line ∈ lines text, isBlankLine line = false) →
        ∃ line ∈ (withoutBlankEnds (lines text)).map (dedent count),
          ∃ c rest, line = c :: rest ∧ isBlank c = false) ∧
      ∀ margin : List Char, (∀ c ∈ margin, c = ' ' ∨ c = '\t') →
        lines (indented margin text) = (lines text).map (margin ++ ·) ∧
          trimIndent (indented margin text) = trimIndent text := by
  refine ⟨commonIndent (lines text), trimIndent_eq text, fun line => feed_notMem_of_mem_lines,
    ?_, ?_, ?_⟩
  · intro line hline hblank
    have hle := (commonIndent_spec ⟨line, hline, hblank⟩).2 line hline hblank
    refine ⟨hle.trans ?_, fun c => isBlank_of_mem_take hle⟩
    exact (List.takeWhile_prefix isBlank).length_le
  · intro hexists
    obtain ⟨⟨line, hline, hblank, hindent⟩, -⟩ := commonIndent_spec hexists
    obtain ⟨c, rest, hdrop, hc⟩ := exists_drop_indentOf hblank
    refine ⟨line.drop (indentOf line), ?_, c, rest, hdrop, hc⟩
    rw [List.mem_map]
    refine ⟨line, mem_withoutBlankEnds hline hblank, ?_⟩
    rw [dedent, hblank, if_neg Bool.false_ne_true, hindent]
  · intro margin hmargin
    have hlines : lines (indented margin text) = (lines text).map (margin ++ ·) := by
      apply lines_indented
      · intro hfeed
        simpa using hmargin _ hfeed
      · intro hreturn
        simpa using hmargin _ (List.mem_of_getLast? hreturn)
    refine ⟨hlines, trimIndent_congr ?_ hlines⟩
    rw [isBlankLine, List.all_eq_true]
    intro c hc
    rcases hmargin c hc with rfl | rfl <;> decide

/-- Line breaks of both kinds, blanks beyond ASCII, blank ends and a blank line between. -/
theorem trimIndent_loses_blanks_mixed :
    let text := "\t\r\n\u3000 a\r\n\n \u3000 b\n ".toList
    lines text = ["\t", "\u3000 a", "", " \u3000 b", " "].map String.toList ∧
      (∃ count, trimIndent text = join '\n' ((withoutBlankEnds (lines text)).map (dedent count)) ∧
        (∀ c ∈ "\u3000 a".toList.take count, isBlank c = true) ∧
        ∃ line ∈ (withoutBlankEnds (lines text)).map (dedent count),
          ∃ c rest, line = c :: rest ∧ isBlank c = false) ∧
      trimIndent (indented "\t ".toList text) = "a\n\n b".toList := by
  intro text
  obtain ⟨count, hjoin, -, hblanks, hflush, hmargin⟩ := trimIndent_loses_blanks text
  have hmem : "\u3000 a".toList ∈ lines text := by decide
  have htrimmed : trimIndent text = "a\n\n b".toList := by decide
  refine ⟨by decide, ⟨count, hjoin, ?_, ?_⟩, ?_⟩
  · exact (hblanks _ hmem (by decide)).2
  · exact hflush ⟨_, hmem, by decide⟩
  · exact (hmargin "\t ".toList (by simp)).2.trans htrimmed

end ScriptPlugins.Text
