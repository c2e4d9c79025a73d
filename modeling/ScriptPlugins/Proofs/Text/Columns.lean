import Mathlib.Data.List.DropRight
import Mathlib.Data.List.Forall2
import ScriptPlugins.Text.Columns

/-!
# Cells that line up

The widths of the columns are what all rows have in common, and they say where each column starts.
A row that fits the widths is laid out cell by cell: every cell is filled up to the width of its
column, so the next one starts where it has to. Then the blanks at the end of the line go. They are
blanks of the filling, of the gaps or at the ends of the last cells, so a cell loses nothing else.
-/

namespace ScriptPlugins.Text

variable {text cell : List Char} {c : Char}

theorem trimEnd_eq (text : List Char) : trimEnd text = text.rdropWhile isBlank :=
  rfl

theorem isPrefix_trimEnd (text : List Char) : trimEnd text <+: text :=
  List.rdropWhile_prefix isBlank text

theorem isBlank_of_getLast?_trimEnd (h : (trimEnd text).getLast? = some c) : isBlank c = false := by
  have hne : text.rdropWhile isBlank ≠ [] := by
    intro hnil
    rw [trimEnd_eq, hnil] at h
    cases h
  have hlast := List.rdropWhile_last_not isBlank text hne
  have hsame : (text.rdropWhile isBlank).getLast hne = c := List.getLast_of_getLast?_eq_some h
  rwa [hsame, Bool.not_eq_true] at hlast

/-- What is left of the front of a text is left of the whole. -/
theorem trimEnd_prefix_append (text back : List Char) :
    trimEnd text <+: trimEnd (text ++ back) := by
  induction back using List.reverseRecOn with
  | nil => exact (List.append_nil text).symm ▸ List.prefix_rfl
  | append_singleton back c ih =>
      rw [← List.append_assoc, trimEnd_eq (text ++ back ++ [c]), List.rdropWhile_concat]
      split
      · exact ih
      · exact (isPrefix_trimEnd text).trans
          ((List.prefix_append text back).trans (List.prefix_append _ [c]))

theorem trimEnd_append (front : List Char) (h : trimEnd text ≠ []) :
    trimEnd (front ++ text) = front ++ trimEnd text := by
  induction text using List.reverseRecOn with
  | nil => exact absurd rfl h
  | append_singleton text c ih =>
      rw [trimEnd_eq (text ++ [c]), List.rdropWhile_concat] at h ⊢
      rw [← List.append_assoc, trimEnd_eq, List.rdropWhile_concat]
      split
      · next hblank =>
          rw [if_pos hblank] at h
          exact ih h
      · exact List.append_assoc ..

/-- What stands in a text stands there after trimming, up to blanks at its own end. -/
theorem trimEnd_prefix_drop {start : Nat} (h : cell <+: text.drop start) :
    trimEnd cell <+: (trimEnd text).drop start := by
  by_cases hcell : trimEnd cell = []
  · rw [hcell]
    exact List.nil_prefix
  obtain ⟨back, hback⟩ := h
  have hstart : start ≤ text.length := by
    by_contra hlong
    rw [List.drop_eq_nil_of_le (by omega), List.append_eq_nil_iff] at hback
    exact hcell (congrArg trimEnd hback.1)
  have hprefix : text.take start ++ trimEnd cell <+: trimEnd text := by
    rw [← trimEnd_append _ hcell]
    conv_rhs => rw [← List.take_append_drop start text, ← hback, ← List.append_assoc]
    exact trimEnd_prefix_append ..
  obtain ⟨after, hafter⟩ := hprefix
  rw [← hafter, List.append_assoc, List.drop_left' (List.length_take_of_le hstart)]
  exact List.prefix_append _ after

namespace Columns

variable {sizes starts : List Nat} {row other heading : Row} {rows : List Row}
  {width i start next position : Nat}

/-- Every cell of the row is as short as its column is wide. -/
def Fits (sizes : List Nat) (row : Row) : Prop :=
  List.Forall₂ (fun width cell => cell.length ≤ width) sizes row

theorem length_widen (h : row.length = sizes.length) :
    (widen sizes row).length = sizes.length := by
  rw [widen, List.length_zipWith, h, min_self]

theorem fits_self (row : Row) : Fits (row.map List.length) row := by
  induction row with
  | nil => exact .nil
  | cons cell row ih => exact .cons le_rfl ih

theorem fits_widen (h : row.length = sizes.length) : Fits (widen sizes row) row := by
  induction sizes generalizing row with
  | nil =>
      rw [List.length_eq_zero_iff.1 h]
      exact .nil
  | cons width sizes ih =>
      cases row with
      | nil => cases h
      | cons cell row => exact .cons (le_max_right _ _) (ih (Nat.succ.inj h))

theorem Fits.widen (h : Fits sizes row) (hlength : other.length = sizes.length) :
    Fits (widen sizes other) row := by
  induction h generalizing other with
  | nil =>
      rw [List.length_eq_zero_iff.1 hlength]
      exact .nil
  | cons hcell _ ih =>
      cases other with
      | nil => cases hlength
      | cons cell' other => exact .cons (hcell.trans (le_max_left _ _)) (ih (Nat.succ.inj hlength))

theorem Fits.foldl_widen (h : Fits sizes row)
    (hlength : ∀ other ∈ rows, other.length = sizes.length) :
    Fits (rows.foldl Columns.widen sizes) row := by
  induction rows generalizing sizes with
  | nil => exact h
  | cons first rest ih =>
      have hfirst := hlength first List.mem_cons_self
      apply ih (h.widen hfirst)
      intro other hother
      rw [length_widen hfirst]
      exact hlength other (List.mem_cons_of_mem _ hother)

theorem fits_foldl_widen (h : row ∈ rows)
    (hlength : ∀ other ∈ rows, other.length = sizes.length) :
    Fits (rows.foldl Columns.widen sizes) row := by
  induction rows generalizing sizes with
  | nil => cases h
  | cons first rest ih =>
      have hfirst := hlength first List.mem_cons_self
      have hrest : ∀ other ∈ rest, other.length = (Columns.widen sizes first).length := by
        intro other hother
        rw [length_widen hfirst]
        exact hlength other (List.mem_cons_of_mem _ hother)
      rcases List.mem_cons.1 h with rfl | h
      · exact (fits_widen hfirst).foldl_widen hrest
      · exact ih h hrest

/-- All rows of a table fit its columns, the heading too. -/
theorem fits_widths (hrows : ∀ row ∈ rows, row.length = heading.length)
    (h : row ∈ heading :: rows) : Fits (widths heading rows) row := by
  have hlength : ∀ other ∈ rows, other.length = (heading.map List.length).length := by
    intro other hother
    rw [List.length_map]
    exact hrows other hother
  rcases List.mem_cons.1 h with rfl | h
  · exact (fits_self row).foldl_widen hlength
  · exact fits_foldl_widen h hlength

theorem Fits.length_le {limit : Nat} (h : Fits sizes row) (hsizes : ∀ width ∈ sizes, width ≤ limit) :
    ∀ cell ∈ row, cell.length ≤ limit := by
  induction h with
  | nil => exact List.forall_mem_nil _
  | cons hcell _ ih =>
      rw [List.forall_mem_cons] at hsizes ⊢
      exact ⟨hcell.trans hsizes.1, ih hsizes.2⟩

theorem widen_le {limit : Nat} (hsizes : ∀ width ∈ sizes, width ≤ limit)
    (hrow : ∀ cell ∈ row, cell.length ≤ limit) : ∀ width ∈ widen sizes row, width ≤ limit := by
  intro width hwidth
  rw [widen, ← List.map_uncurry_zip_eq_zipWith] at hwidth
  obtain ⟨⟨size, cell⟩, hpair, rfl⟩ := List.mem_map.1 hwidth
  obtain ⟨hsize, hcell⟩ := List.of_mem_zip hpair
  exact max_le (hsizes size hsize) (hrow cell hcell)

/-- No column is wider than all cells are. -/
theorem widths_le {limit : Nat} (h : ∀ row ∈ heading :: rows, ∀ cell ∈ row, cell.length ≤ limit) :
    ∀ width ∈ widths heading rows, width ≤ limit := by
  rw [List.forall_mem_cons] at h
  obtain ⟨hheading, hrows⟩ := h
  apply List.foldlRecOn rows widen (motive := fun sizes => ∀ width ∈ sizes, width ≤ limit)
  · intro width hwidth
    obtain ⟨cell, hcell, rfl⟩ := List.mem_map.1 hwidth
    exact hheading cell hcell
  · exact fun sizes hsizes row hrow => widen_le hsizes (hrows row hrow)

/-- Where columns of these sizes start. -/
def startsOf : List Nat → List Nat
  | [] => []
  | width :: rest => 0 :: (startsOf rest).map (width + 2 + ·)

/-- A place in a line that no cell of the row takes. -/
def Outside (starts : List Nat) (row : Row) (position : Nat) : Prop :=
  ∀ (i start : Nat) (cell : List Char), starts[i]? = some start → row[i]? = some cell →
    position < start ∨ start + cell.length ≤ position

/-- The text shows every cell in its column, and nothing else. -/
structure Shows (starts : List Nat) (row : Row) (text : List Char) : Prop where
  shown : ∀ (i start : Nat) (cell : List Char), starts[i]? = some start → row[i]? = some cell →
    cell <+: text.drop start
  spaced : ∀ (position : Nat) (c : Char), text[position]? = some c →
    Outside starts row position → c = ' '

theorem eq_space_of_padTo (h : (padTo width cell)[position]? = some c)
    (hcell : cell.length ≤ position) : c = ' ' := by
  rw [padTo, List.getElem?_append_right hcell] at h
  exact (List.mem_replicate.1 (List.mem_of_getElem? h)).2

theorem length_padTo (h : cell.length ≤ width) : (padTo width cell).length = width := by
  rw [padTo, List.length_append, List.length_replicate]
  omega

/-- The columns behind the first start as much further to the right as that is wide, gap included. -/
theorem getElem?_succ_eq_some_iff : (0 :: starts.map (width + 2 + ·))[i + 1]? = some start ↔
    ∃ before, starts[i]? = some before ∧ width + 2 + before = start := by
  rw [List.getElem?_cons_succ, List.getElem?_map, Option.map_eq_some_iff]

theorem apart_startsOf (h : Fits sizes row)
    (hstart : (startsOf sizes)[i]? = some start) (hcell : row[i]? = some cell)
    (hnext : (startsOf sizes)[i + 1]? = some next) : start + cell.length + 2 ≤ next := by
  induction h generalizing i start next with
  | nil => cases hcell
  | @cons width first sizes row hfirst hrest ih =>
      obtain ⟨next', hnext', rfl⟩ := getElem?_succ_eq_some_iff.1 hnext
      cases i with
      | zero =>
          obtain rfl := Option.some.inj hstart
          obtain rfl := Option.some.inj hcell
          omega
      | succ i =>
          obtain ⟨start', hstart', rfl⟩ := getElem?_succ_eq_some_iff.1 hstart
          have hle := ih hstart' hcell hnext'
          omega

theorem shows_padTo (width : Nat) (cell : List Char) : Shows [0] [cell] (padTo width cell) where
  shown i start shown hstart hshown := by
    cases i with
    | zero =>
        obtain rfl := Option.some.inj hstart
        obtain rfl := Option.some.inj hshown
        exact List.prefix_append ..
    | succ i => cases hstart
  spaced position c hc houtside := by
    have hend := (houtside 0 0 cell rfl rfl).resolve_left (Nat.not_lt_zero position)
    exact eq_space_of_padTo hc (by omega)

/-- One more column in front. -/
theorem Shows.cons (h : Shows starts row text) (hcell : cell.length ≤ width) :
    Shows (0 :: starts.map (width + 2 + ·)) (cell :: row) (padTo width cell ++ gap ++ text) where
  shown i start shown hstart hshown := by
    cases i with
    | zero =>
        obtain rfl := Option.some.inj hstart
        obtain rfl := Option.some.inj hshown
        rw [padTo, List.append_assoc, List.append_assoc]
        exact List.prefix_append ..
    | succ i =>
        obtain ⟨before, hbefore, rfl⟩ := getElem?_succ_eq_some_iff.1 hstart
        have hfront : (padTo width cell ++ gap).length = width + 2 := by
          rw [List.length_append, length_padTo hcell]
          rfl
        rw [← hfront, List.drop_length_add_append]
        exact h.shown i before shown hbefore hshown
  spaced position c hc houtside := by
    have hend := (houtside 0 0 cell rfl rfl).resolve_left (Nat.not_lt_zero position)
    have hpadded := length_padTo hcell
    have hlength : gap.length = 2 := rfl
    rw [List.append_assoc] at hc
    -- the position is in the new column, in the gap behind it or in the text as it was
    by_cases hfirst : position < width
    · rw [List.getElem?_append_left (by omega)] at hc
      exact eq_space_of_padTo hc (by omega)
    rw [List.getElem?_append_right (by omega), hpadded] at hc
    by_cases hgap : position - width < gap.length
    · rw [List.getElem?_append_left hgap] at hc
      have hmem : c ∈ gap := List.mem_of_getElem? hc
      simpa [gap] using hmem
    rw [List.getElem?_append_right (by omega)] at hc
    apply h.spaced _ c hc
    intro i start shown hstart hshown
    have hother := houtside (i + 1) (width + 2 + start) shown
      (getElem?_succ_eq_some_iff.2 ⟨start, hstart, rfl⟩) hshown
    omega

theorem shows_intercalate (h : Fits sizes row) :
    Shows (startsOf sizes) row (gap.intercalate (List.zipWith padTo sizes row)) := by
  induction h with
  | nil => exact ⟨nofun, nofun⟩
  | @cons width cell sizes row hcell hrest ih =>
      cases hrest with
      | nil =>
          rw [List.zipWith_cons_cons, List.zipWith_nil_left, List.intercalate_singleton]
          exact shows_padTo width cell
      | cons _ _ =>
          rw [List.zipWith_cons_cons, List.zipWith_cons_cons, List.intercalate_cons_cons]
          exact ih.cons hcell

/-- What is not a space in the text belongs to a cell. -/
theorem Shows.eq_space_or_mem (h : Shows starts row text) (hc : c ∈ text) :
    c = ' ' ∨ ∃ cell ∈ row, c ∈ cell := by
  obtain ⟨position, hposition⟩ := List.mem_iff_getElem?.1 hc
  by_cases houtside : Outside starts row position
  · exact .inl (h.spaced position c hposition houtside)
  rw [Outside] at houtside
  push Not at houtside
  obtain ⟨i, start, cell, hstart, hcell, hle, hlt⟩ := houtside
  obtain ⟨back, hback⟩ := h.shown i start cell hstart hcell
  have hinside : (text.drop start)[position - start]? = some c := by
    rw [List.getElem?_drop, Nat.add_sub_cancel' hle, hposition]
  rw [← hback, List.getElem?_append_left (by omega)] at hinside
  exact .inr ⟨cell, List.mem_of_getElem? hcell, List.mem_of_getElem? hinside⟩

/-- A row as it is shown in a line: every cell from the start of its column on, but for blanks at
the end of the cell, with two places or more before the next column, and spaces in between. -/
structure Aligned (starts : List Nat) (row : Row) (text : List Char) : Prop where
  shown : ∀ (i start : Nat) (cell : List Char), starts[i]? = some start → row[i]? = some cell →
    trimEnd cell <+: text.drop start
  apart : ∀ (i start next : Nat) (cell : List Char), starts[i]? = some start →
    row[i]? = some cell → starts[i + 1]? = some next → start + cell.length + 2 ≤ next
  spaced : ∀ (position : Nat) (c : Char), text[position]? = some c →
    Outside starts row position → c = ' '
  trimmed : ∀ c, text.getLast? = some c → isBlank c = false

theorem aligned_line (h : Fits sizes row) :
    Aligned (startsOf sizes) row (Columns.line sizes row) where
  shown i start cell hstart hcell :=
    trimEnd_prefix_drop ((shows_intercalate h).shown i start cell hstart hcell)
  apart _ _ _ _ hstart hcell hnext := apart_startsOf h hstart hcell hnext
  spaced position c hc := by
    apply (shows_intercalate h).spaced position c
    obtain ⟨hlt, -⟩ := List.getElem?_eq_some_iff.1 hc
    rw [Columns.line] at hc hlt
    obtain ⟨back, hback⟩ := isPrefix_trimEnd (gap.intercalate (List.zipWith padTo sizes row))
    rw [← hback, List.getElem?_append_left hlt]
    exact hc
  trimmed _ := isBlank_of_getLast?_trimEnd

theorem feed_notMem_line (h : Fits sizes row) (hcells : ∀ cell ∈ row, '\n' ∉ cell) :
    '\n' ∉ Columns.line sizes row := by
  intro hmem
  rcases (shows_intercalate h).eq_space_or_mem ((isPrefix_trimEnd _).subset hmem) with
    hspace | ⟨cell, hcell, hfeed⟩
  · cases hspace
  · exact hcells cell hcell hfeed

/-- The lines of a table, one for the heading and one for each row, have their columns in common. -/
theorem aligned_table (hrows : ∀ row ∈ rows, row.length = heading.length) :
    List.Forall₂ (Aligned (startsOf (widths heading rows))) (heading :: rows)
      (table heading rows) := by
  rw [table, List.forall₂_map_right_iff, List.forall₂_same]
  exact fun row hrow => aligned_line (fits_widths hrows hrow)

/-- There is a table if no cell is too long, and only then. -/
theorem table?_eq_some_iff {lines : List (List Char)}
    (hrows : ∀ row ∈ rows, row.length = heading.length) :
    table? heading rows = some lines ↔
      (∀ row ∈ heading :: rows, ∀ cell ∈ row, cell.length ≤ widthLimit) ∧
        table heading rows = lines := by
  have hwidths : (widths heading rows).all (· ≤ widthLimit) = true ↔
      ∀ row ∈ heading :: rows, ∀ cell ∈ row, cell.length ≤ widthLimit := by
    rw [List.all_eq_true]
    simp only [decide_eq_true_eq]
    constructor
    · exact fun hsizes row hrow => (fits_widths hrows hrow).length_le hsizes
    · exact widths_le
  rw [table?, Option.ite_none_right_eq_some, hwidths, Option.some.injEq]

theorem feed_notMem_table (hrows : ∀ row ∈ rows, row.length = heading.length)
    (hcells : ∀ row ∈ heading :: rows, ∀ cell ∈ row, '\n' ∉ cell) :
    ∀ line ∈ table heading rows, '\n' ∉ line := by
  intro line hline
  obtain ⟨row, hrow, rfl⟩ := List.mem_map.1 hline
  exact feed_notMem_line (fits_widths hrows hrow) (hcells row hrow)

end Columns

end ScriptPlugins.Text
