import ScriptPlugins.Text.Pieces

/-!
# Pieces of a list

Cutting undoes joining, as long as no piece has a separator in it. Of a list that is cut it can be seen
from the list whether all its pieces have something in them: no separator may stand at an end or next
to another one.
-/

namespace ScriptPlugins.Text

variable {α : Type} [DecidableEq α] {separator c : α} {text rest : List α}

theorem pieces_join (separator : α) {list : List (List α)} (hne : list ≠ [])
    (h : ∀ piece ∈ list, separator ∉ piece) : pieces separator (join separator list) = list := by
  induction list with
  | nil => exact absurd rfl hne
  | cons piece rest ih =>
      have hpiece := h piece List.mem_cons_self
      cases rest with
      | nil => exact pieces_of_not_mem separator piece hpiece
      | cons next more =>
          have hrest := ih (List.cons_ne_nil next more)
            fun other hother => h other (List.mem_cons_of_mem _ hother)
          rw [join, pieces_append, pieces_of_not_mem separator piece hpiece, hrest,
            List.singleton_append]

omit [DecidableEq α] in
/-- Ending every piece with the separator is joining with one more at the end. -/
theorem flatMap_ended (separator : α) {list : List (List α)} (hne : list ≠ []) :
    list.flatMap (· ++ [separator]) = join separator list ++ [separator] := by
  induction list with
  | nil => exact absurd rfl hne
  | cons piece rest ih =>
      cases rest with
      | nil => simp [join]
      | cons next more =>
          rw [List.flatMap_cons, ih (List.cons_ne_nil next more), join]
          simp

theorem pieces_separator (separator : α) (rest : List α) :
    pieces separator (separator :: rest) = [] :: pieces separator rest :=
  pieces_append separator [] rest

theorem pieces_cons_of_ne (hc : c ≠ separator) : ∃ piece more, pieces separator rest = piece :: more ∧
    pieces separator (c :: rest) = (c :: piece) :: more := by
  obtain ⟨piece, more, hpieces⟩ := List.exists_cons_of_ne_nil (pieces_ne_nil separator rest)
  exact ⟨piece, more, hpieces, by rw [pieces, if_neg hc, hpieces]⟩

/-- Nothing is lost by cutting but separators. -/
theorem exists_mem_pieces (h : c ∈ text) (hc : c ≠ separator) :
    ∃ piece ∈ pieces separator text, c ∈ piece := by
  induction text with
  | nil => cases h
  | cons d rest ih =>
      by_cases hd : d = separator
      · rcases List.mem_cons.1 h with rfl | h
        · exact absurd hd hc
        · obtain ⟨piece, hpiece, hmem⟩ := ih h
          rw [hd, pieces_separator]
          exact ⟨piece, List.mem_cons_of_mem _ hpiece, hmem⟩
      · obtain ⟨first, more, hrest, hpieces⟩ := @pieces_cons_of_ne _ _ separator d rest hd
        rw [hpieces]
        rcases List.mem_cons.1 h with rfl | h
        · exact ⟨_, List.mem_cons_self, List.mem_cons_self⟩
        · obtain ⟨piece, hpiece, hmem⟩ := ih h
          rw [hrest] at hpiece
          rcases List.mem_cons.1 hpiece with rfl | hpiece
          · exact ⟨_, List.mem_cons_self, List.mem_cons_of_mem _ hmem⟩
          · exact ⟨piece, List.mem_cons_of_mem _ hpiece, hmem⟩

theorem head?_pieces_eq_nil_iff :
    (pieces separator text).head? = some [] ↔ text = [] ∨ text.head? = some separator := by
  cases text with
  | nil => simp [pieces]
  | cons c rest =>
      by_cases hc : c = separator
      · rw [hc, pieces_separator]
        simp
      · obtain ⟨piece, more, -, hpieces⟩ := @pieces_cons_of_ne _ _ separator c rest hc
        rw [hpieces]
        simp [hc]

/-- The pieces behind the first one are empty where two separators meet, and behind the last. -/
theorem nil_mem_tail_pieces_iff : [] ∈ (pieces separator text).tail ↔
    text.getLast? = some separator ∨ [separator, separator] <:+: text := by
  induction text with
  | nil => simp [pieces]
  | cons c rest ih =>
      by_cases hc : c = separator
      · subst hc
        cases rest with
        | nil => simp [pieces]
        | cons d more =>
            have hsplit : [] ∈ pieces c (d :: more) ↔
                (pieces c (d :: more)).head? = some [] ∨ [] ∈ (pieces c (d :: more)).tail := by
              obtain ⟨piece, others, hpieces⟩ := List.exists_cons_of_ne_nil (pieces_ne_nil c (d :: more))
              simp [hpieces, eq_comm]
            have hpair : [c, c] <:+: c :: d :: more ↔
                (d :: more).head? = some c ∨ [c, c] <:+: d :: more := by
              rw [List.infix_cons_iff]
              exact or_congr_left (by simp [List.cons_prefix_cons, eq_comm])
            rw [pieces_separator, List.tail_cons, hsplit, head?_pieces_eq_nil_iff, ih,
              or_iff_right (List.cons_ne_nil d more), hpair, List.getLast?_cons_cons]
            exact or_left_comm
      · obtain ⟨piece, more, hrest, hpieces⟩ := @pieces_cons_of_ne _ _ separator c rest hc
        rw [hrest, List.tail_cons] at ih
        have hpair : ¬[separator, separator] <+: c :: rest := by
          rw [List.cons_prefix_cons, not_and]
          exact fun heq => absurd heq.symm hc
        rw [hpieces, List.tail_cons, ih, List.infix_cons_iff, or_iff_right hpair]
        cases rest with
        | nil => simp [hc]
        | cons d more => rw [List.getLast?_cons_cons]

theorem nil_mem_pieces_iff : [] ∈ pieces separator text ↔ text = [] ∨ text.head? = some separator ∨
    text.getLast? = some separator ∨ [separator, separator] <:+: text := by
  obtain ⟨piece, more, hpieces⟩ := List.exists_cons_of_ne_nil (pieces_ne_nil separator text)
  have hhead := @head?_pieces_eq_nil_iff _ _ separator text
  have htail := @nil_mem_tail_pieces_iff _ _ separator text
  rw [hpieces, List.head?_cons, Option.some.injEq, eq_comm] at hhead
  rw [hpieces, List.tail_cons] at htail
  rw [hpieces, List.mem_cons, hhead, htail, or_assoc]

end ScriptPlugins.Text
