/-!
# Cutting a list at a separator

`pieces` cuts at every occurrence, so that joining the pieces with the separator gives the list
back, and a list has one piece more than it has separators.
-/

namespace ScriptPlugins.Text

variable {α : Type} [DecidableEq α]

def pieces (separator : α) : List α → List (List α)
  | [] => [[]]
  | c :: rest =>
    if c = separator then [] :: pieces separator rest
    else match pieces separator rest with
      | [] => [[c]]
      | piece :: more => (c :: piece) :: more

omit [DecidableEq α] in
def join (separator : α) : List (List α) → List α
  | [] => []
  | [piece] => piece
  | piece :: next :: more => piece ++ separator :: join separator (next :: more)

theorem pieces_ne_nil (separator : α) (text : List α) : pieces separator text ≠ [] := by
  cases text with
  | nil => simp [pieces]
  | cons c rest =>
    unfold pieces
    split
    · simp
    · split <;> simp

theorem join_pieces (separator : α) (text : List α) :
    join separator (pieces separator text) = text := by
  induction text with
  | nil => rfl
  | cons c rest ih =>
    unfold pieces
    split
    · next h =>
      subst h
      cases hp : pieces c rest with
      | nil => exact absurd hp (pieces_ne_nil c rest)
      | cons piece more => rw [hp] at ih; simp [join, ih]
    · cases hp : pieces separator rest with
      | nil => exact absurd hp (pieces_ne_nil separator rest)
      | cons piece more =>
        rw [hp] at ih
        cases more with
        | nil => simpa [join] using ih
        | cons next more => simpa [join] using ih

theorem separator_not_mem_of_mem_pieces (separator : α) (text : List α) :
    ∀ piece ∈ pieces separator text, separator ∉ piece := by
  induction text with
  | nil => simp [pieces]
  | cons c rest ih =>
    unfold pieces
    split
    · intro piece hpiece
      rcases List.mem_cons.1 hpiece with rfl | hpiece
      · simp
      · exact ih piece hpiece
    · next hc =>
      cases hp : pieces separator rest with
      | nil => exact absurd hp (pieces_ne_nil separator rest)
      | cons first more =>
        rw [hp] at ih
        intro piece hpiece
        rcases List.mem_cons.1 hpiece with rfl | hpiece
        · have := ih first (by simp)
          simp [this, Ne.symm hc]
        · exact ih piece (by simp [hpiece])

theorem pieces_append (separator : α) (text more : List α) :
    pieces separator (text ++ separator :: more) =
      pieces separator text ++ pieces separator more := by
  induction text with
  | nil => simp [pieces]
  | cons c rest ih =>
    rw [List.cons_append]
    by_cases hc : c = separator
    · simp [pieces, hc, ih]
    · cases hp : pieces separator rest with
      | nil => exact absurd hp (pieces_ne_nil separator rest)
      | cons piece more => simp [pieces, hc, ih, hp]

theorem pieces_of_not_mem (separator : α) (text : List α) (h : separator ∉ text) :
    pieces separator text = [text] := by
  induction text with
  | nil => rfl
  | cons c rest ih =>
    rw [List.mem_cons, not_or] at h
    obtain ⟨hc, hrest⟩ := h
    simp [pieces, Ne.symm hc, ih hrest]

end ScriptPlugins.Text
