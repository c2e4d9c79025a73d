import ScriptPlugins.Source.Token

/-!
# Drawing tokens

A lexer is where it is because of what it has drawn: its position counts the bytes of the tokens so
far, and what is left of the source follows them. `next?_eq_some` is that fact for one token, and a
whole run repeats it. No token is empty, so as many draws as the source has characters leave nothing.

`drawAll` computes how often to draw beforehand. The equations at the end let it be read token by
token, the way a scan over the tokens reads it.
-/

namespace ScriptPlugins.Lexer

@[simp]
theorem byteLength_append (text more : List Char) :
    byteLength (text ++ more) = byteLength text + byteLength more := by
  induction text with
  | nil => simp [byteLength]
  | cons c text ih =>
      simp only [List.cons_append, byteLength, ih]
      omega

theorem byteLength_pos {text : List Char} (h : text ≠ []) : 0 < byteLength text := by
  cases text with
  | nil => exact absurd rfl h
  | cons c text =>
      have := c.utf8Size_pos
      simp only [byteLength]
      omega

theorem byteLength_eq_utf8ByteSize (text : List Char) :
    byteLength text = (String.ofList text).utf8ByteSize := by
  induction text with
  | nil => rfl
  | cons c text ih =>
      rw [← List.singleton_append, String.ofList_append, String.utf8ByteSize_append,
        byteLength_append, ih]
      simp [byteLength]

theorem next?_eq_none_iff {lexer : Lexer} : lexer.next? = none ↔ lexer.rest = [] := by
  unfold next?
  split <;> simp_all

/-- What one draw does: a token that is not empty goes from the front of the rest, and the lexer
moves to its end. -/
theorem next?_eq_some {lexer after : Lexer} {token : Token}
    (h : lexer.next? = some (token, after)) :
    token.text ≠ [] ∧ token.text ++ after.rest = lexer.rest ∧ token.offset = lexer.position ∧
      after.position = lexer.position + byteLength token.text := by
  unfold next? at h
  split at h
  · simp at h
  · next c rest hrest =>
    simp only [Option.some.injEq, Prod.mk.injEq] at h
    obtain ⟨rfl, rfl⟩ := h
    exact ⟨Token.cut_text_ne_nil _ c rest, (Token.cut_append _ c rest).trans hrest.symm, rfl, rfl⟩

theorem length_rest_lt {lexer after : Lexer} {token : Token}
    (h : lexer.next? = some (token, after)) : after.rest.length < lexer.rest.length := by
  obtain ⟨hne, hrest, -, -⟩ := next?_eq_some h
  have hpos := List.length_pos_iff.2 hne
  have hlength := congrArg List.length hrest
  rw [List.length_append] at hlength
  omega

theorem draw_succ_of_next?_eq_some {lexer after : Lexer} {token : Token} (count : Nat)
    (h : lexer.next? = some (token, after)) :
    lexer.draw (count + 1) = (token :: (after.draw count).1, (after.draw count).2) := by
  simp [draw, h]

theorem draw_of_next?_eq_none {lexer : Lexer} (count : Nat) (h : lexer.next? = none) :
    lexer.draw count = ([], lexer) := by
  cases count with
  | zero => rfl
  | succ count => simp [draw, h]

/-- The tokens of a run are the part of the source that the lexer has passed. -/
theorem draw_texts (count : Nat) (lexer : Lexer) :
    (lexer.draw count).1.flatMap Token.text ++ (lexer.draw count).2.rest = lexer.rest ∧
      (lexer.draw count).2.position =
        lexer.position + byteLength ((lexer.draw count).1.flatMap Token.text) := by
  induction count generalizing lexer with
  | zero => simp [draw, byteLength]
  | succ count ih =>
      cases hnext : lexer.next? with
      | none => simp [draw_of_next?_eq_none _ hnext, byteLength]
      | some drawn =>
          obtain ⟨token, after⟩ := drawn
          obtain ⟨-, hrest, -, hposition⟩ := next?_eq_some hnext
          obtain ⟨hihRest, hihPosition⟩ := ih after
          rw [draw_succ_of_next?_eq_some _ hnext]
          refine ⟨?_, ?_⟩
          · rw [List.flatMap_cons, List.append_assoc, hihRest, hrest]
          · rw [hihPosition, hposition, List.flatMap_cons, byteLength_append]
            omega

/-- Drawing in two goes is drawing in one. -/
theorem draw_add (count more : Nat) (lexer : Lexer) :
    lexer.draw (count + more) =
      ((lexer.draw count).1 ++ ((lexer.draw count).2.draw more).1,
        ((lexer.draw count).2.draw more).2) := by
  induction count generalizing lexer with
  | zero => simp [draw]
  | succ count ih =>
      cases hnext : lexer.next? with
      | none => simp [draw_of_next?_eq_none _ hnext]
      | some drawn =>
          obtain ⟨token, after⟩ := drawn
          rw [Nat.add_right_comm, draw_succ_of_next?_eq_some _ hnext,
            draw_succ_of_next?_eq_some _ hnext, ih]
          simp

theorem rest_draw_eq_nil {count : Nat} {lexer : Lexer} (h : lexer.rest.length ≤ count) :
    (lexer.draw count).2.rest = [] := by
  induction count generalizing lexer with
  | zero => simpa [draw] using h
  | succ count ih =>
      cases hnext : lexer.next? with
      | none =>
          rw [draw_of_next?_eq_none _ hnext]
          exact next?_eq_none_iff.1 hnext
      | some drawn =>
          rw [draw_succ_of_next?_eq_some _ hnext]
          have hlt := length_rest_lt hnext
          exact ih (by omega)

theorem drawAll_of_rest_eq_nil {lexer : Lexer} (h : lexer.rest = []) :
    lexer.drawAll = ([], lexer) :=
  draw_of_next?_eq_none _ (next?_eq_none_iff.2 h)

/-- Further draws after the end change nothing. -/
theorem draw_eq_drawAll {count : Nat} {lexer : Lexer} (h : lexer.rest.length ≤ count) :
    lexer.draw count = lexer.drawAll := by
  obtain ⟨more, rfl⟩ := Nat.exists_eq_add_of_le h
  have hend : lexer.drawAll.2.next? = none := next?_eq_none_iff.2 (rest_draw_eq_nil (Nat.le_refl _))
  rw [draw_add, ← drawAll, draw_of_next?_eq_none more hend]
  simp

theorem drawAll_of_next?_eq_some {lexer after : Lexer} {token : Token}
    (h : lexer.next? = some (token, after)) :
    lexer.drawAll = (token :: after.drawAll.1, after.drawAll.2) := by
  have hlt := length_rest_lt h
  obtain ⟨count, hcount⟩ : ∃ count, lexer.rest.length = count + 1 :=
    ⟨lexer.rest.length - 1, by omega⟩
  rw [drawAll, hcount, draw_succ_of_next?_eq_some _ h, draw_eq_drawAll (by omega)]

theorem rest_drawAll (lexer : Lexer) : lexer.drawAll.2.rest = [] :=
  rest_draw_eq_nil (Nat.le_refl _)

theorem drawAll_texts (lexer : Lexer) :
    lexer.drawAll.1.flatMap Token.text = lexer.rest ∧
      lexer.drawAll.2.position = lexer.position + byteLength lexer.rest := by
  obtain ⟨htexts, hposition⟩ := draw_texts lexer.rest.length lexer
  rw [← drawAll, rest_drawAll, List.append_nil] at htexts
  rw [← drawAll, htexts] at hposition
  exact ⟨htexts, hposition⟩

theorem draw_length_drawAll (lexer : Lexer) :
    lexer.draw lexer.drawAll.1.length = lexer.drawAll := by
  induction hlength : lexer.rest.length using Nat.strongRecOn generalizing lexer with
  | ind length ih =>
      cases hnext : lexer.next? with
      | none => rw [drawAll_of_rest_eq_nil (next?_eq_none_iff.1 hnext), List.length_nil, draw]
      | some drawn =>
          obtain ⟨token, after⟩ := drawn
          have hlt := length_rest_lt hnext
          rw [drawAll_of_next?_eq_some hnext, List.length_cons,
            draw_succ_of_next?_eq_some _ hnext, ih _ (hlength ▸ hlt) after rfl]

theorem next?_draw {index : Nat} {lexer : Lexer} {token : Token}
    (h : lexer.drawAll.1[index]? = some token) :
    ∃ after, (lexer.draw index).1 = lexer.drawAll.1.take index ∧
      (lexer.draw index).2.next? = some (token, after) ∧
      lexer.draw (index + 1) = (lexer.drawAll.1.take (index + 1), after) := by
  induction index generalizing lexer with
  | zero =>
      cases hnext : lexer.next? with
      | none =>
          rw [drawAll_of_rest_eq_nil (next?_eq_none_iff.1 hnext)] at h
          simp at h
      | some drawn =>
          rw [drawAll_of_next?_eq_some hnext] at h ⊢
          obtain rfl : drawn.1 = token := by simpa using h
          exact ⟨drawn.2, rfl, hnext, draw_succ_of_next?_eq_some 0 hnext⟩
  | succ index ih =>
      cases hnext : lexer.next? with
      | none =>
          rw [drawAll_of_rest_eq_nil (next?_eq_none_iff.1 hnext)] at h
          simp at h
      | some drawn =>
          rw [drawAll_of_next?_eq_some hnext] at h ⊢
          obtain ⟨after, htaken, hdrawn, hdraw⟩ := ih (by simpa using h)
          refine ⟨after, ?_, ?_, ?_⟩
          · simp [draw_succ_of_next?_eq_some _ hnext, htaken]
          · simpa [draw_succ_of_next?_eq_some _ hnext] using hdrawn
          · rw [draw_succ_of_next?_eq_some _ hnext, hdraw]
            simp

end ScriptPlugins.Lexer
