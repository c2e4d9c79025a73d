import ScriptPlugins.Proofs.Source.Lexing
import ScriptPlugins.Proofs.Text.Letter

/-!
# The first token by its first characters

One equation for each kind of token. The classes of first characters do not overlap, so the order in
which `cut` tries them does not matter to a reader who knows what comes first. Only a shebang depends
on where it stands.
-/

namespace ScriptPlugins.Token

open Text

theorem cut_shebang (rest : List Char) :
    cut true '#' ('!' :: rest) =
      (.shebang, '#' :: '!' :: rest.takeWhile inLine, rest.dropWhile inLine) := by
  have hbang : inLine '!' = true := by decide
  simp [cut, hbang]

theorem cut_of_isBlank (atStart : Bool) {c : Char} (rest : List Char) (h : isBlank c = true) :
    cut atStart c rest = (.whitespace, c :: rest.takeWhile isBlank, rest.dropWhile isBlank) := by
  have hhash : c ≠ '#' := by
    rintro rfl
    exact absurd h (by decide)
  simp [cut, hhash, h]

theorem cut_lineComment (atStart : Bool) (rest : List Char) :
    cut atStart '/' ('/' :: rest) =
      (.lineComment, '/' :: '/' :: rest.takeWhile inLine, rest.dropWhile inLine) := by
  have hblank : isBlank '/' = false := by decide
  have hslash : inLine '/' = true := by decide
  simp [cut, hblank, hslash]

theorem cut_blockComment (atStart : Bool) (rest : List Char) :
    cut atStart '/' ('*' :: rest) =
      (.blockComment, '/' :: '*' :: (spanComment 1 rest).1, (spanComment 1 rest).2) := by
  have hblank : isBlank '/' = false := by decide
  simp [cut, hblank]

theorem cut_quoted (atStart : Bool) {rest name after : List Char}
    (h : quoted? rest = some (name, after)) :
    cut atStart '`' rest = (.identifier, '`' :: (name ++ ['`']), after) := by
  have hblank : isBlank '`' = false := by decide
  simp [cut, hblank, h]

theorem cut_of_isStart (atStart : Bool) {c : Char} (rest : List Char)
    (h : Identifier.isStart c = true) :
    cut atStart c rest =
      (.identifier, c :: rest.takeWhile Identifier.isPart, rest.dropWhile Identifier.isPart) := by
  have hne : ∀ d : Char, Identifier.isStart d = false → c ≠ d := by
    rintro d hd rfl
    rw [h] at hd
    exact Bool.noConfusion hd
  simp [cut, not_isBlank_of_isStart h, hne '#' (by decide), hne '/' (by decide),
    hne '`' (by decide), h]

theorem cut_dot (atStart : Bool) (rest : List Char) : cut atStart '.' rest = (.dot, ['.'], rest) := by
  have hblank : isBlank '.' = false := by decide
  have hstart : Identifier.isStart '.' = false := by decide
  simp [cut, hblank, hstart]

/-- Nothing but a part of an identifier, a dot or a backtick starts a token of a name. -/
theorem cut_kind_of_not_isPart (atStart : Bool) {c : Char} (rest : List Char)
    (hpart : Identifier.isPart c = false) (hdot : c ≠ '.') (htick : c ≠ '`') :
    (cut atStart c rest).1 ≠ .identifier ∧ (cut atStart c rest).1 ≠ .dot := by
  have hstart : Identifier.isStart c = false := by
    rw [Bool.eq_false_iff]
    intro hstart
    rw [Identifier.isPart_of_isStart hstart] at hpart
    exact Bool.noConfusion hpart
  unfold cut
  simp only [hstart, hdot, htick, beq_iff_eq, Bool.false_eq_true, if_false]
  repeat' split
  all_goals simp

end ScriptPlugins.Token
