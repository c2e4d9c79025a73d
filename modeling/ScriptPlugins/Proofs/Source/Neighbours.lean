import ScriptPlugins.Proofs.Source.Provenance

/-!
# Neighbouring tokens

A token is as long as it can be, and it is the same token when nothing stands around it. Both are seen
from what one draw does. Nothing in `Cuts` is lost when the text behind a token is taken away, so the
token is cut off from its own text again. And what stands behind it is what the next token starts with,
so what cannot stand there cannot be the next token.

A comment without an end is the one token that forbids everything behind it.
-/

namespace ScriptPlugins

open Text Grammar

namespace Token

variable {atStart : Bool} {kind : Kind} {text after : List Char} {p : Char → Bool}

theorem span_of_forall (h : ∀ c ∈ text, p c = true) :
    text.takeWhile p = text ∧ text.dropWhile p = [] :=
  ⟨List.takeWhile_eq_self_iff.2 h, List.dropWhile_eq_nil_iff.2 h⟩

/-- A token is cut off again from its own text, and nothing is left. -/
theorem Cuts.again (h : Cuts atStart kind text after) :
    ∃ c more, text = c :: more ∧ cut true c more = (kind, text, []) := by
  cases h with
  | @shebang line _ hline =>
      obtain ⟨htake, hdrop⟩ := span_of_forall (inLine_of_feed_notMem hline)
      exact ⟨'#', '!' :: line, rfl, by rw [cut_shebang, htake, hdrop]⟩
  | @whitespace _ c more _ hblank hmore =>
      obtain ⟨htake, hdrop⟩ := span_of_forall hmore
      exact ⟨c, more, rfl, by rw [cut_of_isBlank true more hblank, htake, hdrop]⟩
  | @lineComment _ line _ hline =>
      obtain ⟨htake, hdrop⟩ := span_of_forall (inLine_of_feed_notMem hline)
      exact ⟨'/', '/' :: line, rfl, by rw [cut_lineComment, htake, hdrop]⟩
  | @closed _ inside _ hinside =>
      have hspan := spanComment_append_of_inComment hinside 0 []
      rw [spanComment, List.append_nil] at hspan
      exact ⟨'/', '*' :: inside, rfl, by rw [cut_blockComment, hspan]⟩
  | @unclosed _ inside hspan =>
      exact ⟨'/', '*' :: inside, rfl, by rw [cut_blockComment, hspan]⟩
  | @quoted _ name _ hne htick hfeed =>
      exact ⟨'`', name ++ ['`'], rfl, cut_quoted true (quoted?_of_segment hne htick hfeed [])⟩
  | @plain _ c more _ hstart hmore =>
      obtain ⟨htake, hdrop⟩ := span_of_forall hmore
      exact ⟨c, more, rfl, by rw [cut_of_isStart true more hstart, htake, hdrop]⟩
  | dot => exact ⟨'.', [], rfl, cut_dot true []⟩
  | @other _ c _ hblank hstart hdot =>
      -- alone, a slash opens no comment and a backtick no name
      refine ⟨c, [], rfl, ?_⟩
      have hquoted : quoted? [] = none := rfl
      simp [cut, hblank, hstart, hdot, hquoted]

theorem tokens_of_cuts (h : Cuts atStart kind text after) :
    tokens text = [⟨kind, text, 0⟩] := by
  obtain ⟨c, more, rfl, hcut⟩ := h.again
  have hstart : cut ((0 : Nat) == 0) c more = (kind, c :: more, []) := hcut
  rw [tokens, Lexer.ofList, Lexer.drawAll_cons hstart, Lexer.drawAll_nil]

end Token

namespace Lexer

variable {lexer after later : Lexer} {source : List Char} {token next : Token} {index : Nat}

theorem cuts_next? (h : lexer.next? = some (token, after)) :
    Token.Cuts (lexer.position == 0) token.kind token.text after.rest := by
  unfold next? at h
  split at h
  · cases h
  · next c rest hrest =>
    obtain ⟨rfl, rfl⟩ := Prod.mk.inj (Option.some.inj h)
    exact Token.cuts_cut (lexer.position == 0) c rest

/-- A token starts with what the rest starts with. -/
theorem head?_next? (h : lexer.next? = some (token, after)) :
    ∃ c, token.text.head? = some c ∧ lexer.rest.head? = some c := by
  obtain ⟨hne, hrest, -, -⟩ := next?_eq_some h
  obtain ⟨c, more, htext⟩ := List.exists_cons_of_ne_nil hne
  rw [← hrest, htext]
  exact ⟨c, rfl, rfl⟩

/-- Two tokens that are drawn one after the other. -/
theorem next?_next? (h : lexer.next? = some (token, after)) (hnext : after.next? = some (next, later)) :
    (token.kind = .whitespace → next.kind ≠ .whitespace) ∧
      (token.kind = .identifier → token.text.head? ≠ some '`' →
        ∀ c ∈ next.text.head?, Identifier.isPart c = false) ∧
      (token.kind = .lineComment ∨ token.kind = .shebang →
        next.kind = .whitespace ∧ next.text.head? = some '\n') := by
  have hcuts := cuts_next? h
  have hcutsNext := cuts_next? hnext
  obtain ⟨c, htext, hrest⟩ := head?_next? hnext
  refine ⟨?_, ?_, ?_⟩
  · intro hkind hkindNext
    rw [hkind] at hcuts
    rw [hkindNext] at hcutsNext
    have hblank := hcutsNext.after_whitespace.1 c htext
    rw [hcuts.after_whitespace.2 c hrest] at hblank
    cases hblank
  · intro hkind htick
    rw [hkind] at hcuts
    rw [htext, ← hrest]
    exact hcuts.after_word htick
  · intro hkind
    obtain rfl := hcuts.after_line hkind c hrest
    exact ⟨hcutsNext.whitespace_of_feed htext, htext⟩

/-- Behind the first token the lexer is not at the start of the source. -/
theorem eq_zero_of_position (h : (tokens source)[index]? = some token)
    (hposition : ((ofList source).draw index).2.position = 0) : index = 0 := by
  cases index with
  | zero => rfl
  | succ index =>
      have hlt : index < (tokens source).length :=
        Nat.lt_of_succ_lt (List.getElem?_eq_some_iff.1 h).1
      obtain ⟨after, -, hnext, hdraw⟩ := next?_draw (List.getElem?_eq_getElem hlt)
      obtain ⟨hne, -, -, hafter⟩ := next?_eq_some hnext
      have hpos := byteLength_pos hne
      rw [hdraw] at hposition
      change after.position = 0 at hposition
      omega

/-- **Tokens stand by themselves.** The text of a token is one token, of the same kind. Whitespace is
not followed by whitespace, a plain identifier not by a part of identifiers, and a token that runs to
the end of its line by nothing but the line feed. A block comment without its end is the last token and
a shebang is the first. -/
theorem tokens_self_contained (source : List Char) (index : Nat) (token : Token)
    (htoken : (tokens source)[index]? = some token) :
    tokens token.text = [⟨token.kind, token.text, 0⟩] ∧
      (token.kind = .shebang → index = 0) ∧
      (token.kind = .blockComment → ¬ Closed token.text → (tokens source).length = index + 1) ∧
      ∀ next, (tokens source)[index + 1]? = some next →
        (token.kind = .whitespace → next.kind ≠ .whitespace) ∧
        (token.kind = .identifier → token.text.head? ≠ some '`' →
          ∀ c ∈ next.text.head?, Identifier.isPart c = false) ∧
        (token.kind = .lineComment ∨ token.kind = .shebang →
          next.kind = .whitespace ∧ next.text.head? = some '\n') := by
  obtain ⟨after, -, hdrawn, hdraw⟩ := next?_draw htoken
  have hcuts := cuts_next? hdrawn
  have hfollowing : ∀ next, (tokens source)[index + 1]? = some next →
      ∃ later, after.next? = some (next, later) := by
    intro next hnext
    obtain ⟨later, -, hlater, -⟩ := next?_draw hnext
    rw [hdraw] at hlater
    exact ⟨later, hlater⟩
  refine ⟨Token.tokens_of_cuts hcuts, ?_, ?_, ?_⟩
  · intro hkind
    rw [hkind] at hcuts
    exact eq_zero_of_position htoken (beq_iff_eq.1 hcuts.atStart_of_shebang)
  · intro hkind hclosed
    rw [hkind] at hcuts
    have hlt := (List.getElem?_eq_some_iff.1 htoken).1
    have hend : (tokens source)[index + 1]? = none := by
      rw [Option.eq_none_iff_forall_ne_some]
      intro next hnext
      obtain ⟨later, hlater⟩ := hfollowing next hnext
      rw [next?_eq_none_iff.2 (hcuts.after_comment hclosed)] at hlater
      cases hlater
    exact Nat.le_antisymm (List.getElem?_eq_none_iff.1 hend) hlt
  · intro next hnext
    obtain ⟨later, hlater⟩ := hfollowing next hnext
    exact next?_next? hdrawn hlater

/-- Identifiers side by side, and an end that shares its star with the opening and so is none. -/
theorem tokens_self_contained_open :
    (tokens "#!k\n//é\n`q`x/*/".toList)[2]? = some ⟨.lineComment, "//é".toList, 4⟩ ∧
      tokens "//é".toList = [⟨.lineComment, "//é".toList, 0⟩] ∧
      (tokens "#!k\n//é\n`q`x/*/".toList)[5]? = some ⟨.identifier, ['x'], 12⟩ ∧
      Identifier.isPart '/' = false ∧
      (tokens "#!k\n//é\n`q`x/*/".toList)[6]? = some ⟨.blockComment, "/*/".toList, 13⟩ ∧
      ¬ Closed "/*/".toList ∧ (tokens "#!k\n//é\n`q`x/*/".toList).length = 7 := by
  obtain ⟨source, hsource⟩ : ∃ source, source = "#!k\n//é\n`q`x/*/".toList := ⟨_, rfl⟩
  have hline : (tokens source)[2]? = some ⟨.lineComment, "//é".toList, 4⟩ := by
    rw [hsource]
    decide +kernel
  have hword : (tokens source)[5]? = some ⟨.identifier, ['x'], 12⟩ := by
    rw [hsource]
    decide +kernel
  have hcomment : (tokens source)[6]? = some ⟨.blockComment, "/*/".toList, 13⟩ := by
    rw [hsource]
    decide +kernel
  have hopen : ¬ Closed "/*/".toList := by
    rintro ⟨inside, htext, hinside⟩
    obtain rfl : ['/'] = inside := (List.cons.inj (List.cons.inj htext).2).2
    cases hinside with
    | char _ _ hrest => cases hrest
  obtain ⟨hagain, -, -, -⟩ := tokens_self_contained source 2 _ hline
  obtain ⟨-, -, -, hnext⟩ := tokens_self_contained source 5 _ hword
  obtain ⟨-, -, hlast, -⟩ := tokens_self_contained source 6 _ hcomment
  obtain ⟨-, hpart, -⟩ := hnext _ hcomment
  rw [← hsource]
  exact ⟨hline, hagain, hword, hpart rfl (by decide) '/' rfl, hcomment, hopen,
    hlast rfl hopen⟩

end Lexer

end ScriptPlugins
