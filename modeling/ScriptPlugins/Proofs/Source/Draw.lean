import Mathlib.Data.List.TakeWhile
import ScriptPlugins.Proofs.Source.Declaration

/-!
# One draw

The lexer finds out which kind of token comes next by tests in a fixed order. `Cuts` says of each kind
what its tokens are made of and what cannot stand behind them, without the order and without the tests,
and what is known of a token by its kind is read off it.

Only a block comment can come in two ways. Either the part behind its opening is balanced, or the scan
for the end has come to the end of the text.
-/

namespace ScriptPlugins

open Text Grammar

namespace Token

variable {atStart : Bool} {kind : Kind} {c : Char} {text rest after : List Char} {p : Char → Bool}

theorem of_mem_head?_dropWhile : ∀ c ∈ (text.dropWhile p).head?, p c = false := by
  intro c hc
  have hend := List.head?_dropWhile_not p text
  rw [Option.mem_def.1 hc] at hend
  simpa using hend

theorem feed_of_mem_head?_dropWhile : ∀ c ∈ (text.dropWhile inLine).head?, c = '\n' := by
  intro c hc
  have hend := of_mem_head?_dropWhile c hc
  simpa [inLine] using hend

theorem feed_notMem_takeWhile : '\n' ∉ text.takeWhile inLine := by
  intro hmem
  exact absurd (List.mem_takeWhile_imp hmem) (by decide)

/-- A scan for the end of a comment passes the rest of a balanced one, or there is none and it comes
to the end of the text. -/
theorem inComment_or_spanComment_eq (text : List Char) (depth : Nat) :
    (∃ inside rest, text = inside ++ rest ∧ InComment inside) ∨
      spanComment (depth + 1) text = (text, []) := by
  induction hlength : text.length using Nat.strongRecOn generalizing text depth with
  | ind length ih =>
      subst hlength
      cases text with
      | nil => exact .inr rfl
      | cons c rest =>
          by_cases hopen : ['/', '*'] <+: c :: rest
          · obtain ⟨nested, hnested⟩ := hopen
            obtain ⟨rfl, rfl⟩ : '/' = c ∧ '*' :: nested = rest := List.cons.inj hnested
            have hstep : spanComment (depth + 1) ('/' :: '*' :: nested) =
                ('/' :: '*' :: (spanComment (depth + 2) nested).1,
                  (spanComment (depth + 2) nested).2) := by
              rw [spanComment]
            have hshort : nested.length < ('/' :: '*' :: nested).length := by
              simp only [List.length_cons]
              omega
            rcases ih nested.length hshort nested (depth + 1) rfl with
              ⟨inner, middle, rfl, hinner⟩ | hend
            · -- the nested comment has its end, so what follows decides
              have hspan := spanComment_append_of_inComment hinner (depth + 1) middle
              have hshorter : middle.length < ('/' :: '*' :: (inner ++ middle)).length := by
                rw [List.length_append] at hshort
                omega
              rcases ih middle.length hshorter middle depth rfl with
                ⟨inside, after, rfl, hinside⟩ | hend
              · refine .inl ⟨'/' :: '*' :: (inner ++ inside), after, ?_, .nested hinner hinside⟩
                simp
              · rw [hstep, hspan, hend]
                exact .inr rfl
            · rw [hstep, hend]
              exact .inr rfl
          · by_cases hclose : ['*', '/'] <+: c :: rest
            · obtain ⟨after, hafter⟩ := hclose
              exact .inl ⟨['*', '/'], after, hafter.symm, .close⟩
            · have hstep := spanComment_cons depth hopen hclose
              rcases ih rest.length (by simp) rest depth rfl with
                ⟨inside, after, rfl, hinside⟩ | hend
              · refine .inl ⟨c :: inside, after, rfl, .char ?_ ?_ hinside⟩
                · exact fun h => hopen (h.trans (List.prefix_append (c :: inside) after))
                · exact fun h => hclose (h.trans (List.prefix_append (c :: inside) after))
              · rw [hstep, hend]
                exact .inr rfl

/-- What is read in backticks is something, on one line. -/
theorem of_quoted? {rest name after : List Char} (h : quoted? rest = some (name, after)) :
    name ≠ [] ∧ '`' ∉ name ∧ '\n' ∉ name := by
  have hquotes : ∀ c ∈ rest.takeWhile inQuotes, inQuotes c = true :=
    fun c hc => List.mem_takeWhile_imp hc
  unfold quoted? at h
  split at h
  · next c more _ hname _ =>
    obtain ⟨rfl, -⟩ := Prod.mk.inj (Option.some.inj h)
    rw [hname] at hquotes
    refine ⟨List.cons_ne_nil c more, ?_, ?_⟩
    · intro hmem
      exact absurd (hquotes _ hmem) (by decide)
    · intro hmem
      exact absurd (hquotes _ hmem) (by decide)
  · cases h

/-- A token and what is left behind it. A shebang is only cut off at the start. -/
inductive Cuts : Bool → Kind → List Char → List Char → Prop where
  | shebang {line after : List Char} (hline : '\n' ∉ line) (hafter : ∀ c ∈ after.head?, c = '\n') :
      Cuts true .shebang ('#' :: '!' :: line) after
  | whitespace {atStart : Bool} {c : Char} {more after : List Char} (hblank : isBlank c = true)
      (hmore : ∀ d ∈ more, isBlank d = true) (hafter : ∀ d ∈ after.head?, isBlank d = false) :
      Cuts atStart .whitespace (c :: more) after
  | lineComment {atStart : Bool} {line after : List Char} (hline : '\n' ∉ line)
      (hafter : ∀ c ∈ after.head?, c = '\n') :
      Cuts atStart .lineComment ('/' :: '/' :: line) after
  | closed {atStart : Bool} {inside after : List Char} (hinside : InComment inside) :
      Cuts atStart .blockComment ('/' :: '*' :: inside) after
  | unclosed {atStart : Bool} {inside : List Char} (hspan : spanComment 1 inside = (inside, [])) :
      Cuts atStart .blockComment ('/' :: '*' :: inside) []
  | quoted {atStart : Bool} {name after : List Char} (hne : name ≠ []) (htick : '`' ∉ name)
      (hfeed : '\n' ∉ name) : Cuts atStart .identifier ('`' :: (name ++ ['`'])) after
  | plain {atStart : Bool} {c : Char} {more after : List Char} (hstart : Identifier.isStart c = true)
      (hmore : ∀ d ∈ more, Identifier.isPart d = true) (hafter : Lexer.EndsWord after) :
      Cuts atStart .identifier (c :: more) after
  | dot {atStart : Bool} {after : List Char} : Cuts atStart .dot ['.'] after
  | other {atStart : Bool} {c : Char} {after : List Char} (hblank : isBlank c = false)
      (hstart : Identifier.isStart c = false) (hdot : c ≠ '.') : Cuts atStart .other [c] after

theorem cuts_comment (text : List Char) :
    Cuts atStart .blockComment ('/' :: '*' :: (spanComment 1 text).1) (spanComment 1 text).2 := by
  rcases inComment_or_spanComment_eq text 0 with ⟨inside, after, rfl, hinside⟩ | hspan
  · have hspan := spanComment_append_of_inComment hinside 0 after
    rw [hspan, spanComment, List.append_nil]
    exact .closed hinside
  · rw [hspan]
    exact .unclosed hspan

/-- What one draw does. -/
theorem cuts_cut (atStart : Bool) (c : Char) (rest : List Char) :
    Cuts atStart (cut atStart c rest).1 (cut atStart c rest).2.1 (cut atStart c rest).2.2 := by
  have hpair : ∀ d, inLine d = true → rest.head? = some d → ∃ more : List Char,
      rest.takeWhile inLine = d :: more.takeWhile inLine ∧
        rest.dropWhile inLine = more.dropWhile inLine := by
    intro d hd hhead
    obtain ⟨more, rfl⟩ := List.head?_eq_some_iff.1 hhead
    exact ⟨more, List.takeWhile_cons_of_pos hd, List.dropWhile_cons_of_pos hd⟩
  unfold cut
  split
  · next h =>
    simp only [Bool.and_eq_true, beq_iff_eq] at h
    obtain ⟨⟨rfl, rfl⟩, hbang⟩ := h
    obtain ⟨more, htake, hdrop⟩ := hpair '!' (by decide) hbang
    rw [htake, hdrop]
    exact .shebang feed_notMem_takeWhile feed_of_mem_head?_dropWhile
  split
  · next hblank =>
    exact .whitespace hblank (fun d hd => List.mem_takeWhile_imp hd) of_mem_head?_dropWhile
  next hblank =>
  split
  · next h =>
    simp only [Bool.and_eq_true, beq_iff_eq] at h
    obtain ⟨rfl, hslash⟩ := h
    obtain ⟨more, htake, hdrop⟩ := hpair '/' (by decide) hslash
    rw [htake, hdrop]
    exact .lineComment feed_notMem_takeWhile feed_of_mem_head?_dropWhile
  split
  · exact cuts_comment rest.tail
  split
  · next htick =>
    split
    · next hquoted =>
      obtain ⟨hne, htick, hfeed⟩ := of_quoted? hquoted
      exact .quoted hne htick hfeed
    · -- a backtick that quotes nothing is a character like any other
      rw [beq_iff_eq.1 htick]
      exact .other (by decide) (by decide) (by decide)
  split
  · next hstart =>
    exact .plain hstart (fun d hd => List.mem_takeWhile_imp hd) of_mem_head?_dropWhile
  next hstart =>
  split
  · next hdot =>
    rw [beq_iff_eq.1 hdot]
    exact .dot
  · next hdot =>
    exact .other (Bool.eq_false_iff.2 hblank) (Bool.eq_false_iff.2 hstart) (by simpa using hdot)

theorem cuts_of_cut (h : cut atStart c rest = (kind, text, after)) : Cuts atStart kind text after := by
  have hcuts := cuts_cut atStart c rest
  rwa [h] at hcuts

theorem Cuts.atStart_of_shebang (h : Cuts atStart .shebang text after) : atStart = true := by
  cases h
  rfl

theorem Cuts.after_whitespace (h : Cuts atStart .whitespace text after) :
    (∀ c ∈ text.head?, isBlank c = true) ∧ ∀ c ∈ after.head?, isBlank c = false := by
  cases h with
  | whitespace hblank _ hafter => exact ⟨by simpa using hblank, hafter⟩

theorem Cuts.after_line (h : Cuts atStart kind text after)
    (hkind : kind = .lineComment ∨ kind = .shebang) : ∀ c ∈ after.head?, c = '\n' := by
  cases h with
  | shebang _ hafter => exact hafter
  | lineComment _ hafter => exact hafter
  | _ => simp at hkind

theorem Cuts.after_comment (h : Cuts atStart .blockComment text after) (hclosed : ¬ Closed text) :
    after = [] := by
  cases h with
  | closed hinside => exact absurd ⟨_, rfl, hinside⟩ hclosed
  | unclosed => rfl

theorem Cuts.after_word (h : Cuts atStart .identifier text after) (htick : text.head? ≠ some '`') :
    Lexer.EndsWord after := by
  cases h with
  | quoted => exact absurd rfl htick
  | plain _ _ hafter => exact hafter

theorem Cuts.whitespace_of_feed (h : Cuts atStart kind text after) (hfeed : text.head? = some '\n') :
    kind = .whitespace := by
  cases h with
  | whitespace => rfl
  | plain hstart =>
      rw [Option.some.inj hfeed] at hstart
      exact absurd hstart (by decide)
  | other hblank =>
      rw [Option.some.inj hfeed] at hblank
      exact absurd hblank (by decide)
  | _ => simp at hfeed

end Token

end ScriptPlugins
