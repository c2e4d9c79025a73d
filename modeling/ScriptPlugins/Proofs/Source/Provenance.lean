import Mathlib.Data.List.TakeWhile
import ScriptPlugins.Proofs.Source.Draw

/-!
# Where a namespace comes from

The scan invents nothing: whatever text it is given, a namespace that it answers stands in the text,
behind one of the keywords and what may be skipped. What it skips is cut into tokens without regard
to the pieces that trivia are made of, so the pieces are read off the text, each from its first
characters, and `significant` says that taking one away leaves the tokens behind it. A comment that
has no end is the last piece, and then the name is empty.

Of the name itself it is known what its tokens can be. Nothing but identifiers and dots is collected,
so what reaches ids and generated sources has no line feed in it, and is plain outside of backticks.
-/

namespace ScriptPlugins

open Text Grammar

namespace Token

theorem pair_prefix_iff {a b c : Char} {rest : List Char} :
    [a, b] <+: c :: rest ↔ c = a ∧ rest.head? = some b := by
  cases rest with
  | nil => simp
  | cons d rest => simp [List.cons_prefix_cons, eq_comm]

theorem dropWhile_inLine {line : List Char} (h : '\n' ∉ line) : line.dropWhile inLine = [] := by
  rw [List.dropWhile_eq_nil_iff]
  exact inLine_of_feed_notMem h

/-- What starts no shebang, no whitespace and no comment starts a token that is not skipped. -/
theorem isTrivia_of_cut {atStart : Bool} {c : Char} {rest text after : List Char} {kind : Kind}
    (hshebang : ¬ (atStart = true ∧ ['#', '!'] <+: c :: rest)) (hblank : ¬ isBlank c = true)
    (hline : ¬ ['/', '/'] <+: c :: rest) (hblock : ¬ ['/', '*'] <+: c :: rest)
    (h : cut atStart c rest = (kind, text, after)) (offset : Nat) :
    isTrivia ⟨kind, text, offset⟩ = false := by
  have happend := cut_append atStart c rest
  rw [h] at happend
  cases cuts_of_cut h with
  | shebang => exact absurd ⟨rfl, _, happend⟩ hshebang
  | whitespace hfirst =>
      obtain ⟨rfl, -⟩ := List.cons.inj happend
      exact absurd hfirst hblank
  | lineComment => exact absurd ⟨_, happend⟩ hline
  | closed => exact absurd ⟨_, happend⟩ hblock
  | unclosed => exact absurd ⟨_, happend⟩ hblock
  | _ => rfl

theorem segment_of_cut {atStart : Bool} {c : Char} {rest text after : List Char}
    (h : cut atStart c rest = (.identifier, text, after)) : Segment text := by
  cases cuts_of_cut h with
  | quoted hne htick hfeed => exact .quoted hne htick hfeed
  | plain hstart hmore =>
      refine .plain ?_
      rw [Identifier.isPlain, hstart, Bool.true_and, List.all_eq_true]
      exact hmore

theorem dot_of_cut {atStart : Bool} {c : Char} {rest text after : List Char}
    (h : cut atStart c rest = (.dot, text, after)) : text = ['.'] := by
  cases cuts_of_cut h
  rfl

theorem isNamePart_iff {token : Token} :
    token.isNamePart = true ↔ token.kind = .identifier ∨ token.kind = .dot := by
  rw [isNamePart, Bool.or_eq_true, beq_iff_eq, beq_iff_eq]

/-- What a token adds to a name. -/
theorem spelled_of_cut {atStart : Bool} {c : Char} {rest text after : List Char} {kind : Kind}
    (h : cut atStart c rest = (kind, text, after)) {offset : Nat}
    (hname : isNamePart ⟨kind, text, offset⟩ = true) : Spelled text ∧ '\n' ∉ text := by
  rcases isNamePart_iff.1 hname with hkind | hkind
  · obtain rfl : kind = .identifier := hkind
    have hsegment := segment_of_cut h
    exact ⟨hsegment.spelled, hsegment.feed_notMem⟩
  · obtain rfl : kind = .dot := hkind
    obtain rfl := dot_of_cut h
    exact ⟨.char (.inr rfl) .nil, by decide⟩

/-- Whether a text goes on with a name does not depend on where it stands. -/
theorem isNamePart_cut (atStart elsewhere : Bool) (c : Char) (rest : List Char)
    (offset other : Nat) :
    isNamePart ⟨(cut atStart c rest).1, (cut atStart c rest).2.1, offset⟩ =
      isNamePart ⟨(cut elsewhere c rest).1, (cut elsewhere c rest).2.1, other⟩ := by
  by_cases hhash : c = '#'
  · subst hhash
    have hnone : ∀ atStart offset,
        isNamePart ⟨(cut atStart '#' rest).1, (cut atStart '#' rest).2.1, offset⟩ = false := by
      intro atStart offset
      have hpart : Identifier.isPart '#' = false := by decide
      obtain ⟨hidentifier, hdot⟩ :=
        cut_kind_of_not_isPart atStart rest hpart (by decide) (by decide)
      rw [isNamePart, beq_false_of_ne hidentifier, beq_false_of_ne hdot, Bool.or_false]
    rw [hnone, hnone]
  · simp [cut, hhash, isNamePart]

end Token

namespace Lexer

variable {position : Nat} {text : List Char}

theorem drawAll_nil (position : Nat) : (Lexer.mk position []).drawAll.1 = [] := by
  rw [drawAll_of_rest_eq_nil rfl]

theorem significant_nil (position : Nat) : (Lexer.mk position []).significant = [] := by
  rw [significant, drawAll_nil, List.dropWhile_nil]

/-- A text that is skipped in front of another. -/
def Skipped (skipped rest : List Char) : Prop :=
  Trivia skipped ∨ Unended skipped ∧ rest = []

theorem Skipped.append {trivia skipped rest : List Char} (h : Skipped skipped rest)
    (htrivia : Trivia trivia) : Skipped (trivia ++ skipped) rest := by
  rcases h with h | ⟨h, hrest⟩
  · exact .inl (htrivia.append h)
  · exact .inr ⟨h.append htrivia, hrest⟩

/-- Where nothing can be skipped, the next token counts. -/
theorem significant_eq_drawAll {c : Char} {rest : List Char}
    (hshebang : position ≠ 0 ∨ ¬ ['#', '!'] <+: c :: rest) (hblank : ¬ isBlank c = true)
    (hline : ¬ ['/', '/'] <+: c :: rest) (hblock : ¬ ['/', '*'] <+: c :: rest) :
    (Lexer.mk position (c :: rest)).significant = (Lexer.mk position (c :: rest)).drawAll.1 := by
  rcases hcut : Token.cut (position == 0) c rest with ⟨kind, text, after⟩
  have hnoShebang : ¬ ((position == 0) = true ∧ ['#', '!'] <+: c :: rest) := by
    rintro ⟨hstart, hprefix⟩
    rcases hshebang with hshebang | hshebang
    · exact hshebang (beq_iff_eq.1 hstart)
    · exact hshebang hprefix
  have htoken := Token.isTrivia_of_cut hnoShebang hblank hline hblock hcut position
  rw [significant, drawAll_cons hcut, List.dropWhile_cons_of_neg ?_]
  rw [htoken]
  exact Bool.false_ne_true

/-- What a text begins with as far as the tokens that count go: a piece of trivia, a comment without
an end, or the first of these tokens. -/
theorem significant_cases (hshebang : position ≠ 0 ∨ ¬ ['#', '!'] <+: text) :
    (∃ trivia tail, text = trivia ++ tail ∧ trivia ≠ [] ∧ Trivia trivia ∧
        (Lexer.mk position text).significant =
          (Lexer.mk (position + byteLength trivia) tail).significant) ∨
      (Unended text ∧ (Lexer.mk position text).significant = []) ∨
      (Lexer.mk position text).significant = (Lexer.mk position text).drawAll.1 := by
  cases text with
  | nil => exact .inr (.inr (by rw [significant_nil, drawAll_nil]))
  | cons c more =>
      by_cases hblank : isBlank c = true
      · exact .inl ⟨[c], more, rfl, List.cons_ne_nil c [], .blank hblank .nil,
          significant_blank position more hblank⟩
      by_cases hline : ['/', '/'] <+: c :: more
      · obtain ⟨line, hline⟩ := hline
        rw [← hline]
        by_cases hfeed : '\n' ∈ line
        · obtain ⟨front, tail, rfl, hfront⟩ := List.eq_append_cons_of_mem hfeed
          refine .inl ⟨'/' :: '/' :: (front ++ ['\n']), tail, by simp, by simp, ?_, ?_⟩
          · exact .line hfront .nil
          · exact significant_line position tail hfront
        · refine .inr (.inl ⟨.line .nil hfeed, ?_⟩)
          change (Lexer.mk position ('/' :: '/' :: line)).significant = []
          rw [significant_skip (Token.cut_lineComment _ line) rfl, Token.dropWhile_inLine hfeed,
            significant_nil]
      by_cases hblock : ['/', '*'] <+: c :: more
      · obtain ⟨body, hbody⟩ := hblock
        rw [← hbody]
        by_cases hclosed : ∃ front, front <+: body ∧ InComment front
        · obtain ⟨inside, ⟨tail, rfl⟩, hinside⟩ := hclosed
          refine .inl ⟨'/' :: '*' :: inside, tail, by simp, by simp, ?_, ?_⟩
          · have hblock := Trivia.block hinside .nil
            rwa [List.append_nil] at hblock
          · exact significant_block position tail hinside
        · have hspan : Token.spanComment 1 body = (body, []) := by
            rcases Token.inComment_or_spanComment_eq body 0 with ⟨inside, tail, rfl, hinside⟩ | hend
            · exact absurd ⟨inside, List.prefix_append inside tail, hinside⟩ hclosed
            · exact hend
          refine .inr (.inl ⟨.block .nil fun front hfront hin => hclosed ⟨front, hfront, hin⟩, ?_⟩)
          change (Lexer.mk position ('/' :: '*' :: body)).significant = []
          rw [significant_skip (Token.cut_blockComment _ body) rfl, hspan, significant_nil]
      exact .inr (.inr (significant_eq_drawAll hshebang hblank hline hblock))

/-- The tokens that count are those of a rest of the text, and what is in front of it is skipped. -/
theorem exists_skipped (hshebang : position ≠ 0 ∨ ¬ ['#', '!'] <+: text) :
    ∃ skipped rest, text = skipped ++ rest ∧ Skipped skipped rest ∧
      (Lexer.mk position text).significant =
        (Lexer.mk (position + byteLength skipped) rest).drawAll.1 := by
  induction hlength : text.length using Nat.strongRecOn generalizing position text with
  | ind length ih =>
      subst hlength
      rcases significant_cases hshebang with
        ⟨trivia, tail, rfl, hne, htrivia, htail⟩ | ⟨hunended, hnone⟩ | hall
      · have hpositive := byteLength_pos hne
        have hshorter : tail.length < (trivia ++ tail).length := by
          have := List.length_pos_iff.2 hne
          rw [List.length_append]
          omega
        obtain ⟨skipped, rest, rfl, hskipped, hrest⟩ :=
          @ih tail.length hshorter (position + byteLength trivia) tail (.inl (by omega)) rfl
        refine ⟨trivia ++ skipped, rest, (List.append_assoc _ _ _).symm, hskipped.append htrivia, ?_⟩
        rw [htail, hrest, byteLength_append, Nat.add_assoc]
      · refine ⟨text, [], (List.append_nil text).symm, .inr ⟨hunended, rfl⟩, ?_⟩
        rw [hnone, drawAll_nil]
      · exact ⟨[], text, rfl, .inl .nil, hall⟩

/-- The first token that counts comes behind a shebang, if there is one, and trivia. -/
theorem exists_leading (hfound : (ofList text).significant ≠ []) :
    ∃ leading rest, text = leading ++ rest ∧ Leading leading ∧
      (ofList text).significant = (Lexer.mk (byteLength leading) rest).drawAll.1 := by
  have hfront : ∃ front tail, text = front ++ tail ∧ Leading front ∧
      (byteLength front ≠ 0 ∨ ¬ ['#', '!'] <+: tail) := by
    by_cases hshebang : ['#', '!'] <+: text
    · obtain ⟨line, rfl⟩ := hshebang
      by_cases hfeed : '\n' ∈ line
      · obtain ⟨front, tail, rfl, hfront⟩ := List.eq_append_cons_of_mem hfeed
        refine ⟨'#' :: '!' :: (front ++ ['\n']), tail, by simp, .shebang hfront .nil, .inl ?_⟩
        exact Nat.pos_iff_ne_zero.1 (byteLength_pos (List.cons_ne_nil _ _))
      · -- the shebang is all there is
        have hskip : (ofList ('#' :: '!' :: line)).significant =
            (Lexer.mk _ (line.dropWhile Token.inLine)).significant :=
          significant_skip (Token.cut_shebang line) rfl
        rw [Token.dropWhile_inLine hfeed, significant_nil] at hskip
        exact absurd hskip hfound
    · exact ⟨[], text, rfl, .plain .nil, .inr hshebang⟩
  obtain ⟨front, tail, rfl, hleading, hstart⟩ := hfront
  obtain ⟨skipped, rest, rfl, hskipped, hrest⟩ := exists_skipped hstart
  have hsignificant := (significant_leading hleading (skipped ++ rest)).trans hrest
  rw [← byteLength_append] at hsignificant
  have htrivia : Trivia skipped := by
    rcases hskipped with htrivia | ⟨-, rfl⟩
    · exact htrivia
    · rw [drawAll_nil] at hsignificant
      exact absurd hsignificant hfound
  exact ⟨front ++ skipped, rest, (List.append_assoc _ _ _).symm, hleading.append htrivia,
    hsignificant⟩

theorem next?_of_drawAll_eq_cons {lexer : Lexer} {token : Token} {others : List Token}
    (h : lexer.drawAll.1 = token :: others) :
    ∃ after, lexer.next? = some (token, after) ∧ others = after.drawAll.1 := by
  cases hnext : lexer.next? with
  | none =>
      rw [drawAll_of_rest_eq_nil (next?_eq_none_iff.1 hnext)] at h
      cases h
  | some drawn =>
      rw [drawAll_of_next?_eq_some hnext] at h
      obtain ⟨rfl, rfl⟩ := List.cons.inj h
      exact ⟨drawn.2, rfl, rfl⟩

theorem head?_tokens_cons (c : Char) (rest : List Char) : (tokens (c :: rest)).head? =
    some ⟨(Token.cut true c rest).1, (Token.cut true c rest).2.1, 0⟩ := by
  have hdrawn : (Lexer.mk 0 (c :: rest)).drawAll.1 = _ := drawAll_cons rfl
  rw [tokens, ofList, hdrawn]
  rfl

/-- The tokens of a name are the front of the text, and what is behind it does not go on with it. -/
theorem exists_name (position : Nat) (text : List Char) : ∃ name rest, text = name ++ rest ∧
    ((Lexer.mk position text).drawAll.1.takeWhile Token.isNamePart).flatMap Token.text = name ∧
    Spelled name ∧ '\n' ∉ name ∧
    ∀ token ∈ (tokens rest).head?, token.kind ≠ .identifier ∧ token.kind ≠ .dot := by
  induction hlength : text.length using Nat.strongRecOn generalizing position text with
  | ind length ih =>
      subst hlength
      cases text with
      | nil =>
          refine ⟨[], [], rfl, ?_, .nil, List.not_mem_nil, nofun⟩
          rw [drawAll_nil, List.takeWhile_nil, List.flatMap_nil]
      | cons c more =>
          rcases hcut : Token.cut (position == 0) c more with ⟨kind, text, after⟩
          have hdrawn := drawAll_cons hcut
          by_cases hname : Token.isNamePart ⟨kind, text, position⟩ = true
          · obtain ⟨-, hrest, -, -⟩ := next?_eq_some (next?_cons hcut)
            have hshorter := length_rest_lt (next?_cons hcut)
            obtain ⟨name, rest, hafter, htexts, hspelled, hfeed, hends⟩ :=
              ih after.length hshorter (position + byteLength text) after rfl
            obtain ⟨hfirst, hfirstFeed⟩ := Token.spelled_of_cut hcut hname
            refine ⟨text ++ name, rest, ?_, ?_, hfirst.append hspelled, ?_, hends⟩
            · rw [List.append_assoc, ← hafter]
              exact hrest.symm
            · rw [hdrawn, List.takeWhile_cons_of_pos hname, List.flatMap_cons, htexts]
            · rw [List.mem_append, not_or]
              exact ⟨hfirstFeed, hfeed⟩
          · refine ⟨[], c :: more, rfl, ?_, .nil, List.not_mem_nil, ?_⟩
            · rw [hdrawn, List.takeWhile_cons_of_neg hname, List.flatMap_nil]
            · intro token htoken
              rw [head?_tokens_cons, Option.mem_some_iff] at htoken
              have hsame := Token.isNamePart_cut true (position == 0) c more 0 position
              rw [hcut, htoken] at hsame
              rw [← not_or, ← Token.isNamePart_iff, hsame]
              exact hname

end Lexer

namespace Namespace

theorem any_isKeyword_iff {keywords : List String} {token : Token} :
    keywords.any (Token.isKeyword · token) = true ↔
      token.kind = .identifier ∧ String.ofList token.text ∈ keywords := by
  rw [List.any_eq_true]
  constructor
  · rintro ⟨keyword, hkeyword, his⟩
    rw [Token.isKeyword, Bool.and_eq_true, beq_iff_eq, beq_iff_eq] at his
    rw [his.2, String.ofList_toList]
    exact ⟨his.1, hkeyword⟩
  · rintro ⟨hkind, hkeyword⟩
    refine ⟨_, hkeyword, ?_⟩
    rw [Token.isKeyword, hkind, String.toList_ofList, beq_self_eq_true, beq_self_eq_true,
      Bool.and_self]

theorem declaredIn_eq_none_iff {source : String} {keywords : List String} :
    declaredIn source keywords = none ↔
      ∀ first ∈ (tokens source.toList).find? (!·.isTrivia),
        first.kind = .identifier → String.ofList first.text ∉ keywords := by
  rw [declaredIn, scan, List.find?_not_eq_head?_dropWhile]
  cases (tokens source.toList).dropWhile Token.isTrivia with
  | nil => simp
  | cons first found =>
      simp only [List.head?_cons, Option.mem_some_iff, forall_eq']
      by_cases hany : keywords.any (Token.isKeyword · first) = true
      · obtain ⟨hkind, hkeyword⟩ := any_isKeyword_iff.1 hany
        rw [if_pos hany]
        constructor
        · intro hnone
          cases hnone
        · intro hfree
          exact absurd hkeyword (hfree hkind)
      · rw [if_neg hany]
        refine ⟨fun _ hkind hkeyword => ?_, fun _ => rfl⟩
        exact hany (any_isKeyword_iff.2 ⟨hkind, hkeyword⟩)

theorem declaredIn_eq_some {source name : String} {keywords : List String}
    (h : declaredIn source keywords = some name) :
    ∃ first found, (Lexer.ofList source.toList).significant = first :: found ∧
      (∃ keyword ∈ keywords, first.text = keyword.toList) ∧
      name.toList = ((found.dropWhile Token.isTrivia).takeWhile Token.isNamePart).flatMap
        Token.text := by
  have hscan : (tokens source.toList).dropWhile Token.isTrivia =
    (Lexer.ofList source.toList).significant := rfl
  rw [declaredIn, scan, hscan] at h
  cases hfound : (Lexer.ofList source.toList).significant with
  | nil => simp [hfound] at h
  | cons first found =>
      simp only [hfound] at h
      by_cases hany : keywords.any (Token.isKeyword · first) = true
      · rw [if_pos hany, Option.some.injEq] at h
        obtain ⟨-, hkeyword⟩ := any_isKeyword_iff.1 hany
        refine ⟨first, found, rfl, ⟨_, hkeyword, String.toList_ofList.symm⟩, ?_⟩
        rw [← h, String.toList_ofList]
      · rw [if_neg hany] at h
        cases h

/-- **The scan invents no declaration.** A namespace that it answers stands in the source behind one
of the keywords, with nothing but what may be skipped before and between, and it ends where no
identifier and no dot follows. It has no line feed in it, and its backticks come in pairs around
plain dotted text. No namespace is answered exactly if the first token that is not skipped is no
keyword. -/
theorem declaredIn_evidence (source : String) (keywords : List String) :
    (∀ name, declaredIn source keywords = some name → ∃ leading keyword gap rest,
      source.toList = leading ++ String.toList keyword ++ gap ++ name.toList ++ rest ∧
        keyword ∈ keywords ∧ Leading leading ∧
        (Trivia gap ∨ Unended gap ∧ name = "" ∧ rest = []) ∧
        (∀ token ∈ (tokens rest).head?, token.kind ≠ .identifier ∧ token.kind ≠ .dot) ∧
        '\n' ∉ name.toList ∧ Spelled name.toList) ∧
      (declaredIn source keywords = none ↔
        ∀ first ∈ (tokens source.toList).find? (!·.isTrivia),
          first.kind = .identifier → String.ofList first.text ∉ keywords) := by
  refine ⟨?_, ?_⟩
  · intro name h
    obtain ⟨first, found, hfound, ⟨keyword, hkeyword, htext⟩, hname⟩ := declaredIn_eq_some h
    obtain ⟨leading, behind, hsource, hleading, hdrawn⟩ :=
      Lexer.exists_leading (by rw [hfound]; nofun)
    rw [hfound] at hdrawn
    obtain ⟨after, hnext, rfl⟩ := Lexer.next?_of_drawAll_eq_cons hdrawn.symm
    obtain ⟨hne, hbehind, -, hposition⟩ := Lexer.next?_eq_some hnext
    have hpositive := Lexer.byteLength_pos hne
    obtain ⟨gap, rest, hafter, hskipped, hrest⟩ :=
      @Lexer.exists_skipped after.position after.rest (.inl (by omega))
    have hsignificant : after.drawAll.1.dropWhile Token.isTrivia = _ := hrest
    obtain ⟨found, tail, rfl, htexts, hspelled, hfeed, hends⟩ := Lexer.exists_name _ rest
    rw [hsignificant, htexts] at hname
    rw [hname]
    refine ⟨leading, keyword, gap, tail, ?_, hkeyword, hleading, ?_, hends, hfeed, hspelled⟩
    · calc
        source.toList = leading ++ (keyword.toList ++ after.rest) := by
          rw [hsource, ← htext]
          exact congrArg (leading ++ ·) hbehind.symm
        _ = leading ++ keyword.toList ++ gap ++ found ++ tail := by
          rw [hafter]
          simp only [List.append_assoc]
    · rcases hskipped with htrivia | ⟨hunended, hnil⟩
      · exact .inl htrivia
      · obtain ⟨rfl, rfl⟩ := List.append_eq_nil_iff.1 hnil
        exact .inr ⟨hunended, String.toList_inj.1 hname, rfl⟩
  · exact declaredIn_eq_none_iff

/-- Dots and a quoted part behind a keyword with comments on both sides, and no name at all before a
comment that stays open. -/
theorem declaredIn_evidence_odd_names :
    declaredIn "#!k\n/*/**/*/package//é\n..`a b`;x" ["namespace", "package"] = some "..`a b`" ∧
      declaredIn "package/**" ["package"] = some "" ∧
      (∃ leading keyword gap rest, "#!k\n/*/**/*/package//é\n..`a b`;x".toList =
        leading ++ String.toList keyword ++ gap ++ "..`a b`".toList ++ rest ∧
          keyword ∈ ["namespace", "package"] ∧ Leading leading ∧ Trivia gap) ∧
      ∃ leading keyword gap rest, "package/**".toList =
        leading ++ String.toList keyword ++ gap ++ "".toList ++ rest ∧
          (Trivia gap ∨ Unended gap ∧ rest = []) := by
  have hodd : declaredIn "#!k\n/*/**/*/package//é\n..`a b`;x" ["namespace", "package"] =
      some "..`a b`" := by decide +kernel
  have hempty : declaredIn "package/**" ["package"] = some "" := by decide +kernel
  refine ⟨hodd, hempty, ?_, ?_⟩
  · obtain ⟨leading, keyword, gap, rest, hsource, hkeyword, hleading, hgap, -⟩ :=
      (declaredIn_evidence _ _).1 _ hodd
    refine ⟨leading, keyword, gap, rest, hsource, hkeyword, hleading, ?_⟩
    rcases hgap with hgap | ⟨-, hname, -⟩
    · exact hgap
    · exact absurd hname (by decide)
  · obtain ⟨leading, keyword, gap, rest, hsource, -, -, hgap, -⟩ :=
      (declaredIn_evidence _ _).1 _ hempty
    refine ⟨leading, keyword, gap, rest, hsource, ?_⟩
    exact hgap.imp_right fun ⟨hunended, _, hrest⟩ => ⟨hunended, hrest⟩

end Namespace

end ScriptPlugins
