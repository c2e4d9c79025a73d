import ScriptPlugins.Proofs.Source.Cut
import ScriptPlugins.Proofs.Source.Grammar
import ScriptPlugins.Source.Namespace

/-!
# Finding a declaration

The scan recovers every well-formed declaration, whatever follows it. The pieces of the text do not
have to be the tokens: blanks on both sides of a seam between two pieces become one token. So trivia
are followed through the list of tokens that is left when the leading trivia are dropped, where it
makes no difference into how many tokens they were cut. `significant_append` says that this list only
starts later when trivia stand in front; from the keyword on, seams are ends of tokens.
-/

namespace ScriptPlugins

open Text Grammar

namespace Token

theorem spanComment_cons (depth : Nat) {c : Char} {rest : List Char}
    (hopen : ¬ ['/', '*'] <+: c :: rest) (hclose : ¬ ['*', '/'] <+: c :: rest) :
    spanComment (depth + 1) (c :: rest) =
      (c :: (spanComment (depth + 1) rest).1, (spanComment (depth + 1) rest).2) := by
  rw [spanComment]
  · rintro after rfl rfl
    exact hopen ⟨after, rfl⟩
  · rintro after rfl rfl
    exact hclose ⟨after, rfl⟩

/-- A scan for the end of a comment ends where the comment does. -/
theorem spanComment_append_of_inComment {inside : List Char} (h : InComment inside) (depth : Nat)
    (rest : List Char) :
    spanComment (depth + 1) (inside ++ rest) =
      (inside ++ (spanComment depth rest).1, (spanComment depth rest).2) := by
  induction h generalizing depth rest with
  | close => simp [spanComment]
  | @char c inside hopen hclose hinside ih =>
      obtain ⟨d, more, rfl⟩ : ∃ d more, inside = d :: more := by
        cases hinside <;> exact ⟨_, _, rfl⟩
      -- what follows the comment does not show in its next two characters
      have hstep := @spanComment_cons depth c (d :: more ++ rest)
        (by simpa [List.cons_prefix_cons] using hopen)
        (by simpa [List.cons_prefix_cons] using hclose)
      rw [List.cons_append, hstep, ih]
      rfl
  | nested hinner hrest ihInner ihRest =>
      rw [List.cons_append, List.cons_append, List.append_assoc, spanComment, ihInner, ihRest]
      simp

theorem inLine_of_feed_notMem {line : List Char} (h : '\n' ∉ line) : ∀ c ∈ line, inLine c = true := by
  intro c hc
  rw [inLine, bne_iff_ne]
  rintro rfl
  exact h hc

theorem takeWhile_inLine {line : List Char} (h : '\n' ∉ line) (rest : List Char) :
    (line ++ '\n' :: rest).takeWhile inLine = line ∧
      (line ++ '\n' :: rest).dropWhile inLine = '\n' :: rest := by
  have hfeed : inLine '\n' = false := by decide
  have hall := inLine_of_feed_notMem h
  simp [List.takeWhile_append_of_pos hall, List.dropWhile_append_of_pos hall, hfeed]

theorem quoted?_of_segment {text : List Char} (hne : text ≠ []) (htick : '`' ∉ text)
    (hfeed : '\n' ∉ text) (rest : List Char) :
    quoted? (text ++ '`' :: rest) = some (text, rest) := by
  have hstop : inQuotes '`' = false := by decide
  have hall : ∀ c ∈ text, inQuotes c = true := by
    intro c hc
    simp only [inQuotes, Bool.and_eq_true, bne_iff_ne]
    refine ⟨?_, ?_⟩
    · rintro rfl
      exact htick hc
    · rintro rfl
      exact hfeed hc
  obtain ⟨c, name, rfl⟩ := List.exists_cons_of_ne_nil hne
  rw [quoted?, List.takeWhile_append_of_pos hall, List.dropWhile_append_of_pos hall]
  simp [hstop]

end Token

namespace Lexer

theorem next?_cons {position : Nat} {c : Char} {rest text after : List Char} {kind : Token.Kind}
    (h : Token.cut (position == 0) c rest = (kind, text, after)) :
    (Lexer.mk position (c :: rest)).next? =
      some (⟨kind, text, position⟩, ⟨position + byteLength text, after⟩) := by
  simp [next?, h]

theorem drawAll_cons {position : Nat} {c : Char} {rest text after : List Char}
    {kind : Token.Kind} (h : Token.cut (position == 0) c rest = (kind, text, after)) :
    (Lexer.mk position (c :: rest)).drawAll.1 =
      ⟨kind, text, position⟩ :: (Lexer.mk (position + byteLength text) after).drawAll.1 := by
  rw [drawAll_of_next?_eq_some (next?_cons h)]

/-- The tokens of the rest from the first that is not trivia. -/
def significant (lexer : Lexer) : List Token :=
  lexer.drawAll.1.dropWhile Token.isTrivia

theorem significant_skip {position : Nat} {c : Char} {rest text after : List Char}
    {kind : Token.Kind} (h : Token.cut (position == 0) c rest = (kind, text, after))
    (htrivia : Token.isTrivia ⟨kind, text, position⟩ = true) :
    (Lexer.mk position (c :: rest)).significant =
      (Lexer.mk (position + byteLength text) after).significant := by
  rw [significant, drawAll_cons h, List.dropWhile_cons_of_pos htrivia, significant]

/-- A blank can be skipped by itself, though its token may go on. -/
theorem significant_blank (position : Nat) {c : Char} (rest : List Char) (h : isBlank c = true) :
    (Lexer.mk position (c :: rest)).significant =
      (Lexer.mk (position + c.utf8Size) rest).significant := by
  rw [significant_skip (Token.cut_of_isBlank _ rest h) rfl]
  cases rest with
  | nil => rfl
  | cons d rest =>
      by_cases hd : isBlank d = true
      · rw [significant_skip (Token.cut_of_isBlank _ rest hd) rfl,
          List.takeWhile_cons_of_pos hd, List.dropWhile_cons_of_pos hd]
        simp only [byteLength, Nat.add_assoc]
      · rw [List.takeWhile_cons_of_neg hd, List.dropWhile_cons_of_neg hd]
        rfl

theorem significant_line (position : Nat) {line : List Char} (rest : List Char)
    (h : '\n' ∉ line) :
    (Lexer.mk position ('/' :: '/' :: (line ++ '\n' :: rest))).significant =
      (Lexer.mk (position + byteLength ('/' :: '/' :: (line ++ ['\n']))) rest).significant := by
  obtain ⟨htake, hdrop⟩ := Token.takeWhile_inLine h rest
  rw [significant_skip (Token.cut_lineComment _ _) rfl, htake, hdrop,
    significant_blank _ _ (by decide)]
  simp only [byteLength, byteLength_append, Nat.add_assoc, Nat.add_zero]

theorem significant_block (position : Nat) {inside : List Char} (rest : List Char)
    (h : InComment inside) :
    (Lexer.mk position ('/' :: '*' :: (inside ++ rest))).significant =
      (Lexer.mk (position + byteLength ('/' :: '*' :: inside)) rest).significant := by
  have hspan := Token.spanComment_append_of_inComment h 0 rest
  rw [significant_skip (Token.cut_blockComment _ _) rfl, hspan]
  simp [Token.spanComment]

/-- Trivia in front of a text only move its tokens. -/
theorem significant_append {trivia : List Char} (h : Trivia trivia) (position : Nat)
    (rest : List Char) :
    (Lexer.mk position (trivia ++ rest)).significant =
      (Lexer.mk (position + byteLength trivia) rest).significant := by
  induction h generalizing position with
  | nil => rfl
  | @blank c trivia hblank _ ih =>
      rw [List.cons_append, significant_blank _ _ hblank, ih, byteLength, Nat.add_assoc]
  | @line line trivia hline _ ih =>
      have htext : '/' :: '/' :: (line ++ '\n' :: trivia) =
          '/' :: '/' :: (line ++ ['\n']) ++ trivia := by simp
      rw [htext, List.append_assoc, byteLength_append, ← Nat.add_assoc, ← ih,
        ← significant_line position (trivia ++ rest) hline]
      simp
  | @block inside trivia hinside _ ih =>
      have htext : '/' :: '*' :: (inside ++ trivia) = '/' :: '*' :: inside ++ trivia := rfl
      rw [htext, List.append_assoc, byteLength_append, ← Nat.add_assoc, ← ih,
        ← significant_block position (trivia ++ rest) hinside]
      rfl

theorem significant_leading {leading : List Char} (h : Leading leading) (rest : List Char) :
    (ofList (leading ++ rest)).significant =
      (Lexer.mk (byteLength leading) rest).significant := by
  cases h with
  | plain htrivia =>
      rw [ofList, significant_append htrivia, Nat.zero_add]
  | @shebang line trivia hline htrivia =>
      obtain ⟨htake, hdrop⟩ := Token.takeWhile_inLine hline (trivia ++ rest)
      have htext : '#' :: '!' :: (line ++ '\n' :: trivia) ++ rest =
          '#' :: '!' :: (line ++ '\n' :: (trivia ++ rest)) := by simp
      have hcut := Token.cut_shebang (line ++ '\n' :: (trivia ++ rest))
      rw [htake, hdrop] at hcut
      have hskip : (ofList ('#' :: '!' :: (line ++ '\n' :: (trivia ++ rest)))).significant =
          (Lexer.mk (0 + byteLength ('#' :: '!' :: line)) ('\n' :: (trivia ++ rest))).significant :=
        significant_skip hcut rfl
      rw [htext, hskip, significant_blank _ _ (by decide), significant_append htrivia]
      congr 2
      simp only [byteLength, byteLength_append]
      omega

/-- A text with which an identifier in front of it does not go on. -/
def EndsWord (rest : List Char) : Prop :=
  ∀ c ∈ rest.head?, Identifier.isPart c = false

theorem takeWhile_isPart {text rest : List Char} (htext : text.all Identifier.isPart = true)
    (hrest : EndsWord rest) :
    (text ++ rest).takeWhile Identifier.isPart = text ∧
      (text ++ rest).dropWhile Identifier.isPart = rest := by
  rw [List.all_eq_true] at htext
  rw [List.takeWhile_append_of_pos htext, List.dropWhile_append_of_pos htext]
  cases rest with
  | nil => simp
  | cons c rest => simp [hrest c rfl]

theorem drawAll_plain (position : Nat) {text rest : List Char}
    (htext : Identifier.isPlain text = true) (hrest : EndsWord rest) :
    (Lexer.mk position (text ++ rest)).drawAll.1 =
      ⟨.identifier, text, position⟩ ::
        (Lexer.mk (position + byteLength text) rest).drawAll.1 := by
  cases text with
  | nil => simp [Identifier.isPlain] at htext
  | cons c text =>
      simp only [Identifier.isPlain, Bool.and_eq_true] at htext
      obtain ⟨htake, hdrop⟩ := takeWhile_isPart htext.2 hrest
      have hcut := Token.cut_of_isStart (position == 0) (text ++ rest) htext.1
      rw [htake, hdrop] at hcut
      exact drawAll_cons hcut

theorem drawAll_segment (position : Nat) {segment rest : List Char} (h : Segment segment)
    (hrest : EndsWord rest) :
    (Lexer.mk position (segment ++ rest)).drawAll.1 =
      ⟨.identifier, segment, position⟩ ::
        (Lexer.mk (position + byteLength segment) rest).drawAll.1 := by
  cases h with
  | plain hplain => exact drawAll_plain position hplain hrest
  | @quoted text hne htick hfeed =>
      have hcut := Token.cut_quoted (position == 0) (Token.quoted?_of_segment hne htick hfeed rest)
      have htext : '`' :: (text ++ ['`']) ++ rest = '`' :: (text ++ '`' :: rest) := by simp
      rw [htext]
      exact drawAll_cons hcut

/-- What follows a name starts no token of a name. -/
theorem takeWhile_isNamePart_of_endsName (position : Nat) {tail : List Char} (h : EndsName tail) :
    (Lexer.mk position tail).drawAll.1.takeWhile Token.isNamePart = [] := by
  cases tail with
  | nil => rw [drawAll_of_rest_eq_nil rfl, List.takeWhile_nil]
  | cons c rest =>
      obtain ⟨hpart, hdot, htick⟩ := h c rfl
      have hkinds := Token.cut_kind_of_not_isPart (position == 0) rest hpart hdot htick
      rcases hcut : Token.cut (position == 0) c rest with ⟨kind, text, after⟩
      rw [hcut] at hkinds
      rw [drawAll_cons hcut, List.takeWhile_cons_of_neg]
      simp [Token.isNamePart, hkinds.1, hkinds.2]

/-- The tokens of a name are found up to its end, and their texts are the name. -/
theorem takeWhile_isNamePart_segments (segments : List (List Char)) (hne : segments ≠ [])
    (hsegments : ∀ segment ∈ segments, Segment segment) (position : Nat) {tail : List Char}
    (htail : EndsName tail) :
    ((Lexer.mk position (join '.' segments ++ tail)).drawAll.1.takeWhile
      Token.isNamePart).flatMap Token.text = join '.' segments := by
  induction segments generalizing position with
  | nil => exact absurd rfl hne
  | cons segment segments ih =>
      have hfirst := hsegments segment (by simp)
      cases segments with
      | nil =>
          rw [join, drawAll_segment position hfirst fun c hc => (htail c hc).1,
            List.takeWhile_cons_of_pos rfl, takeWhile_isNamePart_of_endsName _ htail]
          simp
      | cons next more =>
          have hdot : EndsWord ('.' :: (join '.' (next :: more) ++ tail)) := by
            rintro c ⟨⟩
            decide
          rw [join, List.append_assoc, List.cons_append, drawAll_segment position hfirst hdot,
            List.takeWhile_cons_of_pos rfl, drawAll_cons (Token.cut_dot _ _),
            List.takeWhile_cons_of_pos rfl, List.flatMap_cons, List.flatMap_cons,
            ih (List.cons_ne_nil _ _) fun segment h => hsegments segment (List.mem_cons_of_mem _ h)]
          rfl

theorem dropWhile_isTrivia_of_isNamePart {tokens : List Token}
    (h : tokens.takeWhile Token.isNamePart ≠ []) : tokens.dropWhile Token.isTrivia = tokens := by
  cases tokens with
  | nil => rfl
  | cons token tokens =>
      rw [List.dropWhile_cons_of_neg]
      intro htrivia
      refine h (List.takeWhile_cons_of_neg ?_)
      cases hkind : token.kind <;> simp_all [Token.isNamePart, Token.isTrivia]

theorem significant_name (position : Nat) {name tail : List Char} (hname : Name name)
    (htail : EndsName tail) :
    ((Lexer.mk position (name ++ tail)).significant.takeWhile Token.isNamePart).flatMap
      Token.text = name := by
  have hne := hname.ne_nil
  obtain ⟨segments, hsegments, hall, rfl⟩ := hname
  have htexts := takeWhile_isNamePart_segments segments hsegments hall position htail
  rw [significant, dropWhile_isTrivia_of_isNamePart, htexts]
  intro hnil
  rw [hnil] at htexts
  exact hne htexts.symm

end Lexer

namespace Namespace

/-- Where a name or what stands before it begins, a keyword has come to its end. -/
theorem endsWord_of_trivia {gap name : List Char} (hgap : Trivia gap)
    (hseam : gap ≠ [] ∨ name.head? = some '`') (tail : List Char) :
    Lexer.EndsWord (gap ++ (name ++ tail)) := by
  cases hgap with
  | nil =>
      obtain ⟨name, rfl⟩ := List.head?_eq_some_iff.1 (hseam.resolve_left fun h => h rfl)
      rintro c ⟨⟩
      decide
  | blank hblank =>
      rintro c ⟨⟩
      exact not_isPart_of_isBlank hblank
  | line =>
      rintro c ⟨⟩
      decide
  | block =>
      rintro c ⟨⟩
      decide

/-- **The scan recovers every well-formed declaration**, whatever text follows the name. -/
theorem declaredIn_declaration {keywords : List String} {keyword : String}
    {leading gap name tail : List Char} (hkeyword : keyword ∈ keywords)
    (hplain : Identifier.isPlain keyword.toList = true) (hleading : Leading leading)
    (hgap : Trivia gap) (hname : Name name) (htail : EndsName tail)
    (hseam : gap ≠ [] ∨ name.head? = some '`') :
    declaredIn (String.ofList (leading ++ keyword.toList ++ gap ++ name ++ tail)) keywords =
      some (String.ofList name) := by
  have hends := endsWord_of_trivia hgap hseam tail
  have hfirst : (Lexer.ofList (leading ++ keyword.toList ++ gap ++ name ++ tail)).significant =
      ⟨.identifier, keyword.toList, Lexer.byteLength leading⟩ ::
        (Lexer.mk (Lexer.byteLength leading + Lexer.byteLength keyword.toList)
          (gap ++ (name ++ tail))).drawAll.1 := by
    simp only [List.append_assoc]
    rw [Lexer.significant_leading hleading, Lexer.significant, Lexer.drawAll_plain _ hplain hends,
      List.dropWhile_cons_of_neg (by simp [Token.isTrivia])]
  have hscan : (tokens (leading ++ keyword.toList ++ gap ++ name ++ tail)).dropWhile Token.isTrivia =
      _ := hfirst
  have hrest := Lexer.significant_append hgap
    (Lexer.byteLength leading + Lexer.byteLength keyword.toList) (name ++ tail)
  have hany : keywords.any (Token.isKeyword ·
      ⟨.identifier, keyword.toList, Lexer.byteLength leading⟩) = true :=
    List.any_eq_true.2 ⟨keyword, hkeyword, by simp [Token.isKeyword]⟩
  rw [declaredIn, String.toList_ofList, scan, hscan]
  simp only [hany, if_true]
  rw [← Lexer.significant, hrest, Lexer.significant_name _ hname htail]

/-- A quoted name right behind its keyword, after nested comments and before one that stays open. -/
theorem declaredIn_quoted_name :
    declaredIn "#!k\n/*/*é*/*/package`a b`.c;/*`" ["package"] = some "`a b`.c" := by
  have hinside : InComment ('/' :: '*' :: (['é', '*', '/'] ++ ['*', '/'])) :=
    .nested (.char (by decide) (by decide) .close) .close
  have hleading : Leading ('#' :: '!' :: (['k'] ++ '\n' :: ('/' :: '*' ::
      ('/' :: '*' :: (['é', '*', '/'] ++ ['*', '/']) ++ [])))) :=
    .shebang (by decide) (.block hinside .nil)
  have hname : Name (join '.' [['`', 'a', ' ', 'b', '`'], ['c']]) := by
    refine ⟨_, List.cons_ne_nil _ _, ?_, rfl⟩
    intro segment hsegment
    simp only [List.mem_cons, List.not_mem_nil, or_false] at hsegment
    rcases hsegment with rfl | rfl
    · exact @Segment.quoted ['a', ' ', 'b'] (by decide) (by decide) (by decide)
    · exact Segment.plain (by decide)
  have htail : EndsName [';', '/', '*', '`'] := by
    rintro c ⟨⟩
    decide
  have hdeclared := declaredIn_declaration (List.mem_singleton_self "package") (by decide) hleading
    .nil hname htail (.inr rfl)
  simpa [join] using hdeclared

end Namespace

end ScriptPlugins
