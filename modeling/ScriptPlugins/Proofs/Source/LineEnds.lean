import Mathlib.Data.List.Forall2
import ScriptPlugins.Proofs.Plugins.Interview
import ScriptPlugins.Proofs.Source.Provenance

/-!
# The ends of lines

A text may end its lines in line feeds alone or put a carriage return before each of them. The tokens
are not the same: blanks grow, and a comment up to the end of a line takes the carriage return with
it, so that what follows begins with the line feed alone. But the two lexers stay side by side.
`Returned` says what can be left for both, one draw from there gives tokens of the same kind and leaves
them so, and the texts differ only where the scan for a namespace does not look.
-/

namespace ScriptPlugins

open Text

/-- The text with a carriage return before every line feed. -/
def Text.returned (text : List Char) : List Char :=
  text.flatMap fun c => if c = '\n' then ['\r', '\n'] else [c]

def Text.withReturns (source : String) : String :=
  String.ofList (returned source.toList)

namespace Text

theorem returned_feed (rest : List Char) : returned ('\n' :: rest) = '\r' :: '\n' :: returned rest :=
  rfl

theorem returned_cons {c : Char} (h : c ≠ '\n') (rest : List Char) :
    returned (c :: rest) = c :: returned rest := by
  rw [returned, List.flatMap_cons, if_neg h, List.singleton_append, returned]

theorem head?_returned {d : Char} (hreturn : d ≠ '\r') (hfeed : d ≠ '\n') (text : List Char) :
    ((returned text).head? == some d) = (text.head? == some d) := by
  cases text with
  | nil => rfl
  | cons c rest =>
      by_cases hc : c = '\n'
      · subst hc
        rw [returned_feed, List.head?_cons, List.head?_cons]
        simp [hreturn.symm, hfeed.symm]
      · rw [returned_cons hc, List.head?_cons, List.head?_cons]

variable {p : Char → Bool}

theorem dropWhile_returned (hfeed : p '\n' = true) (hreturn : p '\r' = true) (text : List Char) :
    (returned text).dropWhile p = returned (text.dropWhile p) := by
  induction text with
  | nil => rfl
  | cons c rest ih =>
      by_cases hc : c = '\n'
      · subst hc
        rw [returned_feed, List.dropWhile_cons_of_pos hreturn, List.dropWhile_cons_of_pos hfeed,
          List.dropWhile_cons_of_pos hfeed, ih]
      · rw [returned_cons hc, List.dropWhile_cons, List.dropWhile_cons, ih]
        split_ifs
        · rfl
        · rw [returned_cons hc]

theorem span_returned (hfeed : p '\n' = false) (hreturn : p '\r' = false) (text : List Char) :
    (returned text).takeWhile p = text.takeWhile p ∧
      (returned text).dropWhile p = returned (text.dropWhile p) := by
  induction text with
  | nil => exact ⟨rfl, rfl⟩
  | cons c rest ih =>
      by_cases hc : c = '\n'
      · subst hc
        simp [returned_feed, hfeed, hreturn]
      · rw [returned_cons hc, List.takeWhile_cons, List.takeWhile_cons, List.dropWhile_cons,
          List.dropWhile_cons, ih.1, ih.2]
        split_ifs
        · exact ⟨rfl, rfl⟩
        · exact ⟨rfl, (returned_cons hc rest).symm⟩

/-- A search that line feeds stop and carriage returns do not: it is stopped by the same line feed, or
the texts are the same up to where it stops. -/
theorem span_line_returned (hfeed : p '\n' = false) (hreturn : p '\r' = true) (text : List Char) :
    (∃ rest, text.dropWhile p = '\n' :: rest ∧
        (returned text).dropWhile p = '\n' :: returned rest) ∨
      (text.dropWhile p).head? ≠ some '\n' ∧ (returned text).takeWhile p = text.takeWhile p ∧
        (returned text).dropWhile p = returned (text.dropWhile p) := by
  induction text with
  | nil => exact .inr ⟨nofun, rfl, rfl⟩
  | cons c rest ih =>
      by_cases hc : c = '\n'
      · subst hc
        left
        refine ⟨rest, List.dropWhile_cons_of_neg (by simp [hfeed]), ?_⟩
        rw [returned_feed, List.dropWhile_cons_of_pos hreturn,
          List.dropWhile_cons_of_neg (by simp [hfeed])]
      · rw [returned_cons hc, List.takeWhile_cons, List.takeWhile_cons, List.dropWhile_cons,
          List.dropWhile_cons]
        by_cases hp : p c = true
        · rw [if_pos hp, if_pos hp, if_pos hp, if_pos hp, List.cons.injEq]
          exact ih.imp id fun ⟨hhead, htake, hdrop⟩ => ⟨hhead, ⟨rfl, htake⟩, hdrop⟩
        · rw [if_neg hp, if_neg hp, if_neg hp, if_neg hp]
          exact .inr ⟨by simpa using hc, rfl, (returned_cons hc rest).symm⟩

end Text

namespace Token

/-- What can be left of a text and of the same text with carriage returns. -/
inductive Returned : List Char → List Char → Prop where
  | whole (text : List Char) : Returned text (returned text)
  /-- Behind something that runs up to the end of its line. -/
  | behind (rest : List Char) : Returned ('\n' :: rest) ('\n' :: returned rest)

theorem returned_dropWhile_inLine (text : List Char) :
    Returned (text.dropWhile inLine) ((returned text).dropWhile inLine) := by
  rcases @span_line_returned inLine (by decide) (by decide) text with
    ⟨rest, hrest, hreturned⟩ | ⟨-, -, hreturned⟩
  · rw [hrest, hreturned]
    exact .behind rest
  · rw [hreturned]
    exact .whole _

theorem spanComment_returned (depth : Nat) (text : List Char) :
    (spanComment depth (returned text)).2 = returned (spanComment depth text).2 := by
  fun_induction spanComment depth text with
  | case1 => rw [spanComment]
  | case2 => rfl
  | case3 depth rest comment after hspan ih =>
      rw [returned_cons (by decide), returned_cons (by decide), spanComment, ih, hspan]
  | case4 depth rest comment after hspan ih =>
      rw [returned_cons (by decide), returned_cons (by decide), spanComment, ih, hspan]
  | case5 depth c rest hopen hclose comment after hspan ih =>
      rw [hspan] at ih
      by_cases hc : c = '\n'
      · subst hc
        rw [returned_feed, spanComment_cons depth (by simp) (by simp),
          spanComment_cons depth (by simp) (by simp), ih]
      · have hpair : ∀ a b : Char, b ≠ '\r' → b ≠ '\n' →
            (∀ more, c = a → rest = b :: more → False) → ¬ [a, b] <+: c :: returned rest := by
          intro a b hreturn hfeed hnot hprefix
          obtain ⟨rfl, hhead⟩ := pair_prefix_iff.1 hprefix
          have hsame := head?_returned hreturn hfeed rest
          rw [hhead, BEq.rfl] at hsame
          obtain ⟨more, hmore⟩ := List.head?_eq_some_iff.1 (beq_iff_eq.1 hsame.symm)
          exact hnot more rfl hmore
        rw [returned_cons hc, spanComment_cons depth (hpair '/' '*' (by decide) (by decide) hopen)
          (hpair '*' '/' (by decide) (by decide) hclose), ih]

theorem quoted?_returned (text : List Char) :
    quoted? (returned text) = (quoted? text).map fun (name, rest) => (name, returned rest) := by
  rcases @span_line_returned inQuotes (by decide) (by decide) text with
    ⟨rest, hrest, hreturned⟩ | ⟨hhead, htake, hdrop⟩
  · have hnone : ∀ text : List Char, (∃ rest, text.dropWhile inQuotes = '\n' :: rest) →
        quoted? text = none := by
      rintro text ⟨rest, hrest⟩
      rw [quoted?, hrest]
      split
      · next h => cases h
      · rfl
    rw [hnone text ⟨_, hrest⟩, hnone _ ⟨_, hreturned⟩, Option.map_none]
  · rw [quoted?, quoted?, htake, hdrop]
    cases hname : text.takeWhile inQuotes with
    | nil => rfl
    | cons c name =>
        cases hafter : text.dropWhile inQuotes with
        | nil => rfl
        | cons d rest =>
            rw [hafter, List.head?_cons] at hhead
            rw [returned_cons fun hd => hhead (congrArg some hd)]
            by_cases hd : d = '`'
            · subst hd
              rfl
            · simp [hd]

/-- Two cuts that a reader of names does not tell apart. -/
structure Alike (first second : Kind × List Char × List Char) : Prop where
  kind : second.1 = first.1
  text : (∀ offset, isTrivia ⟨first.1, first.2.1, offset⟩ = true) ∨ second.2.1 = first.2.1
  rest : Returned first.2.2 second.2.2

theorem cut_returned_feed (atStart : Bool) (rest : List Char) :
    Alike (cut atStart '\n' rest) (cut atStart '\n' (returned rest)) := by
  rw [cut_of_isBlank atStart rest (by decide), cut_of_isBlank atStart (returned rest) (by decide)]
  refine ⟨rfl, .inl fun _ => rfl, ?_⟩
  rw [dropWhile_returned (by decide) (by decide)]
  exact .whole _

theorem cut_returned_return (atStart : Bool) (rest : List Char) :
    Alike (cut atStart '\n' rest) (cut atStart '\r' ('\n' :: returned rest)) := by
  rw [cut_of_isBlank atStart rest (by decide), cut_of_isBlank atStart _ (by decide)]
  refine ⟨rfl, .inl fun _ => rfl, ?_⟩
  rw [List.dropWhile_cons_of_pos (by decide), dropWhile_returned (by decide) (by decide)]
  exact .whole _

theorem cut_returned_cons (atStart : Bool) (c : Char) (rest : List Char) :
    Alike (cut atStart c rest) (cut atStart c (returned rest)) := by
  unfold cut
  rw [head?_returned (by decide) (by decide), head?_returned (by decide) (by decide),
    head?_returned (by decide) (by decide)]
  split_ifs with _ _ _ hblock _ hstart
  · exact ⟨rfl, .inl fun _ => rfl, returned_dropWhile_inLine rest⟩
  · refine ⟨rfl, .inl fun _ => rfl, ?_⟩
    rw [dropWhile_returned (by decide) (by decide)]
    exact .whole _
  · exact ⟨rfl, .inl fun _ => rfl, returned_dropWhile_inLine rest⟩
  · -- the star of the opening is no line feed, so both look behind it
    obtain ⟨more, rfl⟩ := List.head?_eq_some_iff.1 (beq_iff_eq.1 (Bool.and_eq_true_iff.1 hblock).2)
    refine ⟨rfl, .inl fun _ => rfl, ?_⟩
    rw [returned_cons (by decide), List.tail_cons, List.tail_cons, spanComment_returned]
    exact .whole _
  · rw [quoted?_returned]
    cases quoted? rest with
    | none => exact ⟨rfl, .inr rfl, .whole rest⟩
    | some found => exact ⟨rfl, .inr rfl, .whole _⟩
  · obtain ⟨htake, hdrop⟩ := @span_returned Identifier.isPart (by decide) (by decide) rest
    rw [htake, hdrop]
    exact ⟨rfl, .inr rfl, .whole _⟩
  · exact ⟨rfl, .inr rfl, .whole rest⟩
  · exact ⟨rfl, .inr rfl, .whole rest⟩

theorem cut_returned (atStart : Bool) {c : Char} {rest text : List Char}
    (h : Returned (c :: rest) text) :
    ∃ d more, text = d :: more ∧ Alike (cut atStart c rest) (cut atStart d more) := by
  cases h with
  | behind => exact ⟨'\n', returned rest, rfl, cut_returned_feed atStart rest⟩
  | whole =>
      by_cases hc : c = '\n'
      · subst hc
        exact ⟨'\r', '\n' :: returned rest, rfl, cut_returned_return atStart rest⟩
      · exact ⟨c, returned rest, returned_cons hc rest, cut_returned_cons atStart c rest⟩

/-- Tokens that a reader of names does not tell apart. -/
structure Like (token other : Token) : Prop where
  kind : other.kind = token.kind
  text : token.isTrivia = true ∨ other.text = token.text

variable {token other : Token}

theorem Like.isTrivia (h : token.Like other) : other.isTrivia = token.isTrivia := by
  rw [Token.isTrivia, Token.isTrivia, h.kind]

theorem Like.isNamePart (h : token.Like other) : other.isNamePart = token.isNamePart := by
  rw [Token.isNamePart, Token.isNamePart, h.kind]

theorem Like.text_of_isNamePart (h : token.Like other) (hpart : token.isNamePart = true) :
    other.text = token.text := by
  refine h.text.resolve_left fun htrivia => ?_
  rw [Token.isNamePart] at hpart
  rw [Token.isTrivia] at htrivia
  cases hkind : token.kind <;> simp [hkind] at hpart htrivia

theorem Like.isKeyword (h : token.Like other) (keyword : String) :
    other.isKeyword keyword = token.isKeyword keyword := by
  rw [Token.isKeyword, Token.isKeyword, h.kind]
  cases hidentifier : token.kind == .identifier with
  | false => rfl
  | true => rw [h.text_of_isNamePart (by rw [Token.isNamePart, hidentifier, Bool.true_or])]

end Token

theorem Lexer.forall₂_drawAll {text other : List Char} (h : Token.Returned text other)
    {position otherPosition : Nat} (hstart : (position == 0) = (otherPosition == 0)) :
    List.Forall₂ Token.Like (Lexer.mk position text).drawAll.1
      (Lexer.mk otherPosition other).drawAll.1 := by
  induction hlength : text.length using Nat.strongRecOn
    generalizing text other position otherPosition with
  | ind length ih =>
      subst hlength
      cases text with
      | nil =>
          cases h
          rw [drawAll_of_rest_eq_nil rfl, drawAll_of_rest_eq_nil rfl]
          exact .nil
      | cons c rest =>
          obtain ⟨d, more, rfl, halike⟩ := Token.cut_returned (position == 0) h
          have hne := Token.cut_text_ne_nil (position == 0) c rest
          have hotherNe := Token.cut_text_ne_nil (position == 0) d more
          rcases hcut : Token.cut (position == 0) c rest with ⟨kind, text, after⟩
          rcases hother : Token.cut (position == 0) d more with ⟨otherKind, otherText, otherAfter⟩
          rw [hcut] at halike hne
          rw [hother] at halike hotherNe
          obtain ⟨hkind, htext, hrest⟩ := halike
          rw [drawAll_cons hcut, drawAll_cons (hstart ▸ hother)]
          refine .cons ⟨hkind, htext.imp (fun htrivia => htrivia position) id⟩ ?_
          refine ih _ (length_rest_lt (next?_cons hcut)) hrest ?_ rfl
          -- neither is at the start any more
          have hpos : 0 < byteLength text := byteLength_pos hne
          have hotherPos : 0 < byteLength otherText := byteLength_pos hotherNe
          rw [beq_eq_false_iff_ne.2 (by omega), beq_eq_false_iff_ne.2 (by omega)]

namespace Namespace

variable {tokens others : List Token} {keywords : List String}

theorem forall₂_dropWhile_isTrivia (h : List.Forall₂ Token.Like tokens others) :
    List.Forall₂ Token.Like (tokens.dropWhile Token.isTrivia)
      (others.dropWhile Token.isTrivia) := by
  induction h with
  | nil => exact .nil
  | @cons token other rest more hlike hrest ih =>
      rw [List.dropWhile_cons, List.dropWhile_cons, hlike.isTrivia]
      split_ifs
      · exact ih
      · exact .cons hlike hrest

theorem flatMap_takeWhile_isNamePart (h : List.Forall₂ Token.Like tokens others) :
    (others.takeWhile Token.isNamePart).flatMap Token.text =
      (tokens.takeWhile Token.isNamePart).flatMap Token.text := by
  induction h with
  | nil => rfl
  | @cons token other rest more hlike hrest ih =>
      rw [List.takeWhile_cons, List.takeWhile_cons, hlike.isNamePart]
      cases hpart : token.isNamePart with
      | false => rfl
      | true =>
          rw [if_pos rfl, if_pos rfl, List.flatMap_cons, List.flatMap_cons, ih,
            hlike.text_of_isNamePart hpart]

theorem scan_of_forall₂_like (h : List.Forall₂ Token.Like tokens others) :
    scan keywords others = scan keywords tokens := by
  have hfirst := forall₂_dropWhile_isTrivia h
  rw [scan, scan]
  generalize tokens.dropWhile Token.isTrivia = left at hfirst
  generalize others.dropWhile Token.isTrivia = right at hfirst
  cases hfirst with
  | nil => rfl
  | cons hlike hrest =>
      simp only [hlike.isKeyword,
        flatMap_takeWhile_isNamePart (forall₂_dropWhile_isTrivia hrest)]

theorem declaredIn_returned (source : String) (keywords : List String) :
    declaredIn (withReturns source) keywords = declaredIn source keywords := by
  rw [declaredIn, declaredIn, withReturns, String.toList_ofList]
  exact scan_of_forall₂_like (Lexer.forall₂_drawAll (.whole source.toList) rfl)

end Namespace

namespace Script

variable {source : String} {keywords : List String}

/-- What a text stands for does not depend on how its lines end. -/
theorem answerOf_returned (script : Script) (source : String) (question : Question) :
    script.answerOf (withReturns source) question = script.answerOf source question := by
  rw [answerOf, answerOf, Namespace.declaredIn_returned]

theorem answer_of_readText {path : Path} {tree : Tree} {text : String} (suffix : String)
    (keywords : List String) (h : tree.readText path = .ok text) (question : Question) :
    let script := (ofPath path suffix).withKeywords keywords
    (script.answer tree question).1 = .ok (script.answerOf text question) := by
  intro script
  have hconsistent : script.Consistent := (consistent_ofPath path suffix).withKeywords keywords
  have hload : script.load tree = .ok text := by
    have htext : script.text = none := rfl
    have hpath : script.path = path := rfl
    rw [load, htext, hpath]
    simp only [h]
  by_cases hneeds : question.needsText = true
  · refine @answer_after_of_firstText _ tree question hconsistent rfl [] text ?_
    rw [List.nil_append, firstText_singleton, if_pos hneeds, hload]
    rfl
  · exact answer_after_of_not_needsText hconsistent [] tree _ hneeds

/-- **The ends of lines do not matter.** A source with a carriage return before every line feed
declares the namespace that it declares without them. So a script has the same names for both, whether
it comes with its text or has it in a file. -/
theorem names_of_returned (source : String) (keywords : List String) :
    Namespace.declaredIn (withReturns source) keywords = Namespace.declaredIn source keywords ∧
      (∀ path suffix tree later question, ∃ answer,
        (((ofText path suffix source).withKeywords keywords).answer tree question).1 = .ok answer ∧
        (((ofText path suffix (withReturns source)).withKeywords keywords).answer later question).1 =
          .ok answer) ∧
      ∀ path suffix tree later, tree.readText path = .ok source →
        later.readText path = .ok (withReturns source) → ∀ question, ∃ answer,
          (((ofPath path suffix).withKeywords keywords).answer tree question).1 = .ok answer ∧
          (((ofPath path suffix).withKeywords keywords).answer later question).1 = .ok answer := by
  refine ⟨Namespace.declaredIn_returned source keywords, ?_, ?_⟩
  · intro path suffix tree later question
    have hsource := @answer_after_of_text _ tree question
      ((consistent_ofText path suffix source).withKeywords keywords) rfl source rfl []
    have hother := @answer_after_of_text _ later question
      ((consistent_ofText path suffix (withReturns source)).withKeywords keywords) rfl _ rfl []
    rw [answerOf_returned] at hother
    refine ⟨_, hsource, hother.trans ?_⟩
    cases question <;> rfl
  · intro path suffix tree later hsource hother question
    have hsame := answerOf_returned ((ofPath path suffix).withKeywords keywords) source question
    have hlater := answer_of_readText suffix keywords hother question
    exact ⟨_, answer_of_readText suffix keywords hsource question,
      hlater.trans (congrArg Except.ok hsame)⟩

/-- A shebang and a comment each take their carriage return along, and the blanks between lines
grow. -/
theorem names_of_returned_behind_comments :
    let source := "#!/bin/sh\n// about\n\npackage org.acme\n"
    let other := "#!/bin/sh\r\n// about\r\n\r\npackage org.acme\r\n"
    let saying (text : String) : Tree := Tree.empty.put
      [Utf8.ofString "home", Utf8.ofString "x.gradle.kts"] (.file (Utf8.ofString text))
    let script := (ofPath (.ofString "x.gradle.kts") ".gradle.kts").withKeywords ["package"]
    other = withReturns source ∧
      Namespace.declaredIn other ["package"] = some "org.acme" ∧
      (script.answer (saying other) .compiledType).1 =
        .ok (.compiledType "org.acme.X_gradle") := by
  intro source other saying script
  have hreturned : other = withReturns source := by decide +kernel
  have hspace : Namespace.declaredIn source ["package"] = some "org.acme" := by decide +kernel
  have hsource : (saying source).readText (.ofString "x.gradle.kts") = .ok source := by
    decide +kernel
  have hother : (saying other).readText (.ofString "x.gradle.kts") = .ok (withReturns source) := by
    decide +kernel
  have htype : (script.answer (saying source) .compiledType).1 =
      .ok (.compiledType "org.acme.X_gradle") := by
    decide +kernel
  obtain ⟨hsame, -, hfiles⟩ := names_of_returned source ["package"]
  obtain ⟨answer, hanswer, hlater⟩ := hfiles (.ofString "x.gradle.kts") ".gradle.kts"
    (saying source) (saying other) hsource hother .compiledType
  rw [← hreturned] at hsame
  exact ⟨hreturned, hsame.trans hspace, hlater.trans (hanswer.symm.trans htype)⟩

end Script

end ScriptPlugins
