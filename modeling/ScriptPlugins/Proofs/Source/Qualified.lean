import ScriptPlugins.Proofs.Source.Provenance
import ScriptPlugins.Proofs.Text.Pieces

/-!
# Scanned names and qualified names

What an identifier is made of is said twice: the lexer cuts one off where it cannot go on, and the
check of a qualified name takes the pieces between its dots. The two agree because of what can be next
to each other among tokens. A plain identifier has all the parts that are there, so another one does
not follow it before a dot, and between two dots of a name without quotes there is one identifier or
nothing. What is left to go wrong are the dots.
-/

namespace ScriptPlugins

open Text Grammar Identifier

theorem Identifier.tick_notMem_of_isQualified {name : String} (h : isQualified name = true) :
    '`' ∉ name.toList := by
  intro hmem
  obtain ⟨piece, hpiece, htick⟩ := exists_mem_pieces hmem (by decide : '`' ≠ '.')
  have hplain := List.all_eq_true.1 h piece hpiece
  exact absurd (isPart_of_isPlain hplain '`' htick) (by decide)

/-- A text that has one plain identifier or nothing between two dots. -/
def Grammar.Dotted (text : List Char) : Prop :=
  ∀ piece ∈ pieces '.' text, piece = [] ∨ isPlain piece = true

namespace Grammar

variable {rest : List Char}

theorem Dotted.nil : Dotted [] := by
  intro piece hpiece
  exact .inl (List.mem_singleton.1 hpiece)

theorem Dotted.dot (h : Dotted rest) : Dotted ('.' :: rest) := by
  rw [Dotted, pieces_separator, List.forall_mem_cons]
  exact ⟨.inl rfl, h⟩

/-- A plain identifier in front of a dot or of nothing is a piece. -/
theorem Dotted.word {word : List Char} (h : Dotted rest) (hword : isPlain word = true)
    (hrest : ∀ c ∈ rest.head?, c = '.') : Dotted (word ++ rest) := by
  have hdot : '.' ∉ word := fun hmem => absurd (isPart_of_isPlain hword '.' hmem) (by decide)
  cases rest with
  | nil =>
      rw [List.append_nil, Dotted, pieces_of_not_mem _ _ hdot, List.forall_mem_singleton]
      exact .inr hword
  | cons c more =>
      obtain rfl := hrest c rfl
      rw [Dotted, pieces_separator, List.forall_mem_cons] at h
      rw [Dotted, pieces_append, pieces_of_not_mem _ _ hdot, List.singleton_append,
        List.forall_mem_cons]
      exact ⟨.inr hword, h.2⟩

/-- Dots are all that can be wrong with such a text. -/
theorem Dotted.isQualified_iff {name : String} (h : Dotted name.toList) :
    isQualified name = true ↔ [] ∉ pieces '.' name.toList := by
  rw [isQualified, List.all_eq_true]
  constructor
  · intro hall hnil
    exact Bool.noConfusion (hall [] hnil)
  · intro hnil piece hpiece
    refine (h piece hpiece).resolve_left ?_
    rintro rfl
    exact hnil hpiece

end Grammar

namespace Lexer

/-- What follows a plain identifier does not go on with it. -/
theorem endsWord_of_cut {atStart : Bool} {c : Char} {rest text after : List Char}
    (hcut : Token.cut atStart c rest = (.identifier, text, after)) (hplain : isPlain text = true) :
    EndsWord after := by
  apply (Token.cuts_of_cut hcut).after_word
  intro htick
  have hpart := isPart_of_isPlain hplain '`' (List.mem_of_head? htick)
  exact absurd hpart (by decide)

/-- The name at the start of what is left of a source. -/
def nameText (lexer : Lexer) : List Char :=
  (lexer.drawAll.1.takeWhile Token.isNamePart).flatMap Token.text

theorem nameText_nil (position : Nat) : (Lexer.mk position []).nameText = [] := by
  rw [nameText, drawAll_nil, List.takeWhile_nil, List.flatMap_nil]

theorem nameText_cons {position : Nat} {c : Char} {rest text after : List Char} {kind : Token.Kind}
    (hcut : Token.cut (position == 0) c rest = (kind, text, after)) :
    (Lexer.mk position (c :: rest)).nameText =
      if Token.isNamePart ⟨kind, text, position⟩ then
        text ++ (Lexer.mk (position + byteLength text) after).nameText
      else [] := by
  rw [nameText, drawAll_cons hcut, List.takeWhile_cons]
  split
  · rw [List.flatMap_cons, nameText]
  · rfl

/-- A name stands at the start of the text, and outside of quotes it has only parts of identifiers and
dots. -/
theorem head?_nameText {position : Nat} {text : List Char} {c : Char}
    (hhead : (Lexer.mk position text).nameText.head? = some c)
    (htick : '`' ∉ (Lexer.mk position text).nameText) :
    text.head? = some c ∧ (isPart c = true ∨ c = '.') := by
  obtain ⟨name, rest, rfl, hname, hspelled, -⟩ := exists_name position text
  rw [nameText, hname] at hhead htick
  obtain ⟨more, rfl⟩ := List.head?_eq_some_iff.1 hhead
  refine ⟨rfl, ?_⟩
  cases hspelled with
  | char hchar => exact hchar
  | quoted => exact absurd List.mem_cons_self htick

/-- A name without quotes has one identifier or nothing between two dots. -/
theorem dotted_nameText (position : Nat) (text : List Char)
    (htick : '`' ∉ (Lexer.mk position text).nameText) :
    Dotted (Lexer.mk position text).nameText := by
  induction hlength : text.length using Nat.strongRecOn generalizing position text with
  | ind length ih =>
      subst hlength
      cases text with
      | nil =>
          rw [nameText_nil]
          exact .nil
      | cons c more =>
          rcases hcut : Token.cut (position == 0) c more with ⟨kind, text, after⟩
          have hshorter := length_rest_lt (next?_cons hcut)
          rw [nameText_cons hcut] at htick ⊢
          by_cases hname : Token.isNamePart ⟨kind, text, position⟩ = true
          · rw [if_pos hname, List.mem_append, not_or] at htick
            rw [if_pos hname]
            have hrest := ih after.length hshorter (position + byteLength text) after htick.2 rfl
            rcases Token.isNamePart_iff.1 hname with hkind | hkind
            · obtain rfl : kind = .identifier := hkind
              cases Token.segment_of_cut hcut with
              | quoted => exact absurd List.mem_cons_self htick.1
              | plain hplain =>
                  refine hrest.word hplain ?_
                  intro d hd
                  obtain ⟨hafter, hpart | hdot⟩ := head?_nameText hd htick.2
                  · rw [endsWord_of_cut hcut hplain d hafter] at hpart
                    cases hpart
                  · exact hdot
            · obtain rfl : kind = .dot := hkind
              obtain rfl := Token.dot_of_cut hcut
              exact hrest.dot
          · rw [if_neg hname]
            exact .nil

/-- Tokens behind others are drawn by a lexer that has drawn the others. -/
theorem exists_drawAll_of_suffix {lexer : Lexer} {tokens : List Token}
    (h : tokens <:+ lexer.drawAll.1) : ∃ later : Lexer, later.drawAll.1 = tokens := by
  obtain ⟨front, hfront⟩ := h
  induction front generalizing lexer with
  | nil => exact ⟨lexer, hfront.symm⟩
  | cons token front ih =>
      obtain ⟨after, -, hafter⟩ := next?_of_drawAll_eq_cons hfront.symm
      exact ih hafter

end Lexer

namespace Namespace

variable {source name : String} {keywords : List String}

/-- A declared namespace is a name that is found on the way through the source. -/
theorem exists_nameText (h : declaredIn source keywords = some name) :
    ∃ lexer : Lexer, lexer.nameText = name.toList := by
  obtain ⟨first, found, hfound, -, hname⟩ := declaredIn_eq_some h
  have hsuffix : found.dropWhile Token.isTrivia <:+ (Lexer.ofList source.toList).drawAll.1 := by
    refine (List.dropWhile_suffix _).trans ((List.suffix_cons first found).trans ?_)
    rw [← hfound]
    exact List.dropWhile_suffix _
  obtain ⟨lexer, hlexer⟩ := Lexer.exists_drawAll_of_suffix hsuffix
  exact ⟨lexer, by rw [Lexer.nameText, hlexer, hname]⟩

theorem feed_notMem_of_declaredIn (h : declaredIn source keywords = some name) :
    '\n' ∉ name.toList := by
  obtain ⟨lexer, hlexer⟩ := exists_nameText h
  obtain ⟨found, -, -, hfound, -, hfeed, -⟩ := Lexer.exists_name lexer.position lexer.rest
  have hname : found = name.toList := hfound.symm.trans hlexer
  rwa [← hname]

theorem dotted_of_declaredIn (h : declaredIn source keywords = some name)
    (htick : '`' ∉ name.toList) : Dotted name.toList := by
  obtain ⟨lexer, hlexer⟩ := exists_nameText h
  rw [← hlexer] at htick ⊢
  exact Lexer.dotted_nameText lexer.position lexer.rest htick

/-- **Scanned names are qualified but for their dots.** A declared namespace without quotes has one
plain identifier or nothing between two dots. So it is a qualified name exactly if it is not empty and
no dot stands at an end or next to another dot, and with quotes it is none. -/
theorem isQualified_declared (h : declaredIn source keywords = some name) :
    (isQualified name = true ↔
      name ≠ "" ∧ '`' ∉ name.toList ∧ name.toList.head? ≠ some '.' ∧
        name.toList.getLast? ≠ some '.' ∧ ¬['.', '.'] <:+: name.toList) ∧
      ('`' ∉ name.toList → ∀ piece ∈ pieces '.' name.toList, piece = [] ∨ isPlain piece = true) := by
  refine ⟨?_, fun htick => dotted_of_declaredIn h htick⟩
  have hempty : name = "" ↔ name.toList = [] := by
    rw [← String.toList_inj, String.toList_empty]
  by_cases htick : '`' ∈ name.toList
  · constructor
    · exact fun hqualified => absurd htick (tick_notMem_of_isQualified hqualified)
    · exact fun hconditions => absurd htick hconditions.2.1
  · rw [(dotted_of_declaredIn h htick).isQualified_iff, nil_mem_pieces_iff, not_or, not_or, not_or,
      Ne, hempty, and_iff_right htick]

/-- A digit does not start an identifier, so the scan stops between it and the dot in front of it. -/
theorem isQualified_declared_before_digit :
    declaredIn "package/**/\u00e9.b1;c" ["package"] = some "\u00e9.b1" ∧
      isQualified "\u00e9.b1" = true ∧
      declaredIn "package a.1b" ["package"] = some "a." ∧ isQualified "a." = false := by
  have hplain : declaredIn "package/**/\u00e9.b1;c" ["package"] = some "\u00e9.b1" := by
    decide +kernel
  have hdigit : declaredIn "package a.1b" ["package"] = some "a." := by decide +kernel
  obtain ⟨hqualified, -⟩ := isQualified_declared hplain
  obtain ⟨hrefused, -⟩ := isQualified_declared hdigit
  refine ⟨hplain, hqualified.2 (by decide), hdigit, ?_⟩
  rw [Bool.eq_false_iff, Ne, hrefused]
  decide

end Namespace

end ScriptPlugins
