import ScriptPlugins.Source.Identifier
import ScriptPlugins.Text.Pieces

/-!
# What a declaration is made of

The texts that may stand around the words of a namespace declaration, and the names that it may
declare, each said by itself and without a lexer. A block comment is balanced if every opening inside
it has its own end. What stands at a place inside a comment is read from left to right, so a slash
that opens a comment cannot at the same time be the second half of an end.
-/

namespace ScriptPlugins.Grammar

open Text

/-- The rest of a balanced block comment, behind its opening. -/
inductive InComment : List Char → Prop where
  | close : InComment ['*', '/']
  | char {c : Char} {rest : List Char} (hopen : ¬ ['/', '*'] <+: c :: rest)
      (hclose : ¬ ['*', '/'] <+: c :: rest) (hrest : InComment rest) : InComment (c :: rest)
  | nested {inner rest : List Char} (hinner : InComment inner) (hrest : InComment rest) :
      InComment ('/' :: '*' :: (inner ++ rest))

/-- A block comment with its end. -/
def Closed (text : List Char) : Prop :=
  ∃ inside, text = '/' :: '*' :: inside ∧ InComment inside

/-- Blanks, line comments with their line feeds, and balanced block comments, in any order. -/
inductive Trivia : List Char → Prop where
  | nil : Trivia []
  | blank {c : Char} {rest : List Char} (hblank : isBlank c = true) (hrest : Trivia rest) :
      Trivia (c :: rest)
  | line {line rest : List Char} (hline : '\n' ∉ line) (hrest : Trivia rest) :
      Trivia ('/' :: '/' :: (line ++ '\n' :: rest))
  | block {inside rest : List Char} (hinside : InComment inside) (hrest : Trivia rest) :
      Trivia ('/' :: '*' :: (inside ++ rest))

/-- What may stand before a declaration: trivia, at the very start after a shebang line. -/
inductive Leading : List Char → Prop where
  | plain {text : List Char} (htext : Trivia text) : Leading text
  | shebang {line rest : List Char} (hline : '\n' ∉ line) (hrest : Trivia rest) :
      Leading ('#' :: '!' :: (line ++ '\n' :: rest))

/-- One identifier of a name, as it is or in backticks. -/
inductive Segment : List Char → Prop where
  | plain {text : List Char} (hplain : Identifier.isPlain text = true) : Segment text
  | quoted {text : List Char} (hne : text ≠ []) (htick : '`' ∉ text) (hfeed : '\n' ∉ text) :
      Segment ('`' :: (text ++ ['`']))

/-- Identifiers with dots between them. -/
def Name (text : List Char) : Prop :=
  ∃ segments : List (List Char),
    segments ≠ [] ∧ (∀ segment ∈ segments, Segment segment) ∧ text = join '.' segments

/-- Trivia with a comment behind them that has no end, so that nothing can follow. -/
inductive Unended : List Char → Prop where
  | line {trivia line : List Char} (htrivia : Trivia trivia) (hline : '\n' ∉ line) :
      Unended (trivia ++ '/' :: '/' :: line)
  | block {trivia inside : List Char} (htrivia : Trivia trivia)
      (hinside : ∀ front, front <+: inside → ¬ InComment front) :
      Unended (trivia ++ '/' :: '*' :: inside)

/-- A text whose backticks pair up from left to right, around something in each pair, and which
outside the pairs has nothing but parts of identifiers and dots. -/
inductive Spelled : List Char → Prop where
  | nil : Spelled []
  | char {c : Char} {rest : List Char} (hchar : Identifier.isPart c = true ∨ c = '.')
      (hrest : Spelled rest) : Spelled (c :: rest)
  | quoted {text rest : List Char} (hne : text ≠ []) (htick : '`' ∉ text)
      (hrest : Spelled rest) : Spelled ('`' :: (text ++ '`' :: rest))

/-- A text that cannot go on with a name. -/
def EndsName (tail : List Char) : Prop :=
  ∀ c ∈ tail.head?, Identifier.isPart c = false ∧ c ≠ '.' ∧ c ≠ '`'

theorem Trivia.append {trivia more : List Char} (h : Trivia trivia) (hmore : Trivia more) :
    Trivia (trivia ++ more) := by
  induction h with
  | nil => exact hmore
  | blank hblank _ ih => exact .blank hblank ih
  | @line line rest hline _ ih =>
      have htext : '/' :: '/' :: (line ++ '\n' :: rest) ++ more =
          '/' :: '/' :: (line ++ '\n' :: (rest ++ more)) := by simp
      rw [htext]
      exact .line hline ih
  | @block inside rest hinside _ ih =>
      have htext : '/' :: '*' :: (inside ++ rest) ++ more =
          '/' :: '*' :: (inside ++ (rest ++ more)) := by simp
      rw [htext]
      exact .block hinside ih

theorem Leading.append {leading more : List Char} (h : Leading leading) (hmore : Trivia more) :
    Leading (leading ++ more) := by
  cases h with
  | plain htext => exact .plain (htext.append hmore)
  | @shebang line rest hline hrest =>
      have htext : '#' :: '!' :: (line ++ '\n' :: rest) ++ more =
          '#' :: '!' :: (line ++ '\n' :: (rest ++ more)) := by simp
      rw [htext]
      exact .shebang hline (hrest.append hmore)

theorem Unended.append {trivia more : List Char} (h : Trivia trivia) (hmore : Unended more) :
    Unended (trivia ++ more) := by
  cases hmore with
  | line hfront hline =>
      rw [← List.append_assoc]
      exact .line (h.append hfront) hline
  | block hfront hinside =>
      rw [← List.append_assoc]
      exact .block (h.append hfront) hinside

theorem Spelled.append {text more : List Char} (h : Spelled text) (hmore : Spelled more) :
    Spelled (text ++ more) := by
  induction h with
  | nil => exact hmore
  | char hchar _ ih => exact .char hchar ih
  | @quoted text rest hne htick _ ih =>
      have htext : '`' :: (text ++ '`' :: rest) ++ more =
          '`' :: (text ++ '`' :: (rest ++ more)) := by simp
      rw [htext]
      exact .quoted hne htick ih

theorem Spelled.of_isPart {text : List Char} (h : ∀ c ∈ text, Identifier.isPart c = true) :
    Spelled text := by
  induction text with
  | nil => exact .nil
  | cons c rest ih =>
      have hrest := ih fun d hd => h d (List.mem_cons_of_mem _ hd)
      exact .char (.inl (h c List.mem_cons_self)) hrest

theorem Segment.ne_nil {segment : List Char} (h : Segment segment) : segment ≠ [] := by
  cases h with
  | plain hplain =>
      rintro rfl
      exact Bool.noConfusion hplain
  | quoted => simp

theorem Segment.spelled {segment : List Char} (h : Segment segment) : Spelled segment := by
  cases h with
  | plain hplain => exact .of_isPart (Identifier.isPart_of_isPlain hplain)
  | quoted hne htick _ => exact .quoted hne htick .nil

theorem Segment.feed_notMem {segment : List Char} (h : Segment segment) : '\n' ∉ segment := by
  cases h with
  | plain hplain =>
      intro hmem
      have hpart := Identifier.isPart_of_isPlain hplain _ hmem
      exact absurd hpart (by decide)
  | quoted _ _ hfeed => simpa using hfeed

theorem Name.ne_nil {name : List Char} (h : Name name) : name ≠ [] := by
  obtain ⟨segments, hne, hsegments, rfl⟩ := h
  obtain ⟨segment, more, rfl⟩ := List.exists_cons_of_ne_nil hne
  have hfirst := (hsegments segment (by simp)).ne_nil
  cases more with
  | nil => exact hfirst
  | cons next more => simp [join, hfirst]

end ScriptPlugins.Grammar
