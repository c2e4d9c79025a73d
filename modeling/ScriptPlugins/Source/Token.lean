import ScriptPlugins.Source.Identifier

/-!
# Tokens of a script

Finding the namespace of a script needs no parser. It is enough to tell what may be skipped
(whitespace, comments, a shebang line) from identifiers and dots, and to call every other
character a token of its own. Tokens are drawn one at a time, so a reader that has seen enough
never looks at the rest of the script.

Each branch of `cut` splits its input in two, so the texts of the tokens together are the source,
and no token is empty, so drawing them ends.
-/

namespace ScriptPlugins

open Text

inductive Token.Kind where
  | whitespace
  /-- From two slashes up to the line break. -/
  | lineComment
  /-- Nests; one that is never closed runs to the end. -/
  | blockComment
  /-- From the number sign and exclamation mark that open the source up to the line break. -/
  | shebang
  /-- Plain, or quoted in backticks. -/
  | identifier
  | dot
  | other
  deriving Repr, DecidableEq

structure Token where
  kind : Token.Kind
  text : List Char
  /-- How many bytes of the source precede the token. -/
  offset : Nat
  deriving Repr, DecidableEq

namespace Token

/-- Whether a declaration reads the same without the token. -/
def isTrivia (token : Token) : Bool :=
  match token.kind with
  | .whitespace | .lineComment | .blockComment | .shebang => true
  | .identifier | .dot | .other => false

def isKeyword (keyword : String) (token : Token) : Bool :=
  token.kind == .identifier && token.text == keyword.toList

/-- Whether the token can be part of a dotted name. -/
def isNamePart (token : Token) : Bool :=
  token.kind == .identifier || token.kind == .dot

/-- The characters that finish a block comment of which `depth` levels are open, and the rest. -/
def spanComment : Nat → List Char → List Char × List Char
  | 0, rest => ([], rest)
  | _ + 1, [] => ([], [])
  | depth + 1, '/' :: '*' :: rest =>
    let (comment, after) := spanComment (depth + 2) rest
    ('/' :: '*' :: comment, after)
  | depth + 1, '*' :: '/' :: rest =>
    let (comment, after) := spanComment depth rest
    ('*' :: '/' :: comment, after)
  | depth + 1, c :: rest =>
    let (comment, after) := spanComment (depth + 1) rest
    (c :: comment, after)

def inLine (c : Char) : Bool :=
  c != '\n'

def inQuotes (c : Char) : Bool :=
  c != '`' && c != '\n'

/-- The quoted name at the start of what follows a backtick: some characters on one line, up to
the next backtick. -/
def quoted? (text : List Char) : Option (List Char × List Char) :=
  match text.takeWhile inQuotes, text.dropWhile inQuotes with
  | c :: name, '`' :: rest => some (c :: name, rest)
  | _, _ => none

/-- The kind and the text of the first token, and what follows it. -/
def cut (atStart : Bool) (c : Char) (rest : List Char) : Kind × List Char × List Char :=
  if atStart && c == '#' && rest.head? == some '!' then
    (.shebang, c :: rest.takeWhile inLine, rest.dropWhile inLine)
  else if isBlank c then
    (.whitespace, c :: rest.takeWhile isBlank, rest.dropWhile isBlank)
  else if c == '/' && rest.head? == some '/' then
    (.lineComment, c :: rest.takeWhile inLine, rest.dropWhile inLine)
  else if c == '/' && rest.head? == some '*' then
    let (comment, after) := spanComment 1 rest.tail
    (.blockComment, '/' :: '*' :: comment, after)
  else if c == '`' then
    match quoted? rest with
    | some (name, after) => (.identifier, '`' :: (name ++ ['`']), after)
    | none => (.other, [c], rest)
  else if Identifier.isStart c then
    (.identifier, c :: rest.takeWhile Identifier.isPart, rest.dropWhile Identifier.isPart)
  else if c == '.' then
    (.dot, [c], rest)
  else
    (.other, [c], rest)

theorem spanComment_append (depth : Nat) (text : List Char) :
    (spanComment depth text).1 ++ (spanComment depth text).2 = text := by
  fun_induction spanComment depth text <;> simp_all

theorem quoted?_append {text name after : List Char} (h : quoted? text = some (name, after)) :
    name ++ '`' :: after = text := by
  unfold quoted? at h
  split at h
  · next heq hrest =>
    simp only [Option.some.injEq, Prod.mk.injEq] at h
    obtain ⟨rfl, rfl⟩ := h
    rw [← heq, ← hrest, List.takeWhile_append_dropWhile]
  · simp at h

theorem cut_append (atStart : Bool) (c : Char) (rest : List Char) :
    (cut atStart c rest).2.1 ++ (cut atStart c rest).2.2 = c :: rest := by
  unfold cut
  split
  · simp
  split
  · simp
  split
  · simp
  split
  · next h =>
    simp only [Bool.and_eq_true, beq_iff_eq] at h
    obtain ⟨rfl, hhead⟩ := h
    cases rest with
    | nil => simp at hhead
    | cons d rest =>
      simp only [List.head?_cons, Option.some.injEq] at hhead
      subst hhead
      simp [spanComment_append]
  split
  · next h =>
    simp only [beq_iff_eq] at h
    subst h
    split
    · next heq => simp [quoted?_append heq]
    · simp
  split
  · simp
  split <;> simp

theorem cut_text_ne_nil (atStart : Bool) (c : Char) (rest : List Char) :
    (cut atStart c rest).2.1 ≠ [] := by
  unfold cut
  repeat' split
  all_goals simp

end Token

/-- A source from which some tokens have been drawn. -/
structure Lexer where
  position : Nat
  rest : List Char
  deriving Repr, DecidableEq

namespace Lexer

def ofList (source : List Char) : Lexer :=
  ⟨0, source⟩

def byteLength : List Char → Nat
  | [] => 0
  | c :: rest => c.utf8Size + byteLength rest

def next? (lexer : Lexer) : Option (Token × Lexer) :=
  match lexer.rest with
  | [] => none
  | c :: rest =>
    let (kind, text, after) := Token.cut (lexer.position == 0) c rest
    some (⟨kind, text, lexer.position⟩, ⟨lexer.position + byteLength text, after⟩)

/-- Draws at most `count` tokens. -/
def draw : Nat → Lexer → List Token × Lexer
  | 0, lexer => ([], lexer)
  | count + 1, lexer =>
    match lexer.next? with
    | none => ([], lexer)
    | some (token, lexer) =>
      let (tokens, lexer) := draw count lexer
      (token :: tokens, lexer)

/-- Draws all tokens: no token is empty, so there are at most as many as characters. -/
def drawAll (lexer : Lexer) : List Token × Lexer :=
  lexer.draw lexer.rest.length

end Lexer

def tokens (source : List Char) : List Token :=
  (Lexer.ofList source).drawAll.1

end ScriptPlugins
