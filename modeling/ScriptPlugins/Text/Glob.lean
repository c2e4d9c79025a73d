/-!
# Patterns for file names

A pattern is read once into pieces and then matched against names. A question mark stands for one
character, a star for any number of them, and brackets for one character of a class. Two stars
stand for whole components of a path: they must fill the space between slashes, and what they match
is empty, or ends in a slash, or is all that is left.

Brackets have no escapes. A closing bracket that comes first in a class belongs to it, so a class
is never empty, and a hyphen between two characters makes a range.
-/

namespace ScriptPlugins

namespace Glob

inductive Specifier where
  | single (c : Char)
  | range (first last : Char)
  deriving Repr, DecidableEq

def Specifier.holds : Specifier → Char → Bool
  | .single d, c => c == d
  | .range first last, c => decide (first ≤ c) && decide (c ≤ last)

inductive Piece where
  | literal (c : Char)
  | any
  | within (specifiers : List Specifier)
  | except (specifiers : List Specifier)
  /-- A star. -/
  | many
  /-- Two stars. -/
  | components
  deriving Repr, DecidableEq

inductive Problem where
  /-- More than two stars in a row. -/
  | wildcards
  /-- Two stars next to something else than a slash. -/
  | recursiveWildcards
  /-- A bracket without a class. -/
  | range
  deriving Repr, DecidableEq

def Problem.message : Problem → String
  | .wildcards => "wildcards are either regular `*` or recursive `**`"
  | .recursiveWildcards => "recursive wildcards must form a single path component"
  | .range => "invalid range pattern"

/-- Where a text stops being a pattern, counted in characters, and why. -/
structure Refusal where
  position : Nat
  problem : Problem
  deriving Repr, DecidableEq

def Refusal.message (refusal : Refusal) : String :=
  "Pattern syntax error near position " ++ toString refusal.position ++ ": " ++
    refusal.problem.message

def specifiers : List Char → List Specifier
  | first :: '-' :: last :: rest => .range first last :: specifiers rest
  | c :: rest => .single c :: specifiers rest
  | [] => []

/-- The class after an opening bracket, where its first character is taken as it is: the characters
of the class and what follows the closing bracket. -/
def class? : List Char → Option (List Char × List Char)
  | [] => none
  | c :: rest =>
    match rest.dropWhile (· != ']') with
    | [] => none
    | _ :: after => some (c :: rest.takeWhile (· != ']'), after)

theorem length_class?_lt {text inner after : List Char} (h : class? text = some (inner, after)) :
    after.length < text.length := by
  unfold class? at h
  split at h
  · simp at h
  · next c rest =>
    split at h
    · simp at h
    · next heq =>
      simp only [Option.some.injEq, Prod.mk.injEq] at h
      obtain ⟨-, rfl⟩ := h
      have := (List.dropWhile_suffix (l := rest) (· != ']')).length_le
      rw [heq] at this
      simp at this ⊢
      omega

/-- Reads the pieces of a pattern from `position` on, of which `before` is the last character. -/
def parseFrom (position : Nat) (before : Option Char) : List Char → Except Refusal (List Piece)
  | [] => .ok []
  | '*' :: '*' :: '*' :: _ => .error ⟨position + 2, .wildcards⟩
  | '*' :: '*' :: rest =>
    if before.all (· == '/') then
      match rest with
      | [] => .ok [.components]
      | '/' :: rest => (parseFrom (position + 3) (some '/') rest).map (.components :: ·)
      | _ => .error ⟨position + 2, .recursiveWildcards⟩
    else .error ⟨position - 1, .recursiveWildcards⟩
  | '*' :: rest => (parseFrom (position + 1) (some '*') rest).map (.many :: ·)
  | '?' :: rest => (parseFrom (position + 1) (some '?') rest).map (.any :: ·)
  | '[' :: '!' :: rest =>
    match h : class? rest with
    | none => .error ⟨position, .range⟩
    | some (inner, after) =>
      have := length_class?_lt h
      (parseFrom (position + inner.length + 3) (some ']') after).map
        (.except (specifiers inner) :: ·)
  | '[' :: rest =>
    match h : class? rest with
    | none => .error ⟨position, .range⟩
    | some (inner, after) =>
      have := length_class?_lt h
      (parseFrom (position + inner.length + 2) (some ']') after).map
        (.within (specifiers inner) :: ·)
  | c :: rest => (parseFrom (position + 1) (some c) rest).map (.literal c :: ·)
  termination_by text => text.length

def Piece.accepts : Piece → Char → Bool
  | .literal d, c => c == d
  | .any, _ => true
  | .within specifiers, c => specifiers.any (·.holds c)
  | .except specifiers, c => !specifiers.any (·.holds c)
  | .many, _ | .components, _ => false

/-- The ends of a list, longest first. -/
def tails : List Char → List (List Char)
  | [] => [[]]
  | c :: rest => (c :: rest) :: tails rest

/-- The ends of a text that start after a slash, and the empty one. -/
def tailsAfterSlash : List Char → List (List Char)
  | [] => [[]]
  | c :: rest => if c = '/' then rest :: tailsAfterSlash rest else tailsAfterSlash rest

def matchesAll : List Piece → List Char → Bool
  | [], text => text.isEmpty
  | .many :: pieces, text => (tails text).any (matchesAll pieces)
  | .components :: pieces, text =>
    matchesAll pieces text || (tailsAfterSlash text).any (matchesAll pieces)
  | _ :: _, [] => false
  | piece :: pieces, c :: rest => piece.accepts c && matchesAll pieces rest

end Glob

structure Glob where
  pieces : List Glob.Piece
  deriving Repr, DecidableEq

namespace Glob

def parse (pattern : String) : Except Refusal Glob :=
  (parseFrom 0 none pattern.toList).map Glob.mk

def «matches» (glob : Glob) (name : String) : Bool :=
  matchesAll glob.pieces name.toList

end Glob

end ScriptPlugins
