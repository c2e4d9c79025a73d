import ScriptPlugins.Text.Letter
import ScriptPlugins.Text.Capital
import ScriptPlugins.Text.Pieces

/-!
# Identifiers

Generated source is only valid if the names put into it are, and names come from file names and
from what authors write after a keyword. The lexer and these checks share one notion of the
characters of an identifier.
-/

namespace ScriptPlugins.Identifier

open Text

def isStart (c : Char) : Bool :=
  isLetter c || c == '_'

def isPart (c : Char) : Bool :=
  isLetter c || isNumeral c || c == '_'

theorem isPart_of_isStart {c : Char} (h : isStart c = true) : isPart c = true := by
  simp only [isStart, isPart, Bool.or_eq_true] at h ⊢
  rcases h with h | h
  · exact Or.inl (Or.inl h)
  · exact Or.inr h

/-- An identifier written without quotes. -/
def isPlain : List Char → Bool
  | [] => false
  | c :: rest => isStart c && rest.all isPart

theorem isPart_of_isPlain {text : List Char} (h : isPlain text = true) :
    ∀ c ∈ text, isPart c = true := by
  cases text with
  | nil => nofun
  | cons first rest =>
      simp only [isPlain, Bool.and_eq_true, List.all_eq_true] at h
      intro c hc
      rcases List.mem_cons.1 hc with rfl | hc
      · exact isPart_of_isStart h.1
      · exact h.2 c hc

/-- Whether a generated type can have this name: a capital letter, then parts of identifiers. -/
def isTypeName (name : String) : Bool :=
  match name.toList with
  | [] => false
  | c :: rest => isCapital c && rest.all isPart

/-- Whether this is a dotted name each segment of which is a plain identifier. -/
def isQualified (name : String) : Bool :=
  (pieces '.' name.toList).all isPlain

end ScriptPlugins.Identifier
