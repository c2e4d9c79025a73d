import ScriptPlugins.Failure
import ScriptPlugins.Text.Pieces

/-!
# Reports of failures

A command that fails says what it was doing, and then what went wrong, each cause on a line of its
own below the last. Several causes are numbered.
-/

namespace ScriptPlugins

open Text

/-- A failure, and what was being done when it came up. -/
structure Trouble where
  activity : Option String
  failure : Failure
  deriving Repr, DecidableEq

namespace Trouble

def ofFailure (failure : Failure) : Trouble :=
  ⟨none, failure⟩

def during (activity : String) (failure : Failure) : Trouble :=
  ⟨some activity, failure⟩

/-- All there is to say, what is behind each after it. -/
def messages (trouble : Trouble) : List String :=
  trouble.activity.toList ++ [trouble.failure.message] ++ trouble.failure.cause?.toList

/-- A text with blanks before each of its lines but the first. -/
def hang (width : Nat) (text : String) : List Char :=
  join '\n' (match pieces '\n' text.toList with
    | [] => []
    | first :: rest => first :: rest.map (List.replicate width ' ' ++ ·))

def numbered (number : Nat) (cause : String) : List Char :=
  let written := (toString number).toList
  List.replicate (5 - written.length) ' ' ++ written ++ [':', ' '] ++ hang 7 cause

def causes : List String → List (List Char)
  | [] => []
  | [cause] => [List.replicate 4 ' ' ++ hang 4 cause]
  | causes => causes.zipIdx.map fun (cause, number) => numbered number cause

def render (trouble : Trouble) : String :=
  match trouble.messages with
  | [] => "Error: "
  | [message] => "Error: " ++ message
  | message :: rest =>
    "Error: " ++ message ++ "\n\nCaused by:" ++
      String.ofList ((causes rest).flatMap ('\n' :: ·))

end Trouble

end ScriptPlugins
