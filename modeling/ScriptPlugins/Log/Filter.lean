import ScriptPlugins.Log.Event
import ScriptPlugins.Text.Pieces

/-!
# Which events are shown

A log has a threshold for all parts of the program, and may have others for some of them. A
directive names a part by the start of its target, and where several fit, the longest decides. A
directive without a level shows everything of its part.
-/

namespace ScriptPlugins

open Text

/-- The least severe level that is shown, if any is. -/
inductive Threshold where
  | nothing
  | from (level : Level)
  deriving Repr, DecidableEq

namespace Threshold

def shows : Threshold → Level → Bool
  | .nothing, _ => false
  | .from least, level => decide (least.severity ≤ level.severity)

/-- A threshold by its name in any case, or by a number from zero on that shows more and more. -/
def ofName? (name : List Char) : Option Threshold :=
  [("off", nothing), ("error", .from .error), ("warn", .from .warn), ("info", .from .info),
   ("debug", .from .debug), ("trace", .from .trace), ("0", nothing), ("1", .from .error),
   ("2", .from .warn), ("3", .from .info), ("4", .from .debug), ("5", .from .trace)].lookup
    (String.ofList (name.map Char.toLower))

end Threshold

structure LogFilter where
  general : Threshold
  directives : List (List Char × Threshold)
  deriving Repr, DecidableEq

namespace LogFilter

def isTargetChar (c : Char) : Bool :=
  c.isAlphanum || c == '_' || c == ':' || c == '-'

/-- One directive about a part. A threshold for all parts is none. -/
def directive? (text : List Char) : Option (List Char × Threshold) :=
  let target := text.takeWhile (· != '=')
  if target.isEmpty || !target.all isTargetChar then none
  else match text.dropWhile (· != '=') with
    | [] => if (Threshold.ofName? target).isSome then none else some (target, .from .trace)
    | [_] => some (target, .from .trace)
    | _ :: level => (Threshold.ofName? level).map (target, ·)

/-- The filter with a threshold for all parts and the directives that a text lists. -/
def ofText (general : Threshold) (text : String) : LogFilter :=
  ⟨general, (pieces ',' text.toList).filterMap directive?⟩

/-- Takes the longer of two targets, and the later of two that are equal. -/
def prefer (best : Option (List Char × Threshold)) (directive : List Char × Threshold) :
    Option (List Char × Threshold) :=
  match best with
  | none => some directive
  | some other => if other.1.length ≤ directive.1.length then some directive else some other

def thresholdFor (filter : LogFilter) (target : String) : Threshold :=
  let about := filter.directives.filter (·.1.isPrefixOf target.toList)
  ((about.foldl prefer none).map (·.2)).getD filter.general

def shows (filter : LogFilter) (event : Event) : Bool :=
  (filter.thresholdFor event.origin.target).shows event.level

end LogFilter

end ScriptPlugins
