/-!
# Ranges and runs of code points

Classes of characters are given by tables. A `Range` takes every code point between its ends; a
`Run` takes those at a fixed distance from its first, which is what alphabets need that list each
capital letter next to its small one.
-/

namespace ScriptPlugins.Text

structure Range where
  first : Nat
  last : Nat
  deriving Repr, DecidableEq

def Range.holds (range : Range) (code : Nat) : Bool :=
  decide (range.first ≤ code) && decide (code ≤ range.last)

structure Run where
  first : Nat
  last : Nat
  step : Nat
  deriving Repr, DecidableEq

def Run.holds (run : Run) (code : Nat) : Bool :=
  decide (run.first ≤ code) && decide (code ≤ run.last) && (code - run.first) % run.step == 0

/-- A run whose characters are replaced by others at the same distances, from `target` on. -/
structure MappedRun where
  run : Run
  target : Nat
  deriving Repr, DecidableEq

def MappedRun.image (mapped : MappedRun) (code : Nat) : Nat :=
  mapped.target + (code - mapped.run.first)

theorem Range.holds_iff (range : Range) (code : Nat) :
    range.holds code = true ↔ range.first ≤ code ∧ code ≤ range.last := by
  simp [Range.holds]

theorem Run.holds_iff (run : Run) (code : Nat) : run.holds code = true ↔
    run.first ≤ code ∧ code ≤ run.last ∧ (code - run.first) % run.step = 0 := by
  simp [Run.holds, and_assoc]

end ScriptPlugins.Text
