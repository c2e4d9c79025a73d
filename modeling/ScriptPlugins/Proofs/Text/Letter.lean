import ScriptPlugins.Source.Identifier

/-!
# Blanks are no parts of identifiers

The blanks are few, so that none of them is a letter or a numeral is read off the tables one by one.
-/

namespace ScriptPlugins.Text

/-- The code points of the blanks. -/
def blankCodes : List Nat :=
  List.range' 0x9 5 ++ [0x20, 0x85, 0xA0, 0x1680] ++ List.range' 0x2000 11 ++
    [0x2028, 0x2029, 0x202F, 0x205F, 0x3000]

theorem mem_blankCodes_of_isBlank {c : Char} (h : isBlank c = true) : c.toNat ∈ blankCodes := by
  simp only [isBlank, Bool.or_eq_true, Bool.and_eq_true, decide_eq_true_eq, beq_iff_eq] at h
  simp only [blankCodes, List.mem_append, List.mem_range'_1, List.mem_cons, List.not_mem_nil,
    or_false]
  omega

theorem not_isPart_of_mem_blankCodes :
    ∀ code ∈ blankCodes, Identifier.isPart (Char.ofNat code) = false := by
  decide +kernel

theorem not_isPart_of_isBlank {c : Char} (h : isBlank c = true) : Identifier.isPart c = false := by
  have hpart := not_isPart_of_mem_blankCodes c.toNat (mem_blankCodes_of_isBlank h)
  rwa [Char.ofNat_toNat] at hpart

theorem not_isBlank_of_isStart {c : Char} (h : Identifier.isStart c = true) : isBlank c = false := by
  rw [Bool.eq_false_iff]
  intro hblank
  have hpart := Identifier.isPart_of_isStart h
  rw [not_isPart_of_isBlank hblank] at hpart
  exact Bool.noConfusion hpart

end ScriptPlugins.Text
