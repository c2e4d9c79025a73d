import Mathlib.Data.List.Lex
import Mathlib.Order.RelClasses
import ScriptPlugins.Files.Path

/-!
# The order of paths

Components come by what kind they are, and names among themselves by their bytes. This is a linear
order, and the order of paths is the one of words over it. It is not the order of texts: a slash is
a byte like others there, while here a directory comes before every name that its own name starts.
-/

namespace ScriptPlugins.Path

namespace Component

variable {c d e : Component}

/-- Two components of one kind are equal, or they are names. -/
theorem eq_or_names_of_rank_eq (h : c.rank = d.rank) :
    c = d ∨ ∃ first second, c = .name first ∧ d = .name second := by
  cases c <;> cases d <;> simp_all [rank]

theorem precedes_iff : c.precedes d = true ↔
    c.rank < d.rank ∨ ∃ first second, c = .name first ∧ d = .name second ∧ first < second := by
  cases c <;> cases d <;> simp [precedes, rank]

theorem precedes_irrefl (c : Component) : ¬ c.precedes c = true := by
  rw [precedes_iff]
  rintro (hrank | ⟨first, second, hfirst, hsecond, hlt⟩)
  · exact Nat.lt_irrefl _ hrank
  · obtain rfl : first = second := Component.name.inj (hfirst.symm.trans hsecond)
    exact List.lt_irrefl first hlt

theorem precedes_trans (h : c.precedes d = true) (h' : d.precedes e = true) :
    c.precedes e = true := by
  rw [precedes_iff] at h h' ⊢
  rcases h with hrank | ⟨first, second, rfl, rfl, hlt⟩
  · rcases h' with hrank' | ⟨_, _, rfl, rfl, -⟩
    · exact .inl (hrank.trans hrank')
    · exact .inl hrank
  · rcases h' with hrank' | ⟨_, third, heq, rfl, hlt'⟩
    · exact .inl hrank'
    · obtain rfl := Component.name.inj heq
      exact .inr ⟨first, third, rfl, rfl, List.lt_trans hlt hlt'⟩

theorem precedes_trichotomous (hcd : ¬ c.precedes d = true) (hdc : ¬ d.precedes c = true) :
    c = d := by
  rw [precedes_iff, not_or] at hcd hdc
  have hrank : c.rank = d.rank := Nat.le_antisymm (Nat.not_lt.1 hdc.1) (Nat.not_lt.1 hcd.1)
  rcases eq_or_names_of_rank_eq hrank with heq | ⟨first, second, rfl, rfl⟩
  · exact heq
  · have hfirst : second ≤ first := fun hlt => hcd.2 ⟨_, _, rfl, rfl, hlt⟩
    have hsecond : first ≤ second := fun hlt => hdc.2 ⟨_, _, rfl, rfl, hlt⟩
    rw [List.le_antisymm hsecond hfirst]

instance : IsStrictTotalOrder Component fun c d => c.precedes d = true where
  irrefl := precedes_irrefl
  trans _ _ _ := precedes_trans
  trichotomous _ _ := precedes_trichotomous

instance : LinearOrder Component :=
  linearOrderOfSTO fun c d => c.precedes d = true

end Component

theorem componentsLe_iff {first second : List Component} :
    componentsLe first second = true ↔ first ≤ second := by
  rw [← not_lt]
  induction first generalizing second with
  | nil => simp [componentsLe]
  | cons c rest ih =>
      cases second with
      | nil => simp [componentsLe]
      | cons d more =>
          have hprecedes : c.precedes d = true ↔ c < d := Iff.rfl
          rw [List.cons_lt_cons_iff, componentsLe, Bool.or_eq_true, Bool.and_eq_true, beq_iff_eq,
            hprecedes, ih]
          rcases lt_trichotomy c d with hlt | rfl | hlt
          · simp [hlt, hlt.not_gt, hlt.ne']
          · simp
          · simp [hlt, hlt.not_gt, hlt.ne']

theorem le_iff {path other : Path} : path.le other = true ↔ path.components ≤ other.components :=
  componentsLe_iff

-- as a text, the second one is the first: a hyphen is a smaller byte than a slash
example : (ofString "a/x").le (ofString "a-b") = true := by decide

theorem components_eq_of_le {path other : Path} (h : path.le other = true)
    (h' : other.le path = true) : path.components = other.components :=
  le_antisymm (le_iff.1 h) (le_iff.1 h')

end ScriptPlugins.Path
