import Mathlib.Data.List.Chain
import ScriptPlugins.Proofs.Source.Naming
import ScriptPlugins.Proofs.Text.UpperCase

/-!
# Camel case is reached at once

Joining words takes away every hyphen that stands before a small letter of ASCII, and it leaves no
other in such a place: what comes to stand behind a hyphen that was kept is what stood there before,
or a capital. So the texts in camel case are those that joining leaves alone, and the result of joining
is one of them. A first character in upper case does not change that, whatever it expands to, because
no hyphen is added.
-/

namespace ScriptPlugins

open Text

theorem Text.isLower_of_isCapital {c : Char} (h : isCapital c = true) : c.isLower = false := by
  rw [Bool.eq_false_iff]
  intro hlower
  obtain ⟨hlow, hhigh⟩ := Bool.and_eq_true_iff.1 hlower
  have hlow := UInt32.le_iff_toNat_le.1 (of_decide_eq_true hlow)
  have hhigh := UInt32.le_iff_toNat_le.1 (of_decide_eq_true hhigh)
  have hascii : c.toNat < 0x80 := Nat.lt_of_le_of_lt hhigh (by decide)
  rw [isCapital, if_pos hascii] at h
  have hupper := UInt32.le_iff_toNat_le.1 (of_decide_eq_true h).2
  exact absurd (hlow.trans hupper) (by decide)

namespace Naming

variable {c d : Char} {text rest : List Char}

/-- No hyphen stands before a small letter of ASCII. -/
def IsCamel (text : List Char) : Prop :=
  text.IsChain fun c d => c = '-' → d.isLower = false

theorem isCamel_iff : IsCamel text ↔ ∀ d, ['-', d] <:+: text → d.isLower = false := by
  constructor
  · intro h d hpair
    have hchain := List.IsChain.infix h hpair
    exact List.isChain_pair.1 hchain rfl
  · intro h
    induction text with
    | nil => exact .nil
    | cons c rest ih =>
        refine (ih fun d hpair => h d (hpair.trans (List.suffix_cons c rest).isInfix)).cons ?_
        rintro d hhead rfl
        obtain ⟨more, rfl⟩ := List.head?_eq_some_iff.1 hhead
        exact h d (List.prefix_append ['-', d] more).isInfix

theorem isCamel_of_notMem (h : '-' ∉ text) : IsCamel text :=
  isCamel_iff.2 fun _ hpair => absurd (hpair.subset List.mem_cons_self) h

theorem not_isLower_toUpper (h : c.isLower = true) : c.toUpper.isLower = false :=
  isLower_of_isCapital (small_of_isLower h).isCapital

/-- A small letter at the start was there before the words were joined. -/
theorem head?_joinWords (hhead : (joinWords text).head? = some d) (hlower : d.isLower = true) :
    text.head? = some d := by
  fun_cases joinWords text with
  | case1 c rest hc =>
      rw [joinWords, if_pos hc] at hhead
      obtain rfl := Option.some.inj hhead
      rw [not_isLower_toUpper hc] at hlower
      cases hlower
  | case2 c rest hc =>
      rw [joinWords, if_neg hc] at hhead
      exact hhead
  | case3 c rest hother =>
      rw [joinWords.eq_2 c rest hother] at hhead
      exact hhead
  | case4 => exact hhead

theorem isCamel_joinWords (text : List Char) : IsCamel (joinWords text) := by
  fun_induction joinWords text with
  | case1 c rest hlower ih =>
      refine List.IsChain.cons ih ?_
      intro d _ hhyphen
      have hpart := (small_of_isLower hlower).isPart_toUpper
      rw [hhyphen] at hpart
      exact absurd hpart (by decide)
  | case2 c rest hlower ih =>
      refine List.IsChain.cons ih ?_
      rintro d hhead -
      rw [Bool.eq_false_iff]
      intro hd
      exact hlower (Option.some.inj (head?_joinWords hhead hd) ▸ hd)
  | case3 c rest hother ih =>
      refine List.IsChain.cons ih ?_
      rintro d hhead rfl
      -- a hyphen that is no part of a pair is the last character
      cases rest with
      | nil => cases hhead
      | cons e more => exact absurd rfl (hother e more rfl)
  | case4 => exact .nil

theorem joinWords_of_isCamel (h : IsCamel text) : joinWords text = text := by
  fun_induction joinWords text with
  | case1 c rest hlower ih =>
      rw [(List.isChain_cons_cons.1 h).1 rfl] at hlower
      cases hlower
  | case2 c rest hlower ih => rw [ih h.tail]
  | case3 c rest hother ih => rw [ih h.tail]
  | case4 => rfl

theorem joinWords_eq_self_iff : joinWords text = text ↔ IsCamel text := by
  constructor
  · intro h
    rw [← h]
    exact isCamel_joinWords text
  · exact joinWords_of_isCamel

theorem IsCamel.capitalize (h : IsCamel text) : IsCamel (capitalize text) := by
  cases text with
  | nil => exact .nil
  | cons c rest =>
      by_cases hhyphen : c = '-'
      · have hupper : upper '-' = ['-'] := by decide
        rw [capitalize_cons, hhyphen, hupper, List.singleton_append, ← hhyphen]
        exact h
      · have hnone : '-' ∉ upper c := fun hmem => hhyphen (eq_of_sign_mem_upper (by decide) hmem)
        rw [capitalize_cons, IsCamel, List.isChain_append]
        refine ⟨isCamel_of_notMem hnone, h.tail, ?_⟩
        rintro _ hlast d _ rfl
        exact absurd (List.mem_of_getLast? hlast) hnone

/-- **Names are converted once.** No hyphen before a small letter of ASCII is left in camel case, and
the names without one are those that are in camel case already. So the conversion to camel case can
be repeated without effect, and the one to Pascal case, too. -/
theorem case_conversions_idempotent (name : String) :
    (∀ d, ['-', d] <:+: (camelCase name).toList → d.isLower = false) ∧
      (camelCase name = name ↔ ∀ d, ['-', d] <:+: name.toList → d.isLower = false) ∧
      camelCase (camelCase name) = camelCase name ∧
      pascalCase (pascalCase name) = pascalCase name := by
  have hcamel := isCamel_joinWords name.toList
  refine ⟨?_, ?_, ?_, ?_⟩
  · rw [camelCase, String.toList_ofList]
    exact isCamel_iff.1 hcamel
  · rw [← isCamel_iff, ← joinWords_eq_self_iff, ← String.toList_inj, camelCase, String.toList_ofList]
  · rw [camelCase, camelCase, String.toList_ofList, joinWords_of_isCamel hcamel]
  · rw [pascalCase, pascalCase, String.toList_ofList, joinWords_of_isCamel hcamel.capitalize,
      capitalize_capitalize]

end Naming

end ScriptPlugins
