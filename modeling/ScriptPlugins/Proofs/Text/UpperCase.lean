import ScriptPlugins.Proofs.Text.Capital

/-!
# Upper case is final

The first character of an upper-case form has no other upper-case form. So a text with its first
character in upper case stays as it is when that is done once more.

The tables list what changes. That the characters which a run leads to are not listed is checked run
against run: the two may interleave, as the capital and the small letters of many scripts do, but then
one has the even code points and the other one the odd.
-/

namespace ScriptPlugins.Text

open Capital

variable {c d : Char} {code : Nat} {rest text : List Char} {mapped other : MappedRun}

/-- Whether no character that a run leads to is in another run: the characters lie on one side of it,
or between its characters. -/
def apart (mapped other : MappedRun) : Bool :=
  (mapped.image mapped.run.last).blt other.run.first || other.run.last.blt mapped.target ||
    (mapped.run.first == mapped.run.last || mapped.run.step == 2) && other.run.step == 2 &&
      (mapped.target + other.run.first) % 2 == 1

theorem not_holds_image (hapart : apart mapped other = true) (hholds : mapped.run.holds code = true) :
    other.run.holds (mapped.image code) = false := by
  obtain ⟨hfirst, hlast, hstep⟩ := (Run.holds_iff _ _).1 hholds
  simp only [apart, MappedRun.image, Bool.or_eq_true, Bool.and_eq_true, Nat.blt_eq, beq_iff_eq] at hapart
  rw [Bool.eq_false_iff, Ne, Run.holds_iff, MappedRun.image]
  rintro ⟨hfirst', hlast', hstep'⟩
  rcases hapart with (hbefore | hbehind) | ⟨⟨hspacing, htwo⟩, hodd⟩
  · omega
  · omega
  · rw [htwo] at hstep'
    rcases hspacing with hsingle | hsame
    · omega
    · rw [hsame] at hstep
      omega

/-- The characters that a run leads to are characters, and the tables do not list them. A run that
leads to ASCII has one character only. -/
structure Final (mapped : MappedRun) : Prop where
  valid : mapped.image mapped.run.last < 0xD800 ∨
    0xDFFF < mapped.target ∧ mapped.image mapped.run.last < 0x110000
  ascii : mapped.target < 0x80 → mapped.run.last = mapped.run.first ∧
    upper (Char.ofNat mapped.target) = [Char.ofNat mapped.target]
  runs : 0x80 ≤ mapped.target → mappedRuns.all (apart mapped) = true
  expansions : 0x80 ≤ mapped.target → (expansions.all fun item =>
    item.1.blt mapped.target || (mapped.image mapped.run.last).blt item.1) = true

instance (mapped : MappedRun) : Decidable (Final mapped) :=
  decidable_of_iff
    ((mapped.image mapped.run.last < 0xD800 ∨
        0xDFFF < mapped.target ∧ mapped.image mapped.run.last < 0x110000) ∧
      (mapped.target < 0x80 → mapped.run.last = mapped.run.first ∧
        upper (Char.ofNat mapped.target) = [Char.ofNat mapped.target]) ∧
      (0x80 ≤ mapped.target → mappedRuns.all (apart mapped) = true) ∧
      (0x80 ≤ mapped.target → (Capital.expansions.all fun item =>
        item.1.blt mapped.target || (mapped.image mapped.run.last).blt item.1) = true))
    ⟨fun ⟨valid, ascii, runs, expansions⟩ => ⟨valid, ascii, runs, expansions⟩,
      fun h => ⟨h.valid, h.ascii, h.runs, h.expansions⟩⟩

theorem final_of_mem_mappedRuns : ∀ mapped ∈ mappedRuns, Final mapped := by
  decide +kernel

theorem upper_eq_self (hbeyond : 0x80 ≤ c.toNat) (hexpansions : ∀ item ∈ expansions, item.1 ≠ c.toNat)
    (hruns : ∀ mapped ∈ mappedRuns, mapped.run.holds c.toNat = false) : upper c = [c] := by
  have hlookup : expansions.lookup c.toNat = none := by
    rw [List.lookup_eq_none_iff]
    intro item hitem
    exact bne_iff_ne.2 (Ne.symm (hexpansions item hitem))
  have hfind : mappedRuns.find? (·.run.holds c.toNat) = none := by
    rw [List.find?_eq_none]
    intro mapped hmapped
    rw [hruns mapped hmapped]
    exact Bool.false_ne_true
  rw [upper, if_neg (Nat.not_lt.2 hbeyond), hlookup, hfind]

theorem upper_image (hmapped : mapped ∈ mappedRuns) (hholds : mapped.run.holds code = true) :
    upper (Char.ofNat (mapped.image code)) = [Char.ofNat (mapped.image code)] := by
  obtain ⟨hfirst, hlast, -⟩ := (Run.holds_iff _ _).1 hholds
  have hfinal := final_of_mem_mappedRuns mapped hmapped
  by_cases hascii : mapped.target < 0x80
  · obtain ⟨hsingle, hupper⟩ := hfinal.ascii hascii
    have himage : mapped.image code = mapped.target := by
      rw [MappedRun.image]
      omega
    rw [himage, hupper]
  · have hbeyond := Nat.not_lt.1 hascii
    have hle : mapped.image code ≤ mapped.image mapped.run.last := by
      rw [MappedRun.image, MappedRun.image]
      omega
    have hge : mapped.target ≤ mapped.image code := Nat.le_add_right _ _
    have hcode : (Char.ofNat (mapped.image code)).toNat = mapped.image code := by
      apply toNat_ofNat
      have hvalid := hfinal.valid
      unfold Nat.isValidChar
      omega
    refine upper_eq_self ?_ ?_ ?_
    · omega
    · intro item hitem heq
      have hout := List.all_eq_true.1 (hfinal.expansions hbeyond) item hitem
      rw [Bool.or_eq_true, Nat.blt_eq, Nat.blt_eq] at hout
      omega
    · intro other hother
      rw [hcode]
      exact not_holds_image (List.all_eq_true.1 (hfinal.runs hbeyond) other hother) hholds

/-- What an upper-case form starts with is in upper case. -/
theorem upper_of_upper_eq_cons (h : upper c = d :: rest) : upper d = [d] := by
  rcases upper_cases c with ⟨hascii, hupper⟩ | ⟨codes, hcodes, hupper⟩ |
    ⟨mapped, hmapped, hholds, hupper⟩ | hupper
  · obtain ⟨rfl, -⟩ := List.cons.inj (hupper.symm.trans h)
    have hfixed := (toUpper_of_ascii c.toNat (List.mem_range.2 hascii)).2.1
    rwa [Char.ofNat_toNat] at hfixed
  · obtain ⟨⟨code, hcode, -, hfixed⟩, -⟩ := of_mem_expansions _ hcodes
    obtain ⟨more, rfl⟩ := List.head?_eq_some_iff.1 hcode
    obtain ⟨rfl, -⟩ := List.cons.inj (hupper.symm.trans h)
    exact hfixed
  · obtain ⟨rfl, -⟩ := List.cons.inj (hupper.symm.trans h)
    exact upper_image hmapped hholds
  · obtain ⟨rfl, -⟩ := List.cons.inj (hupper.symm.trans h)
    exact hupper

theorem capitalize_capitalize (text : List Char) : capitalize (capitalize text) = capitalize text := by
  cases text with
  | nil => rfl
  | cons c rest =>
      obtain ⟨d, more, hupper⟩ := List.exists_cons_of_ne_nil (upper_ne_nil c)
      rw [capitalize_cons, hupper, List.cons_append, capitalize_cons, upper_of_upper_eq_cons hupper,
        List.singleton_append]

end ScriptPlugins.Text
