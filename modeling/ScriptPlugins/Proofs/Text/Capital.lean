import ScriptPlugins.Source.Identifier

/-!
# Identifiers in upper case

The upper-case form of a letter starts with a letter, but not all of it need be letters. Where Unicode
has no capital for a letter with a mark, the form is the capital without the mark, followed by the mark
as a character of its own; and most marks are neither letters nor numerals. `isMarked` tells these
letters, and the form of every other character that can come first in an identifier is made of parts
of identifiers.

That a character is in the image of a run is checked against the table of letters once for each run,
because the letters that a run leads to stand next to each other.
-/

namespace ScriptPlugins.Text

open Capital Letter Identifier

/-- The letters with a mark that their upper-case form has as a character of its own. -/
def markedCodes : List Nat :=
  [0x1F0, 0x390, 0x3B0, 0x1E96, 0x1E97, 0x1E98, 0x1E99, 0x1F50, 0x1F52, 0x1F54, 0x1F56, 0x1FB6, 0x1FB7,
   0x1FC6, 0x1FC7, 0x1FD2, 0x1FD3, 0x1FD6, 0x1FD7, 0x1FE2, 0x1FE3, 0x1FE4, 0x1FE6, 0x1FE7, 0x1FF6, 0x1FF7]

def isMarked (c : Char) : Bool :=
  markedCodes.contains c.toNat

variable {c d : Char} {code : Nat} {codes : List Nat} {mapped : MappedRun} {range : Range}

theorem isValidChar_of_mem_letterRanges : ∀ range ∈ letterRanges,
    0x80 ≤ range.first ∧ (range.last < 0xD800 ∨ 0xDFFF < range.first ∧ range.last < 0x110000) := by
  decide +kernel

theorem toNat_ofNat (h : code.isValidChar) : (Char.ofNat code).toNat = code := by
  rw [Char.ofNat, dif_pos h]
  rfl

theorem isLetter_ofNat (hrange : range ∈ letterRanges) (hfirst : range.first ≤ code)
    (hlast : code ≤ range.last) : isLetter (Char.ofNat code) = true := by
  obtain ⟨hbeyond, hvalid⟩ := isValidChar_of_mem_letterRanges range hrange
  have hcode : (Char.ofNat code).toNat = code := by
    apply toNat_ofNat
    unfold Nat.isValidChar
    omega
  rw [isLetter, hcode, if_neg (by omega), List.any_eq_true]
  exact ⟨range, hrange, (range.holds_iff code).2 ⟨hfirst, hlast⟩⟩

/-- Whether a range takes all that a run is mapped to. -/
def takes (mapped : MappedRun) (range : Range) : Bool :=
  range.first.ble mapped.target && (mapped.image mapped.run.last).ble range.last

/-- The first characters of the runs that do not lead into one range: two lead to ASCII, and the third
to every second character. -/
def strayRuns : List Nat :=
  [0x131, 0x17F, 0x1F51]

theorem takes_of_mem_mappedRuns : (mappedRuns.all fun mapped =>
    strayRuns.contains mapped.run.first || letterRanges.any (takes mapped)) = true := by
  decide +kernel

theorem isLetter_of_mem_strayRuns : ∀ mapped ∈ mappedRuns, mapped.run.first ∈ strayRuns →
    ∀ index ∈ List.range (mapped.run.last - mapped.run.first + 1), index % mapped.run.step = 0 →
      isLetter (Char.ofNat (mapped.target + index)) = true := by
  decide +kernel

theorem isLetter_image (hmapped : mapped ∈ mappedRuns) (hholds : mapped.run.holds code = true) :
    isLetter (Char.ofNat (mapped.image code)) = true := by
  obtain ⟨hfirst, hlast, hstep⟩ := (Run.holds_iff _ _).1 hholds
  have htakes := List.all_eq_true.1 takes_of_mem_mappedRuns mapped hmapped
  rw [Bool.or_eq_true, List.contains_iff_mem] at htakes
  rcases htakes with hstray | htakes
  · refine isLetter_of_mem_strayRuns mapped hmapped hstray (code - mapped.run.first) ?_ hstep
    rw [List.mem_range]
    omega
  · obtain ⟨range, hrange, htakes⟩ := List.any_eq_true.1 htakes
    simp only [takes, MappedRun.image, Bool.and_eq_true, Nat.ble_eq] at htakes
    apply isLetter_ofNat hrange
    · rw [MappedRun.image]
      omega
    · rw [MappedRun.image]
      omega

/-- Where the upper-case form of a character comes from. -/
theorem upper_cases (c : Char) :
    (c.toNat < 0x80 ∧ upper c = [c.toUpper]) ∨
      (∃ codes, (c.toNat, codes) ∈ expansions ∧ upper c = codes.map Char.ofNat) ∨
      (∃ mapped ∈ mappedRuns, mapped.run.holds c.toNat = true ∧
        upper c = [Char.ofNat (mapped.image c.toNat)]) ∨
      upper c = [c] := by
  rw [upper]
  by_cases hascii : c.toNat < 0x80
  · exact .inl ⟨hascii, if_pos hascii⟩
  · rw [if_neg hascii]
    refine .inr ?_
    cases hlookup : expansions.lookup c.toNat with
    | some codes =>
        obtain ⟨front, back, hsplit, -⟩ := List.lookup_eq_some_iff.1 hlookup
        refine .inl ⟨codes, ?_, rfl⟩
        rw [hsplit]
        exact List.mem_append_right front List.mem_cons_self
    | none =>
        refine .inr ?_
        cases hfind : mappedRuns.find? (·.run.holds c.toNat) with
        | some mapped =>
            exact .inl ⟨mapped, List.mem_of_find?_eq_some hfind,
              by simpa using List.find?_some hfind, rfl⟩
        | none => exact .inr rfl

/-- Characters that no upper-case form brings in. -/
def signs : List Char :=
  ['-', '.', '\n']

theorem isPart_of_mem_signs (h : c ∈ signs) : isPart c = false := by
  simp only [signs, List.mem_cons, List.not_mem_nil, or_false] at h
  rcases h with rfl | rfl | rfl <;> decide

/-- A character of ASCII goes to one that can come first in an identifier if it can itself, that has
no other upper-case form, and that is no sign unless it is one itself. -/
theorem toUpper_of_ascii : ∀ code ∈ List.range 0x80,
    (isStart (Char.ofNat code) = true → isStart (Char.ofNat code).toUpper = true) ∧
      upper (Char.ofNat code).toUpper = [(Char.ofNat code).toUpper] ∧
      ((Char.ofNat code).toUpper ∈ signs → Char.ofNat code = (Char.ofNat code).toUpper) := by
  decide +kernel

/-- An expansion starts with a character that can come first in an identifier and that has no other
upper-case form. It goes on with parts of identifiers, unless it comes from a letter with a mark, and
has no sign in it. -/
theorem of_mem_expansions : ∀ item ∈ expansions,
    (∃ code ∈ item.2.head?, isStart (Char.ofNat code) = true ∧
      upper (Char.ofNat code) = [Char.ofNat code]) ∧
      (item.1 ∈ markedCodes ∨ ∀ code ∈ item.2, isPart (Char.ofNat code) = true) ∧
      ∀ code ∈ item.2, Char.ofNat code ∉ signs := by
  decide +kernel

theorem upper_ne_nil (c : Char) : upper c ≠ [] := by
  rcases upper_cases c with ⟨-, h⟩ | ⟨codes, hcodes, h⟩ | ⟨mapped, -, -, h⟩ | h
  · simp [h]
  · obtain ⟨⟨code, hcode, -⟩, -⟩ := of_mem_expansions _ hcodes
    rw [h]
    intro hnil
    rw [List.map_eq_nil_iff.1 hnil] at hcode
    cases hcode
  · simp [h]
  · simp [h]

/-- What can come first in an identifier still can in upper case. -/
theorem exists_upper (h : isStart c = true) : ∃ d rest, upper c = d :: rest ∧ isStart d = true := by
  rcases upper_cases c with ⟨hascii, hupper⟩ | ⟨codes, hcodes, hupper⟩ |
    ⟨mapped, hmapped, hholds, hupper⟩ | hupper
  · refine ⟨_, _, hupper, ?_⟩
    have hstart := (toUpper_of_ascii c.toNat (List.mem_range.2 hascii)).1
    rw [Char.ofNat_toNat] at hstart
    exact hstart h
  · obtain ⟨⟨code, hcode, hstart, -⟩, -⟩ := of_mem_expansions _ hcodes
    obtain ⟨rest, rfl⟩ := List.head?_eq_some_iff.1 hcode
    exact ⟨_, _, hupper, hstart⟩
  · refine ⟨_, _, hupper, ?_⟩
    rw [isStart, isLetter_image hmapped hholds, Bool.true_or]
  · exact ⟨_, _, hupper, h⟩

theorem mark_of_mem_markedCodes : ∀ code ∈ markedCodes,
    isStart (Char.ofNat code) = true ∧ (upper (Char.ofNat code)).all isPart = false := by
  decide +kernel

theorem isStart_of_isMarked (h : isMarked c = true) : isStart c = true := by
  have hmark := mark_of_mem_markedCodes c.toNat (List.contains_iff_mem.1 h)
  rw [Char.ofNat_toNat] at hmark
  exact hmark.1

/-- The upper-case form of what can come first in an identifier is part of one, unless there is a mark
in it. -/
theorem all_isPart_upper_iff (h : isStart c = true) :
    (upper c).all isPart = true ↔ isMarked c = false := by
  constructor
  · intro hall
    rw [Bool.eq_false_iff]
    intro hmarked
    have hmark := mark_of_mem_markedCodes c.toNat (List.contains_iff_mem.1 hmarked)
    rw [Char.ofNat_toNat, hall] at hmark
    cases hmark.2
  · intro hmarked
    have hfirst := exists_upper h
    rcases upper_cases c with ⟨-, hupper⟩ | ⟨codes, hcodes, hupper⟩ |
      ⟨mapped, hmapped, hholds, hupper⟩ | hupper
    · obtain ⟨d, rest, hcons, hd⟩ := hfirst
      rw [hupper] at hcons
      obtain ⟨rfl, -⟩ := List.cons.inj hcons
      rw [hupper, List.all_cons, isPart_of_isStart hd, List.all_nil, Bool.true_and]
    · rcases (of_mem_expansions _ hcodes).2.1 with hmem | hparts
      · rw [isMarked, List.contains_iff_mem.2 hmem] at hmarked
        cases hmarked
      · rw [hupper, List.all_map, List.all_eq_true]
        exact hparts
    · rw [hupper, List.all_cons, isPart, isLetter_image hmapped hholds]
      rfl
    · rw [hupper, List.all_cons, isPart_of_isStart h]
      rfl

theorem eq_of_sign_mem_upper (hsign : d ∈ signs) (h : d ∈ upper c) : c = d := by
  rcases upper_cases c with ⟨hascii, hupper⟩ | ⟨codes, hcodes, hupper⟩ |
    ⟨mapped, hmapped, hholds, hupper⟩ | hupper
  · rw [hupper, List.mem_singleton] at h
    have hsame := (toUpper_of_ascii c.toNat (List.mem_range.2 hascii)).2.2
    rw [Char.ofNat_toNat, ← h] at hsame
    exact hsame hsign
  · rw [hupper, List.mem_map] at h
    obtain ⟨code, hcode, rfl⟩ := h
    exact absurd hsign ((of_mem_expansions _ hcodes).2.2 code hcode)
  · rw [hupper, List.mem_singleton] at h
    have hpart := isPart_of_mem_signs hsign
    rw [isPart, h, isLetter_image hmapped hholds] at hpart
    cases hpart
  · rw [hupper, List.mem_singleton] at h
    exact h.symm

/-- The underscore counts as a part of identifiers, so it is no sign. -/
theorem underscore_of_ascii :
    ∀ code ∈ List.range 0x80, (Char.ofNat code).toUpper = '_' → Char.ofNat code = '_' := by
  decide +kernel

theorem underscore_notMem_expansions :
    ∀ item ∈ expansions, ∀ code ∈ item.2, Char.ofNat code ≠ '_' := by
  decide +kernel

theorem eq_of_underscore_mem_upper (h : '_' ∈ upper c) : c = '_' := by
  rcases upper_cases c with ⟨hascii, hupper⟩ | ⟨codes, hcodes, hupper⟩ |
    ⟨mapped, hmapped, hholds, hupper⟩ | hupper
  · rw [hupper, List.mem_singleton] at h
    have hsame := underscore_of_ascii c.toNat (List.mem_range.2 hascii)
    rw [Char.ofNat_toNat] at hsame
    exact hsame h.symm
  · rw [hupper, List.mem_map] at h
    obtain ⟨code, hcode, hunderscore⟩ := h
    exact absurd hunderscore (underscore_notMem_expansions _ hcodes code hcode)
  · rw [hupper, List.mem_singleton] at h
    have hletter := isLetter_image hmapped hholds
    rw [← h] at hletter
    exact absurd hletter (by decide)
  · rw [hupper, List.mem_singleton] at h
    exact h.symm

end ScriptPlugins.Text
