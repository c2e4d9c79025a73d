import ScriptPlugins.Text.Utf8

/-!
# ASCII in UTF-8

A byte below 0x80 stands for the ASCII character of that number and for nothing else: it is no part
of the encoding of any other character. So looking for a slash, or for the ends of a comment, among
bytes finds what looking for it among characters finds.
-/

namespace ScriptPlugins.Text.Utf8

theorem encodeChar_of_ascii {c : Char} (hc : c.toNat < 0x80) :
    String.utf8EncodeChar c = [UInt8.ofNat c.toNat] := by
  have hsize : c.utf8Size = 1 := by
    rw [Char.utf8Size_eq_one_iff, UInt32.le_iff_toNat_le]
    exact Nat.le_of_lt_succ hc
  rw [String.utf8EncodeChar_eq_singleton hsize, Char.toNat, UInt8.ofNat_uInt32ToNat]

theorem high_of_mem_encodeChar {c : Char} {b : UInt8} (hc : 0x80 ≤ c.toNat)
    (hb : b ∈ String.utf8EncodeChar c) : 0x80 ≤ b := by
  have hor : ∀ x y : UInt8, 0x80 ≤ y → 0x80 ≤ x ||| y := by
    intro x y hy
    rw [UInt8.le_iff_toNat_le] at hy ⊢
    rw [UInt8.toNat_or]
    exact Nat.le_trans hy Nat.right_le_or
  rcases c.utf8Size_eq with hsize | hsize | hsize | hsize
  · rw [Char.utf8Size_eq_one_iff, UInt32.le_iff_toNat_le] at hsize
    exact absurd hsize (Nat.not_le.2 hc)
  · rw [String.utf8EncodeChar_eq_cons_cons hsize] at hb
    simp only [List.mem_cons, List.not_mem_nil, or_false] at hb
    rcases hb with rfl | rfl <;> exact hor _ _ (by decide)
  · rw [String.utf8EncodeChar_eq_cons_cons_cons hsize] at hb
    simp only [List.mem_cons, List.not_mem_nil, or_false] at hb
    rcases hb with rfl | rfl | rfl <;> exact hor _ _ (by decide)
  · rw [String.utf8EncodeChar_eq_cons_cons_cons_cons hsize] at hb
    simp only [List.mem_cons, List.not_mem_nil, or_false] at hb
    rcases hb with rfl | rfl | rfl | rfl <;> exact hor _ _ (by decide)

theorem toNat_ofNat_of_ascii {n : Nat} (hn : n < 0x80) : (UInt8.ofNat n).toNat = n :=
  UInt8.toNat_ofNat_of_lt' (Nat.lt_trans hn (by decide))

/-- An ASCII byte is in the encoding of the character that it stands for, and of no other. -/
theorem mem_encodeChar_iff {c d : Char} (hc : c.toNat < 0x80) :
    UInt8.ofNat c.toNat ∈ String.utf8EncodeChar d ↔ c = d := by
  constructor
  · intro hmem
    by_cases hd : d.toNat < 0x80
    · rw [encodeChar_of_ascii hd, List.mem_singleton] at hmem
      have hnat := congrArg UInt8.toNat hmem
      rw [toNat_ofNat_of_ascii hc, toNat_ofNat_of_ascii hd] at hnat
      exact Char.toNat_inj.1 hnat
    · have hhigh := high_of_mem_encodeChar (Nat.le_of_not_lt hd) hmem
      rw [UInt8.le_iff_toNat_le, toNat_ofNat_of_ascii hc] at hhigh
      exact absurd hhigh (Nat.not_le.2 hc)
  · rintro rfl
    simp [encodeChar_of_ascii hc]

theorem mem_encode_iff {c : Char} {text : List Char} (hc : c.toNat < 0x80) :
    UInt8.ofNat c.toNat ∈ encode text ↔ c ∈ text := by
  simp only [encode, List.mem_flatMap, mem_encodeChar_iff hc, exists_eq_right']

@[simp]
theorem encode_cons (c : Char) (text : List Char) :
    encode (c :: text) = String.utf8EncodeChar c ++ encode text := by
  simp [encode]

theorem encode_injective {text other : List Char} (h : encode text = encode other) :
    text = other := by
  have hencode : text.utf8Encode = other.utf8Encode := by
    simpa only [List.utf8Encode, encode] using congrArg List.toByteArray h
  have hstring : String.ofList text = String.ofList other := String.toByteArray_inj.1 hencode
  simpa using congrArg String.toList hstring

theorem ofString_injective {text other : String} (h : ofString text = ofString other) :
    text = other :=
  String.toList_inj.1 (encode_injective h)

end ScriptPlugins.Text.Utf8
