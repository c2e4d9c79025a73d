import ScriptPlugins.Proofs.Text.Utf8

/-!
# Reading UTF-8 back

What the encoding of a text is read as is that text. A character is told from its bytes alone: the
first says how many there are, each of the others holds six bits, and the bounds on the second one
leave out only forms that no encoding has.
-/

namespace ScriptPlugins.Text.Utf8

variable {a b c d low high : UInt8} {rest : Bytes} {char : Char}

theorem between_iff : (decide (low ≤ b) && decide (b ≤ high)) = true ↔
    low.toNat ≤ b.toNat ∧ b.toNat ≤ high.toNat := by
  rw [Bool.and_eq_true, decide_eq_true_iff, decide_eq_true_iff, UInt8.le_iff_toNat_le,
    UInt8.le_iff_toNat_le]

theorem isContinuation_iff : isContinuation b = true ↔ 128 ≤ b.toNat ∧ b.toNat ≤ 191 :=
  between_iff

theorem not_lt_ascii (h : 128 ≤ a.toNat) : ¬ a < 0x80 := by
  rw [UInt8.lt_iff_toNat_lt]
  exact Nat.not_lt.2 h

theorem next_one (h : a.toNat < 128) : next a rest = (some (Char.ofNat a.toNat), rest) := by
  have hascii : a < 0x80 := UInt8.lt_iff_toNat_lt.2 h
  simp only [next, if_pos hascii]

theorem next_two (h : 194 ≤ a.toNat ∧ a.toNat ≤ 223) (hb : isContinuation b = true) :
    next a (b :: rest) = (some (Char.ofNat (a.toNat % 32 * 64 + b.toNat % 64)), rest) := by
  have htwo : (decide (0xC2 ≤ a) && decide (a ≤ 0xDF)) = true := between_iff.2 h
  simp only [next, if_neg (not_lt_ascii (a := a) (by omega)), if_pos htwo, if_pos hb, Utf8.low]

theorem next_three (h : 224 ≤ a.toNat ∧ a.toNat ≤ 239) (hb : isSecond a b = true)
    (hc : isContinuation c = true) : next a (b :: c :: rest) =
      (some (Char.ofNat ((a.toNat % 16 * 64 + b.toNat % 64) * 64 + c.toNat % 64)), rest) := by
  have htwo : ¬ (decide (0xC2 ≤ a) && decide (a ≤ 0xDF)) = true := by
    rw [between_iff]
    exact fun htwo => Nat.not_le.2 (Nat.lt_of_lt_of_le (by decide) h.1) htwo.2
  have hthree : (decide (0xE0 ≤ a) && decide (a ≤ 0xEF)) = true := between_iff.2 h
  simp only [next, if_neg (not_lt_ascii (a := a) (by omega)), if_neg htwo, if_pos hthree,
    if_pos hb, if_pos hc, Utf8.low]

theorem next_four (h : 240 ≤ a.toNat ∧ a.toNat ≤ 244) (hb : isSecond a b = true)
    (hc : isContinuation c = true) (hd : isContinuation d = true) :
    next a (b :: c :: d :: rest) = (some (Char.ofNat
      (((a.toNat % 8 * 64 + b.toNat % 64) * 64 + c.toNat % 64) * 64 + d.toNat % 64)), rest) := by
  have htwo : ¬ (decide (0xC2 ≤ a) && decide (a ≤ 0xDF)) = true := by
    rw [between_iff]
    exact fun htwo => Nat.not_le.2 (Nat.lt_of_lt_of_le (by decide) h.1) htwo.2
  have hthree : ¬ (decide (0xE0 ≤ a) && decide (a ≤ 0xEF)) = true := by
    rw [between_iff]
    exact fun hthree => Nat.not_le.2 (Nat.lt_of_lt_of_le (by decide) h.1) hthree.2
  have hfour : (decide (0xF0 ≤ a) && decide (a ≤ 0xF4)) = true := between_iff.2 h
  simp only [next, if_neg (not_lt_ascii (a := a) (by omega)), if_neg htwo, if_neg hthree,
    if_pos hfour, if_pos hb, if_pos hc, if_pos hd, Utf8.low]

/-- What a second byte of three or four must not be, all in one. -/
theorem isSecond_of (hb : isContinuation b = true) (h3 : a.toNat = 224 → 160 ≤ b.toNat)
    (hsurrogate : a.toNat = 237 → b.toNat ≤ 159) (h4 : a.toNat = 240 → 144 ≤ b.toNat)
    (hlast : a.toNat = 244 → b.toNat ≤ 143) : isSecond a b = true := by
  have hbounds := isContinuation_iff.1 hb
  rw [isSecond]
  by_cases he0 : a = 0xE0
  · rw [if_pos he0]
    exact between_iff.2 ⟨h3 (congrArg UInt8.toNat he0), hbounds.2⟩
  by_cases hed : a = 0xED
  · rw [if_neg he0, if_pos hed]
    exact between_iff.2 ⟨hbounds.1, hsurrogate (congrArg UInt8.toNat hed)⟩
  by_cases hf0 : a = 0xF0
  · rw [if_neg he0, if_neg hed, if_pos hf0]
    exact between_iff.2 ⟨h4 (congrArg UInt8.toNat hf0), hbounds.2⟩
  by_cases hf4 : a = 0xF4
  · rw [if_neg he0, if_neg hed, if_neg hf0, if_pos hf4]
    exact between_iff.2 ⟨hbounds.1, hlast (congrArg UInt8.toNat hf4)⟩
  · rw [if_neg he0, if_neg hed, if_neg hf0, if_neg hf4]
    exact hb

/-- The marks that tell the bytes of a character apart are added to the bits that the bytes hold. -/
theorem toNat_marked (x : UInt8) :
    (x &&& 63 ||| 128).toNat = x.toNat % 64 + 128 ∧ (x &&& 31 ||| 192).toNat = x.toNat % 32 + 192 ∧
      (x &&& 15 ||| 224).toNat = x.toNat % 16 + 224 ∧ (x &&& 7 ||| 240).toNat = x.toNat % 8 + 240 := by
  have hall : ∀ n < 256, (UInt8.ofNat n &&& 63 ||| 128).toNat = n % 64 + 128 ∧
      (UInt8.ofNat n &&& 31 ||| 192).toNat = n % 32 + 192 ∧
      (UInt8.ofNat n &&& 15 ||| 224).toNat = n % 16 + 224 ∧
      (UInt8.ofNat n &&& 7 ||| 240).toNat = n % 8 + 240 := by
    decide +kernel
  have hx := hall x.toNat x.toNat_lt
  rwa [UInt8.ofNat_toNat] at hx

theorem toNat_shifted (value : UInt32) (count : Nat) (hcount : count < 32) :
    (value >>> UInt32.ofNat count).toUInt8.toNat = (value.toNat >>> count) % 256 := by
  have hlt : count < UInt32.size := Nat.lt_trans hcount (by decide)
  rw [UInt32.toNat_toUInt8, UInt32.toNat_shiftRight, UInt32.toNat_ofNat_of_lt' hlt,
    Nat.mod_eq_of_lt hcount]

theorem toNat_bits (char : Char) : char.val.toUInt8.toNat = char.toNat % 256 ∧
    (char.val >>> 6).toUInt8.toNat = char.toNat / 64 % 256 ∧
    (char.val >>> 12).toUInt8.toNat = char.toNat / 4096 % 256 ∧
    (char.val >>> 18).toUInt8.toNat = char.toNat / 262144 % 256 := by
  have hshift (count : Nat) (hcount : count < 32) := toNat_shifted char.val count hcount
  simp only [Nat.shiftRight_eq_div_pow] at hshift
  exact ⟨UInt32.toNat_toUInt8 _, hshift 6 (by decide), hshift 12 (by decide),
    hshift 18 (by decide)⟩

theorem next_encodeChar_two (hlow : 128 ≤ char.toNat) (hhigh : char.toNat ≤ 2047) :
    next ((char.val >>> 6).toUInt8 &&& 31 ||| 192) ((char.val.toUInt8 &&& 63 ||| 128) :: rest) =
      (some char, rest) := by
  have hfirst := (toNat_marked (char.val >>> 6).toUInt8).2.1
  have hlast := (toNat_marked char.val.toUInt8).1
  obtain ⟨hbits, hbits6, -, -⟩ := toNat_bits char
  rw [hbits6] at hfirst
  rw [hbits] at hlast
  rw [next_two (by omega) (isContinuation_iff.2 (by omega)), hfirst, hlast]
  have hvalue : (char.toNat / 64 % 256 % 32 + 192) % 32 * 64 + (char.toNat % 256 % 64 + 128) % 64 =
      char.toNat := by omega
  rw [hvalue, Char.ofNat_toNat]

theorem next_encodeChar_three (hlow : 2048 ≤ char.toNat) (hhigh : char.toNat ≤ 65535) :
    next ((char.val >>> 12).toUInt8 &&& 15 ||| 224) (((char.val >>> 6).toUInt8 &&& 63 ||| 128) ::
      (char.val.toUInt8 &&& 63 ||| 128) :: rest) = (some char, rest) := by
  have hfirst := (toNat_marked (char.val >>> 12).toUInt8).2.2.1
  have hsecond := (toNat_marked (char.val >>> 6).toUInt8).1
  have hlast := (toNat_marked char.val.toUInt8).1
  obtain ⟨hbits, hbits6, hbits12, -⟩ := toNat_bits char
  rw [hbits12] at hfirst
  rw [hbits6] at hsecond
  rw [hbits] at hlast
  -- surrogates are no characters
  have hvalid : char.toNat < 55296 ∨ 57343 < char.toNat ∧ char.toNat < 1114112 := char.valid
  have hcontinues : isContinuation ((char.val >>> 6).toUInt8 &&& 63 ||| 128) = true :=
    isContinuation_iff.2 (by omega)
  rw [next_three (by omega) (isSecond_of hcontinues (by omega) (by omega) (by omega) (by omega))
    (isContinuation_iff.2 (by omega)), hfirst, hsecond, hlast]
  have hvalue : ((char.toNat / 4096 % 256 % 16 + 224) % 16 * 64 +
      (char.toNat / 64 % 256 % 64 + 128) % 64) * 64 + (char.toNat % 256 % 64 + 128) % 64 =
      char.toNat := by omega
  rw [hvalue, Char.ofNat_toNat]

theorem next_encodeChar_four (hlow : 65536 ≤ char.toNat) :
    next ((char.val >>> 18).toUInt8 &&& 7 ||| 240) (((char.val >>> 12).toUInt8 &&& 63 ||| 128) ::
      ((char.val >>> 6).toUInt8 &&& 63 ||| 128) :: (char.val.toUInt8 &&& 63 ||| 128) :: rest) =
      (some char, rest) := by
  have hfirst := (toNat_marked (char.val >>> 18).toUInt8).2.2.2
  have hsecond := (toNat_marked (char.val >>> 12).toUInt8).1
  have hthird := (toNat_marked (char.val >>> 6).toUInt8).1
  have hlast := (toNat_marked char.val.toUInt8).1
  obtain ⟨hbits, hbits6, hbits12, hbits18⟩ := toNat_bits char
  rw [hbits18] at hfirst
  rw [hbits12] at hsecond
  rw [hbits6] at hthird
  rw [hbits] at hlast
  have hvalid : char.toNat < 55296 ∨ 57343 < char.toNat ∧ char.toNat < 1114112 := char.valid
  have hcontinues : isContinuation ((char.val >>> 12).toUInt8 &&& 63 ||| 128) = true :=
    isContinuation_iff.2 (by omega)
  rw [next_four (by omega) (isSecond_of hcontinues (by omega) (by omega) (by omega) (by omega))
    (isContinuation_iff.2 (by omega)) (isContinuation_iff.2 (by omega)), hfirst, hsecond, hthird,
    hlast]
  have hvalue : (((char.toNat / 262144 % 256 % 8 + 240) % 8 * 64 +
      (char.toNat / 4096 % 256 % 64 + 128) % 64) * 64 +
      (char.toNat / 64 % 256 % 64 + 128) % 64) * 64 + (char.toNat % 256 % 64 + 128) % 64 =
      char.toNat := by omega
  rw [hvalue, Char.ofNat_toNat]

theorem next_encodeChar (char : Char) (rest : Bytes) : ∃ first others,
    String.utf8EncodeChar char = first :: others ∧
      next first (others ++ rest) = (some char, rest) := by
  rcases char.utf8Size_eq with hsize | hsize | hsize | hsize
  · rw [Char.utf8Size_eq_one_iff, UInt32.le_iff_toNat_le] at hsize
    have hascii : char.toNat < 128 := Nat.lt_succ_of_le hsize
    refine ⟨_, [], encodeChar_of_ascii hascii, ?_⟩
    rw [next_one (by rwa [toNat_ofNat_of_ascii hascii]), toNat_ofNat_of_ascii hascii,
      Char.ofNat_toNat]
    rfl
  · refine ⟨_, _, String.utf8EncodeChar_eq_cons_cons hsize, ?_⟩
    rw [Char.utf8Size_eq_two_iff, UInt32.lt_iff_toNat_lt, UInt32.le_iff_toNat_le] at hsize
    exact next_encodeChar_two hsize.1 hsize.2
  · refine ⟨_, _, String.utf8EncodeChar_eq_cons_cons_cons hsize, ?_⟩
    rw [Char.utf8Size_eq_three_iff, UInt32.lt_iff_toNat_lt, UInt32.le_iff_toNat_le] at hsize
    exact next_encodeChar_three hsize.1 hsize.2
  · refine ⟨_, _, String.utf8EncodeChar_eq_cons_cons_cons_cons hsize, ?_⟩
    rw [Char.utf8Size_eq_four_iff, UInt32.lt_iff_toNat_lt] at hsize
    exact next_encodeChar_four hsize

theorem decode_cons (a : UInt8) (rest : Bytes) :
    decode (a :: rest) = (next a rest).1 :: decode (next a rest).2 := by
  rw [decode]

theorem decode_encode (text : List Char) : decode (encode text) = text.map some := by
  induction text with
  | nil => rw [encode_nil, decode, List.map_nil]
  | cons char rest ih =>
      obtain ⟨first, others, hencode, hnext⟩ := next_encodeChar char (encode rest)
      rw [encode_cons, hencode, List.cons_append, decode_cons, hnext, ih, List.map_cons]

theorem display_ofString (text : String) : display (ofString text) = text := by
  rw [display, ofString, decode_encode, List.map_map]
  have hself : (fun char : Option Char => char.getD '\ufffd') ∘ some = id := rfl
  rw [hself, List.map_id, String.ofList_toList]

end ScriptPlugins.Text.Utf8
