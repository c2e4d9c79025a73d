import ScriptPlugins.Proofs.Source.Lexing
import ScriptPlugins.Proofs.Text.Utf8

/-!
# The lexer by bytes

`Token.cut` splits a list of characters, so it cannot cut a character in two. A scanner that works on
bytes can: it finds out how many bytes the next token has and takes that many. The scanner below
does so, each branch by its own arithmetic, and has no answer where a slice would begin or end inside
a character, or where the depth of a comment would drop below zero. `next?_eq` says that it always has
an answer, and that it draws what the lexer draws.

Comments are the one branch that looks at single bytes. A byte of a longer character is never that of
a slash or a star, so the scan passes such characters byte by byte.
-/

namespace ScriptPlugins.ByteScan

open Text Lexer

/-- A text from a byte on; there is none if the byte is inside a character or past the end. -/
def sliceFrom? : Nat → List Char → Option (List Char)
  | 0, text => some text
  | _ + 1, [] => none
  | count + 1, c :: rest =>
    if c.utf8Size ≤ count + 1 then sliceFrom? (count + 1 - c.utf8Size) rest else none

/-- A text up to a byte; there is none if the byte is inside a character or past the end. -/
def sliceTo? : Nat → List Char → Option (List Char)
  | 0, _ => some []
  | _ + 1, [] => none
  | count + 1, c :: rest =>
    if c.utf8Size ≤ count + 1 then (sliceTo? (count + 1 - c.utf8Size) rest).map (c :: ·) else none

theorem sliceFrom?_append (text more : List Char) :
    sliceFrom? (byteLength text) (text ++ more) = some more := by
  induction text with
  | nil => simp [byteLength, sliceFrom?]
  | cons c text ih =>
      have hpos := c.utf8Size_pos
      obtain ⟨count, hcount⟩ : ∃ count, byteLength (c :: text) = count + 1 :=
        ⟨byteLength (c :: text) - 1, by simp only [byteLength]; omega⟩
      have hrest : count + 1 - c.utf8Size = byteLength text := by
        simp only [byteLength] at hcount
        omega
      rw [hcount, List.cons_append, sliceFrom?, if_pos (by simp only [byteLength] at hcount; omega),
        hrest, ih]

theorem sliceTo?_append (text more : List Char) :
    sliceTo? (byteLength text) (text ++ more) = some text := by
  induction text with
  | nil => simp [byteLength, sliceTo?]
  | cons c text ih =>
      have hpos := c.utf8Size_pos
      obtain ⟨count, hcount⟩ : ∃ count, byteLength (c :: text) = count + 1 :=
        ⟨byteLength (c :: text) - 1, by simp only [byteLength]; omega⟩
      have hrest : count + 1 - c.utf8Size = byteLength text := by
        simp only [byteLength] at hcount
        omega
      rw [hcount, List.cons_append, sliceTo?, if_pos (by simp only [byteLength] at hcount; omega),
        hrest, ih, Option.map_some]

/-- The byte at which the first character of a kind starts. -/
def indexOf? (p : Char → Bool) : List Char → Option Nat
  | [] => none
  | c :: rest => if p c then some 0 else (indexOf? p rest).map (c.utf8Size + ·)

/-- The length of the characters of a kind at the start of a text. -/
def prefixLength (p : Char → Bool) (text : List Char) : Nat :=
  (indexOf? (!p ·) text).getD (byteLength text)

def lineLength (text : List Char) : Nat :=
  (indexOf? (· == '\n') text).getD (byteLength text)

/-- Where a comment ends of which `depth` levels are open at `position`. -/
def commentEnd? : Nat → Nat → Bytes → Option Nat
  | _, position, [] => some position
  | depth, position, 0x2F :: 0x2A :: rest => commentEnd? (depth + 1) (position + 2) rest
  | 0, _, 0x2A :: 0x2F :: _ => none
  | depth + 1, position, 0x2A :: 0x2F :: rest =>
    if depth = 0 then some (position + 2) else commentEnd? depth (position + 2) rest
  | depth, position, _ :: rest => commentEnd? depth (position + 1) rest

def commentLength? (text : List Char) : Option Nat :=
  commentEnd? 0 0 (Utf8.encode text)

/-- The length of a quoted name with its quotes, if the text starts with one. -/
def quotedLength? (text : List Char) : Option (Option Nat) := do
  let body ← sliceFrom? 1 text
  match indexOf? (fun c => c == '`' || c == '\n') body with
  | none => return none
  | some stop =>
    let after ← sliceFrom? stop body
    return if after.head? == some '`' && decide (0 < stop) then some (stop + 2) else none

/-- The kind and the length of the token at the start of a text, whose first character is `c`. -/
def measure? (atStart : Bool) (c : Char) (text : List Char) : Option (Token.Kind × Nat) :=
  if atStart && ['#', '!'].isPrefixOf text then some (.shebang, lineLength text)
  else if isBlank c then some (.whitespace, prefixLength isBlank text)
  else if ['/', '/'].isPrefixOf text then some (.lineComment, lineLength text)
  else if ['/', '*'].isPrefixOf text then (commentLength? text).map (.blockComment, ·)
  else if c == '`' then
    (quotedLength? text).map fun
      | some length => (.identifier, length)
      | none => (.other, 1)
  else if Identifier.isStart c then some (.identifier, prefixLength Identifier.isPart text)
  else if c == '.' then some (.dot, 1)
  else some (.other, c.utf8Size)

/-- The token at a position of a source, and the position after it. -/
def next? (source : List Char) (position : Nat) : Option (Option (Token × Nat)) := do
  let rest ← sliceFrom? position source
  match rest.head? with
  | none => return none
  | some c =>
    let (kind, length) ← measure? (position == 0) c rest
    let text ← sliceTo? length rest
    return some (⟨kind, text, position⟩, position + length)

theorem indexOf?_getD (p : Char → Bool) (text : List Char) :
    (indexOf? p text).getD (byteLength text) = byteLength (text.takeWhile (!p ·)) := by
  induction text with
  | nil => rfl
  | cons c rest ih =>
      by_cases hc : p c
      · simp [indexOf?, hc, byteLength]
      · cases hindex : indexOf? p rest with
        | none => simp_all [indexOf?, byteLength]
        | some index => simp_all [indexOf?, byteLength]

theorem prefixLength_eq (p : Char → Bool) (text : List Char) :
    prefixLength p text = byteLength (text.takeWhile p) := by
  rw [prefixLength, indexOf?_getD]
  simp only [Bool.not_not]

theorem lineLength_eq (text : List Char) :
    lineLength text = byteLength (text.takeWhile Token.inLine) := by
  rw [lineLength, indexOf?_getD]
  rfl

theorem indexOf?_eq_none {p : Char → Bool} {text : List Char} (h : indexOf? p text = none) :
    text.dropWhile (!p ·) = [] := by
  induction text with
  | nil => rfl
  | cons c rest ih =>
      by_cases hc : p c
      · simp [indexOf?, hc] at h
      · simp only [indexOf?, hc, Bool.false_eq_true, if_false, Option.map_eq_none_iff] at h
        simpa [hc] using ih h

theorem indexOf?_eq_some {p : Char → Bool} {text : List Char} {index : Nat}
    (h : indexOf? p text = some index) :
    index = byteLength (text.takeWhile (!p ·)) ∧ (text.dropWhile (!p ·)).head?.any p := by
  refine ⟨?_, ?_⟩
  · rw [← indexOf?_getD, h, Option.getD_some]
  · induction text generalizing index with
    | nil => simp [indexOf?] at h
    | cons c rest ih =>
        by_cases hc : p c
        · simp [hc]
        · simp only [indexOf?, hc, Bool.false_eq_true, if_false, Option.map_eq_some_iff] at h
          obtain ⟨index', hindex, -⟩ := h
          simpa [hc] using ih hindex

theorem quotedLength?_eq (rest : List Char) :
    quotedLength? ('`' :: rest) =
      some ((Token.quoted? rest).map fun (name, _) => byteLength ('`' :: (name ++ ['`']))) := by
  have hinQuotes : (fun c => !(c == '`' || c == '\n')) = Token.inQuotes := by
    funext c
    simp [Token.inQuotes, bne]
  have hbody : sliceFrom? 1 ('`' :: rest) = some rest := sliceFrom?_append ['`'] rest
  unfold quotedLength? Token.quoted?
  rw [hbody]
  simp only [Option.bind_eq_bind, Option.bind_some]
  cases hindex : indexOf? (fun c => c == '`' || c == '\n') rest with
  | none =>
      have hdrop := indexOf?_eq_none hindex
      rw [hinQuotes] at hdrop
      simp [hdrop]
  | some stop =>
      obtain ⟨hstop, hhead⟩ := indexOf?_eq_some hindex
      rw [hinQuotes] at hstop hhead
      have hafter : sliceFrom? stop rest = some (rest.dropWhile Token.inQuotes) := by
        have hslice := sliceFrom?_append (rest.takeWhile Token.inQuotes)
          (rest.dropWhile Token.inQuotes)
        rwa [List.takeWhile_append_dropWhile, ← hstop] at hslice
      simp only [hafter, Option.bind_some]
      cases htake : rest.takeWhile Token.inQuotes with
      | nil => simp [hstop, htake, byteLength]
      | cons d name =>
          have hpos : 0 < stop := by
            rw [hstop, htake]
            exact byteLength_pos (List.cons_ne_nil d name)
          cases hdrop : rest.dropWhile Token.inQuotes with
          | nil => simp
          | cons e after =>
              by_cases he : e = '`'
              · subst he
                have htick : ('`' : Char).utf8Size = 1 := by decide
                have hlength : byteLength ('`' :: (d :: name ++ ['`'])) = stop + 2 := by
                  rw [hstop, htake, ← List.singleton_append, byteLength_append, byteLength_append]
                  simp only [byteLength, htick]
                  omega
                simpa [hpos] using hlength.symm
              · simp [he]

/-- A byte at which neither delimiter starts is passed. -/
theorem commentEnd?_cons {b : UInt8} {bytes : Bytes} (depth position : Nat)
    (hopen : b = 0x2F → bytes.head? ≠ some 0x2A) (hclose : b = 0x2A → bytes.head? ≠ some 0x2F) :
    commentEnd? depth position (b :: bytes) = commentEnd? depth (position + 1) bytes := by
  rw [commentEnd?]
  · rintro rest rfl rfl
    exact hopen rfl rfl
  · rintro rest rfl rfl rfl
    exact hclose rfl rfl
  · rintro depth rest rfl rfl rfl
    exact hclose rfl rfl

theorem commentEnd?_append {bytes : Bytes} (h : ∀ b ∈ bytes, b ≠ 0x2F ∧ b ≠ 0x2A)
    (depth position : Nat) (rest : Bytes) :
    commentEnd? depth position (bytes ++ rest) =
      commentEnd? depth (position + bytes.length) rest := by
  induction bytes generalizing position with
  | nil => rfl
  | cons b bytes ih =>
      obtain ⟨hslash, hstar⟩ := h b (by simp)
      rw [List.cons_append, commentEnd?_cons depth position (fun hb => absurd hb hslash)
        (fun hb => absurd hb hstar), ih (fun b hb => h b (List.mem_cons_of_mem _ hb)),
        List.length_cons, Nat.add_assoc, Nat.add_comm 1]

/-- A text whose bytes start with an ASCII character starts with it. -/
theorem head?_of_head?_encode {c : Char} (hc : c.toNat < 0x80) {text : List Char}
    (h : (Utf8.encode text).head? = some (UInt8.ofNat c.toNat)) : text.head? = some c := by
  cases text with
  | nil => simp at h
  | cons d text =>
      obtain ⟨b, bytes, hbytes⟩ :=
        List.exists_cons_of_ne_nil (String.utf8EncodeChar_ne_nil (c := d))
      rw [Utf8.encode_cons, hbytes, List.cons_append, List.head?_cons, Option.some.injEq] at h
      have hmem : UInt8.ofNat c.toNat ∈ String.utf8EncodeChar d := by simp [hbytes, h]
      rw [(Utf8.mem_encodeChar_iff hc).1 hmem, List.head?_cons]

/-- A character at which neither delimiter starts is passed with all its bytes. -/
theorem commentEnd?_encode_cons {c : Char} {rest : List Char} (depth position : Nat)
    (hopen : c = '/' → rest.head? ≠ some '*') (hclose : c = '*' → rest.head? ≠ some '/') :
    commentEnd? depth position (Utf8.encode (c :: rest)) =
      commentEnd? depth (position + c.utf8Size) (Utf8.encode rest) := by
  by_cases hslash : c = '/'
  · subst hslash
    exact commentEnd?_cons depth position
      (fun _ hhead => hopen rfl (head?_of_head?_encode (by decide) hhead))
      (fun hb => absurd hb (by decide))
  by_cases hstar : c = '*'
  · subst hstar
    exact commentEnd?_cons depth position (fun hb => absurd hb (by decide))
      (fun _ hhead => hclose rfl (head?_of_head?_encode (by decide) hhead))
  rw [Utf8.encode_cons, commentEnd?_append, String.length_utf8EncodeChar]
  intro b hb
  refine ⟨?_, ?_⟩
  · rintro rfl
    exact hslash ((Utf8.mem_encodeChar_iff (c := '/') (by decide)).1 hb).symm
  · rintro rfl
    exact hstar ((Utf8.mem_encodeChar_iff (c := '*') (by decide)).1 hb).symm

/-- Inside a comment, both scans find the same end. -/
theorem commentEnd?_eq (depth position : Nat) (text : List Char) (hdepth : depth ≠ 0) :
    commentEnd? depth position (Utf8.encode text) =
      some (position + byteLength (Token.spanComment depth text).1) := by
  fun_induction Token.spanComment depth text generalizing position with
  | case1 => exact absurd rfl hdepth
  | case2 => rfl
  | case3 depth rest comment after hspan ih =>
      have hbytes : Utf8.encode ('/' :: '*' :: rest) = 0x2F :: 0x2A :: Utf8.encode rest := rfl
      rw [hbytes, commentEnd?, ih (position + 2) (by omega), hspan]
      have hsize : ('/' : Char).utf8Size = 1 ∧ ('*' : Char).utf8Size = 1 := by decide
      simp only [byteLength, hsize.1, hsize.2, Option.some.injEq]
      omega
  | case4 depth rest comment after hspan ih =>
      have hbytes : Utf8.encode ('*' :: '/' :: rest) = 0x2A :: 0x2F :: Utf8.encode rest := rfl
      have hsize : ('/' : Char).utf8Size = 1 ∧ ('*' : Char).utf8Size = 1 := by decide
      rw [hbytes, commentEnd?]
      by_cases hzero : depth = 0
      · subst hzero
        simp only [Token.spanComment, Prod.mk.injEq] at hspan
        simp [← hspan.1, byteLength, hsize.1, hsize.2]
      · rw [if_neg hzero, ih (position + 2) hzero, hspan]
        simp only [byteLength, hsize.1, hsize.2, Option.some.injEq]
        omega
  | case5 depth c rest hopen hclose comment after hspan ih =>
      rw [commentEnd?_encode_cons, ih (position + c.utf8Size) (by omega), hspan]
      · simp only [byteLength, Option.some.injEq]
        omega
      · rintro rfl hhead
        cases rest with
        | nil => simp at hhead
        | cons d rest => exact hopen rest rfl (by simpa using hhead)
      · rintro rfl hhead
        cases rest with
        | nil => simp at hhead
        | cons d rest => exact hclose rest rfl (by simpa using hhead)

theorem commentLength?_eq (rest : List Char) :
    commentLength? ('/' :: '*' :: rest) =
      some (byteLength ('/' :: '*' :: (Token.spanComment 1 rest).1)) := by
  have hbytes : Utf8.encode ('/' :: '*' :: rest) = 0x2F :: 0x2A :: Utf8.encode rest := rfl
  have hsize : ('/' : Char).utf8Size = 1 ∧ ('*' : Char).utf8Size = 1 := by decide
  rw [commentLength?, hbytes, commentEnd?, commentEnd?_eq _ _ _ (by decide)]
  simp only [byteLength, hsize.1, hsize.2, Option.some.injEq, Nat.zero_add]
  omega

theorem isPrefixOf_pair (a b c : Char) (rest : List Char) :
    [a, b].isPrefixOf (c :: rest) = (c == a && rest.head? == some b) := by
  have hsymm : ∀ x y : Char, (x == y) = (y == x) := fun x y => Bool.beq_comm
  cases rest with
  | nil => simp [List.isPrefixOf]
  | cons d rest => simp [List.isPrefixOf, hsymm a c, hsymm b d]

theorem measure?_eq (atStart : Bool) (c : Char) (rest : List Char) :
    measure? atStart c (c :: rest) =
      some ((Token.cut atStart c rest).1, byteLength (Token.cut atStart c rest).2.1) := by
  unfold measure? Token.cut
  simp only [isPrefixOf_pair, ← Bool.and_assoc]
  split
  · next h =>
    obtain ⟨⟨-, rfl⟩, -⟩ := by simpa using h
    rw [lineLength_eq, List.takeWhile_cons_of_pos (by decide)]
  split
  · next h => rw [prefixLength_eq, List.takeWhile_cons_of_pos h]
  split
  · next h =>
    obtain ⟨rfl, -⟩ := by simpa using h
    rw [lineLength_eq, List.takeWhile_cons_of_pos (by decide)]
  split
  · next h =>
    obtain ⟨rfl, hhead⟩ := by simpa using h
    obtain ⟨rest, rfl⟩ : ∃ after, rest = '*' :: after := List.head?_eq_some_iff.1 hhead
    simp [commentLength?_eq]
  split
  · next h =>
    obtain rfl := by simpa using h
    rw [quotedLength?_eq]
    cases Token.quoted? rest with
    | none => rfl
    | some found => rfl
  split
  · next h =>
    rw [prefixLength_eq, List.takeWhile_cons_of_pos (Identifier.isPart_of_isStart h)]
  split
  · next h =>
    obtain rfl := by simpa using h
    rfl
  · simp [byteLength]

/-- The scanner draws what the lexer draws, and finds every slice it needs. -/
theorem next?_eq {source front : List Char} {lexer : Lexer} (hsource : front ++ lexer.rest = source)
    (hposition : lexer.position = byteLength front) :
    next? source lexer.position =
      some (lexer.next?.map fun (token, after) => (token, after.position)) := by
  have hrest : sliceFrom? lexer.position source = some lexer.rest := by
    rw [hposition, ← hsource, sliceFrom?_append]
  unfold next? Lexer.next?
  rw [hrest]
  cases hcut : lexer.rest with
  | nil => rfl
  | cons c rest =>
      have htext := sliceTo?_append (Token.cut (lexer.position == 0) c rest).2.1
        (Token.cut (lexer.position == 0) c rest).2.2
      rw [Token.cut_append] at htext
      simp [measure?_eq, htext]

end ScriptPlugins.ByteScan
