import ScriptPlugins.Proofs.Source.Cut
import ScriptPlugins.Proofs.Source.Tokens

/-!
# Nested comments by their grammar

A block comment is an opening, then comments and single bytes in any order, and an end, where a byte
stands for itself only if neither delimiter starts at it. The grammar nests and the scan only counts,
but they read the same bytes: a comment inside another one leaves the count as it was, so the count
comes to zero at the first end that is not the end of an inner comment.

Whether a delimiter starts at a byte may depend on what stands behind the part that is derived, so the
derivations carry that along. It also makes them unique: of a text that is known, no byte can be taken
in two ways.
-/

namespace ScriptPlugins.ByteScan

open Text Lexer

def opening : Bytes := [0x2F, 0x2A]

def closing : Bytes := [0x2A, 0x2F]

/-- Comments and single bytes in any order, in front of the rest of a text. -/
inductive Inside : Bytes → Bytes → Prop where
  | nil {after : Bytes} : Inside [] after
  | byte {b : UInt8} {front after : Bytes} (hopen : ¬ opening <+: b :: (front ++ after))
      (hclose : ¬ closing <+: b :: (front ++ after)) (hfront : Inside front after) :
      Inside (b :: front) after
  | comment {inner front after : Bytes} (hinner : Inside inner (closing ++ (front ++ after)))
      (hfront : Inside front after) : Inside (opening ++ inner ++ closing ++ front) after

/-- A comment with its end, in front of the rest of a text. -/
def Comment (front after : Bytes) : Prop :=
  ∃ inner, front = opening ++ inner ++ closing ∧ Inside inner (closing ++ after)

/-- A part of a text, in front, that can be derived as a comment. -/
def Derived (bytes front : Bytes) : Prop :=
  ∃ after, bytes = front ++ after ∧ Comment front after

variable {depth position : Nat} {b : UInt8} {bytes front after : Bytes}

theorem commentEnd?_opening :
    commentEnd? depth position (opening ++ bytes) = commentEnd? (depth + 1) (position + 2) bytes := by
  rw [opening, List.cons_append, List.singleton_append, commentEnd?]

theorem commentEnd?_closing :
    commentEnd? (depth + 1) position (closing ++ bytes) =
      if depth = 0 then some (position + 2) else commentEnd? depth (position + 2) bytes := by
  rw [closing, List.cons_append, List.singleton_append, commentEnd?]

theorem commentEnd?_byte (hopen : ¬ opening <+: b :: bytes) (hclose : ¬ closing <+: b :: bytes) :
    commentEnd? depth position (b :: bytes) = commentEnd? depth (position + 1) bytes := by
  apply commentEnd?_cons
  · rintro rfl hhead
    obtain ⟨more, rfl⟩ := List.head?_eq_some_iff.1 hhead
    exact hopen ⟨more, rfl⟩
  · rintro rfl hhead
    obtain ⟨more, rfl⟩ := List.head?_eq_some_iff.1 hhead
    exact hclose ⟨more, rfl⟩

/-- What is inside a comment does not change how many levels are open. -/
theorem commentEnd?_inside (h : Inside front after) (depth position : Nat) :
    commentEnd? (depth + 1) position (front ++ after) =
      commentEnd? (depth + 1) (position + front.length) after := by
  induction h generalizing depth position with
  | nil => rfl
  | @byte b front after hopen hclose _ ih =>
      calc commentEnd? (depth + 1) position (b :: (front ++ after))
          = commentEnd? (depth + 1) (position + 1) (front ++ after) :=
            commentEnd?_byte hopen hclose
        _ = commentEnd? (depth + 1) (position + 1 + front.length) after := ih depth (position + 1)
        _ = commentEnd? (depth + 1) (position + (b :: front).length) after := by
            rw [List.length_cons, Nat.add_assoc, Nat.add_comm 1]
  | @comment inner front after _ _ ihInner ihFront =>
      have htext : opening ++ inner ++ closing ++ front ++ after =
          opening ++ (inner ++ (closing ++ (front ++ after))) := by simp
      have hlength : (opening ++ inner ++ closing ++ front).length =
          2 + inner.length + 2 + front.length := by
        simp [opening, closing]
        omega
      calc commentEnd? (depth + 1) position (opening ++ inner ++ closing ++ front ++ after)
          = commentEnd? (depth + 2) (position + 2) (inner ++ (closing ++ (front ++ after))) := by
            rw [htext, commentEnd?_opening]
        _ = commentEnd? (depth + 2) (position + 2 + inner.length) (closing ++ (front ++ after)) :=
            ihInner (depth + 1) (position + 2)
        _ = commentEnd? (depth + 1) (position + 2 + inner.length + 2) (front ++ after) := by
            rw [commentEnd?_closing, if_neg (Nat.succ_ne_zero depth)]
        _ = commentEnd? (depth + 1) (position + 2 + inner.length + 2 + front.length) after :=
            ihFront depth (position + 2 + inner.length + 2)
        _ = commentEnd? (depth + 1)
              (position + (opening ++ inner ++ closing ++ front).length) after := by
            rw [hlength]
            congr 1
            omega

/-- The scan of a comment that can be derived stops at its end. -/
theorem commentEnd?_of_derived (h : Derived bytes front) : commentEnd? 0 0 bytes = some front.length := by
  obtain ⟨after, rfl, inner, rfl, hinner⟩ := h
  have htext : opening ++ inner ++ closing ++ after = opening ++ (inner ++ (closing ++ after)) := by
    simp
  have hlength : (opening ++ inner ++ closing).length = 2 + inner.length + 2 := by
    simp [opening, closing]
    omega
  calc commentEnd? 0 0 (opening ++ inner ++ closing ++ after)
      = commentEnd? 1 2 (inner ++ (closing ++ after)) := by rw [htext, commentEnd?_opening]
    _ = commentEnd? 1 (2 + inner.length) (closing ++ after) := commentEnd?_inside hinner 0 2
    _ = some (opening ++ inner ++ closing).length := by
        rw [commentEnd?_closing, if_pos rfl, hlength]

/-- There is an end for the innermost level, or the scan comes to the end of the text. -/
theorem inside_or_commentEnd? (bytes : Bytes) :
    (∃ front after, bytes = front ++ (closing ++ after) ∧ Inside front (closing ++ after)) ∨
      ∀ depth position, commentEnd? (depth + 1) position bytes = some (position + bytes.length) := by
  induction hlength : bytes.length using Nat.strongRecOn generalizing bytes with
  | ind length ih =>
      subst hlength
      by_cases hopen : opening <+: bytes
      · obtain ⟨nested, rfl⟩ := hopen
        have hshort : nested.length < (opening ++ nested).length := by
          rw [List.length_append]
          exact Nat.lt_add_of_pos_left (by decide)
        rcases ih _ hshort nested rfl with ⟨inner, middle, rfl, hinner⟩ | hend
        · -- the nested comment has its end, so what stands behind it decides
          have hshorter : middle.length < (opening ++ (inner ++ (closing ++ middle))).length := by
            simp [opening, closing]
            omega
          rcases ih _ hshorter middle rfl with ⟨front, after, rfl, hfront⟩ | hend
          · exact .inl ⟨opening ++ inner ++ closing ++ front, after, by simp, .comment hinner hfront⟩
          · refine .inr fun depth position => ?_
            rw [commentEnd?_opening, commentEnd?_inside hinner, commentEnd?_closing,
              if_neg (Nat.succ_ne_zero depth), hend]
            simp [opening, closing]
            omega
        · refine .inr fun depth position => ?_
          rw [commentEnd?_opening, hend, List.length_append, ← Nat.add_assoc]
          rfl
      by_cases hclose : closing <+: bytes
      · obtain ⟨after, rfl⟩ := hclose
        exact .inl ⟨[], after, rfl, .nil⟩
      cases bytes with
      | nil => exact .inr fun _ _ => rfl
      | cons b rest =>
          rcases ih rest.length (Nat.lt_succ_self _) rest rfl with ⟨front, after, rfl, hfront⟩ | hend
          · exact .inl ⟨b :: front, after, rfl, .byte hopen hclose hfront⟩
          · refine .inr fun depth position => ?_
            rw [commentEnd?_byte hopen hclose, hend, List.length_cons, Nat.add_assoc, Nat.add_comm 1]

/-- Without a derivation the scan comes to the end of the text. -/
theorem commentEnd?_of_not_derived (h : ∀ front, ¬ Derived (opening ++ bytes) front) :
    commentEnd? 0 0 (opening ++ bytes) = some (opening ++ bytes).length := by
  rcases inside_or_commentEnd? bytes with ⟨inner, after, rfl, hinner⟩ | hend
  · have hcomment : Comment (opening ++ inner ++ closing) after := ⟨inner, rfl, hinner⟩
    exact absurd ⟨after, by simp, hcomment⟩ (h (opening ++ inner ++ closing))
  · rw [commentEnd?_opening, hend 0 2, List.length_append]
    rfl

/-- The answer of the scan tells what can be derived. -/
theorem derived_of_commentEnd? {length : Nat}
    (h : commentEnd? 0 0 (opening ++ bytes) = some length) :
    (Derived (opening ++ bytes) ((opening ++ bytes).take length) ∧
        ∀ front, Derived (opening ++ bytes) front → front = (opening ++ bytes).take length) ∨
      (∀ front, ¬ Derived (opening ++ bytes) front) ∧ length = (opening ++ bytes).length := by
  have hfront : ∀ front, Derived (opening ++ bytes) front →
      front = (opening ++ bytes).take length := by
    intro front hderived
    have hend := commentEnd?_of_derived hderived
    obtain ⟨after, htext, -⟩ := hderived
    rw [h, Option.some.injEq] at hend
    rw [hend, htext, List.take_left]
  by_cases hderived : ∃ front, Derived (opening ++ bytes) front
  · obtain ⟨front, hderived⟩ := hderived
    exact .inl ⟨hfront front hderived ▸ hderived, hfront⟩
  · have hnone := not_exists.1 hderived
    have hend := commentEnd?_of_not_derived hnone
    rw [h, Option.some.injEq] at hend
    exact .inr ⟨hnone, hend⟩

/-- **Comments are read by their grammar.** The scan of a text that starts with an opening has an answer,
so it never closes more levels than are open. The answer is at least two and between two characters, and
the lexer cuts off a comment of that many bytes. So many bytes are the one part in front that can be
derived, or none can be derived and the answer is the length of the text. -/
theorem comment_by_grammar (atStart : Bool) (rest : List Char) :
    ∃ length, commentLength? ('/' :: '*' :: rest) = some length ∧ 2 ≤ length ∧
      (String.Pos.Raw.mk length).IsValid (String.ofList ('/' :: '*' :: rest)) ∧
      (Token.cut atStart '/' ('*' :: rest)).1 = .blockComment ∧
      byteLength (Token.cut atStart '/' ('*' :: rest)).2.1 = length ∧
      ((Derived (Utf8.encode ('/' :: '*' :: rest)) ((Utf8.encode ('/' :: '*' :: rest)).take length) ∧
          ∀ front, Derived (Utf8.encode ('/' :: '*' :: rest)) front →
            front = (Utf8.encode ('/' :: '*' :: rest)).take length) ∨
        (∀ front, ¬ Derived (Utf8.encode ('/' :: '*' :: rest)) front) ∧
          length = (Utf8.encode ('/' :: '*' :: rest)).length) := by
  have hlength := commentLength?_eq rest
  have hcut := Token.cut_blockComment atStart rest
  refine ⟨_, hlength, ?_, ?_, ?_, ?_, derived_of_commentEnd? hlength⟩
  · have hsize : ('/' : Char).utf8Size = 1 ∧ ('*' : Char).utf8Size = 1 := by decide
    simp only [byteLength, hsize.1, hsize.2]
    omega
  · apply isValid_byteLength
    rw [String.toList_ofList, List.cons_append, List.cons_append, Token.spanComment_append]
  · rw [hcut]
  · rw [hcut]

/-- An inner comment with nothing in it and one end too many behind it, and an end that begins in the
opening and so is none. -/
theorem comment_by_grammar_overlapping :
    commentLength? ('/' :: '*' :: "é/**/*/*/x".toList) = some 10 ∧
      Derived (Utf8.encode ('/' :: '*' :: "é/**/*/*/x".toList))
        ((Utf8.encode ('/' :: '*' :: "é/**/*/*/x".toList)).take 10) ∧
      commentLength? ['/', '*', '/'] = some 3 ∧
      ∀ front, ¬ Derived (Utf8.encode ['/', '*', '/']) front := by
  have hclosed : commentLength? ('/' :: '*' :: "é/**/*/*/x".toList) = some 10 := by decide +kernel
  have hopen : commentLength? ['/', '*', '/'] = some 3 := by decide +kernel
  refine ⟨hclosed, ?_, hopen, ?_⟩
  · obtain ⟨length, hlength, -, -, -, -, ⟨hderived, -⟩ | ⟨-, hend⟩⟩ :=
      comment_by_grammar true "é/**/*/*/x".toList
    · obtain rfl : 10 = length := Option.some.inj (hclosed.symm.trans hlength)
      exact hderived
    · obtain rfl : 10 = length := Option.some.inj (hclosed.symm.trans hlength)
      exact absurd hend (by decide +kernel)
  · obtain ⟨length, -, -, -, -, -, ⟨hderived, -⟩ | ⟨hnone, -⟩⟩ := comment_by_grammar false ['/']
    · -- a comment has four bytes at least
      obtain ⟨after, htext, inner, hfront, -⟩ := hderived
      have hsize : (Utf8.encode ['/', '*', '/']).length = 3 := by decide +kernel
      rw [htext, hfront] at hsize
      simp only [opening, closing, List.length_append, List.length_cons, List.length_nil] at hsize
      omega
    · exact hnone

end ScriptPlugins.ByteScan
