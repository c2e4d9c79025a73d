import Mathlib.Algebra.Ring.Nat
import ScriptPlugins.Proofs.Source.ByteScan

/-!
# The tokens of a source

Drawing tokens comes to an end, and then the tokens are the source, cut into pieces none of which is
empty. Where a piece begins is said by the bytes before it, so each offset is between two characters,
and a scanner that slices the source by offsets never cuts one in two.
-/

namespace ScriptPlugins.Lexer

theorem byteLength_flatMap (tokens : List Token) :
    byteLength (tokens.flatMap Token.text) =
      (tokens.map fun token => byteLength token.text).sum := by
  induction tokens with
  | nil => rfl
  | cons token tokens ih => rw [List.flatMap_cons, byteLength_append, ih, List.map_cons, List.sum_cons]

theorem isValid_byteLength {source : String} {front back : List Char}
    (h : front ++ back = source.toList) :
    (String.Pos.Raw.mk (byteLength front)).IsValid source := by
  rw [String.Pos.Raw.isValid_iff_exists_append]
  refine ⟨String.ofList front, String.ofList back, ?_, ?_⟩
  · rw [← String.ofList_append, h, String.ofList_toList]
  · rw [byteLength_eq_utf8ByteSize]
    rfl

/-- **Tokens cover the source.** As many draws as there are tokens leave nothing to draw, and the
texts drawn are the source. No text is empty, each begins at the byte that the texts before it lead
to, and right after its draw the lexer stands at its end. Both are between characters, and there a
scan over the bytes finds the same token and all its slices. -/
theorem draws_exhaust_source (source : String) :
    (ofList source.toList).draw (tokens source.toList).length =
        (tokens source.toList, (ofList source.toList).drawAll.2) ∧
      (ofList source.toList).drawAll.2.next? = none ∧
      ByteScan.next? source.toList (byteLength source.toList) = some none ∧
      (tokens source.toList).flatMap Token.text = source.toList ∧
      ∀ index token, (tokens source.toList)[index]? = some token →
        token.text ≠ [] ∧
        token.offset =
          (((tokens source.toList).take index).map fun token => byteLength token.text).sum ∧
        ((ofList source.toList).draw (index + 1)).1 = (tokens source.toList).take (index + 1) ∧
        ((ofList source.toList).draw (index + 1)).2.position =
          token.offset + byteLength token.text ∧
        (String.Pos.Raw.mk token.offset).IsValid source ∧
        (String.Pos.Raw.mk (token.offset + byteLength token.text)).IsValid source ∧
        ByteScan.next? source.toList token.offset =
          some (some (token, token.offset + byteLength token.text)) := by
  have hend := rest_drawAll (ofList source.toList)
  obtain ⟨htexts, hposition⟩ := drawAll_texts (ofList source.toList)
  refine ⟨draw_length_drawAll _, next?_eq_none_iff.2 hend, ?_, htexts, ?_⟩
  · have hstop : (ofList source.toList).drawAll.2.position = byteLength source.toList :=
      hposition.trans (Nat.zero_add _)
    have hsource : source.toList ++ (ofList source.toList).drawAll.2.rest = source.toList := by
      rw [hend, List.append_nil]
    have hscan := ByteScan.next?_eq hsource hstop
    rwa [hstop, next?_eq_none_iff.2 hend] at hscan
  · intro index token htoken
    obtain ⟨after, htaken, hnext, hdraw⟩ := next?_draw htoken
    obtain ⟨hne, hrest, hoffset, hafter⟩ := next?_eq_some hnext
    obtain ⟨hsplit, hat⟩ := draw_texts index (ofList source.toList)
    have hfront : ((ofList source.toList).draw index).2.position =
        byteLength (((tokens source.toList).take index).flatMap Token.text) := by
      rw [hat, htaken]
      exact Nat.zero_add _
    have hbefore : ((tokens source.toList).take index).flatMap Token.text ++
        ((ofList source.toList).draw index).2.rest = source.toList := by
      rw [tokens, ← htaken, hsplit]
      rfl
    have hsource : ((tokens source.toList).take index).flatMap Token.text ++
        (token.text ++ after.rest) = source.toList := by
      rw [hrest, hbefore]
    refine ⟨hne, ?_, ?_, ?_, ?_, ?_, ?_⟩
    · rw [hoffset, hfront, byteLength_flatMap]
    · rw [hdraw, tokens]
    · rw [hdraw, hoffset, hafter]
    · rw [hoffset, hfront]
      exact isValid_byteLength hsource
    · rw [hoffset, hfront, ← byteLength_append]
      exact isValid_byteLength ((List.append_assoc _ _ _).trans hsource)
    · have hscan := ByteScan.next?_eq hbefore hfront
      rw [hoffset, hscan, hnext, ← hafter]
      rfl

/-- An open comment that ends in a character of two bytes, after one of three. -/
theorem draws_exhaust_open_comment :
    (tokens "→/*é".toList)[1]? = some ⟨.blockComment, ['/', '*', 'é'], 3⟩ ∧
      ((ofList "→/*é".toList).draw 2).2.position = 7 ∧
      (String.Pos.Raw.mk 7).IsValid "→/*é" := by
  have hdrawn : (tokens "→/*é".toList)[1]? = some ⟨.blockComment, ['/', '*', 'é'], 3⟩ := by
    decide +kernel
  have hstop : 3 + byteLength ['/', '*', 'é'] = 7 := by decide
  obtain ⟨-, -, -, -, heach⟩ := draws_exhaust_source "→/*é"
  obtain ⟨-, -, -, hposition, -, hvalid, -⟩ := heach 1 _ hdrawn
  simp only [hstop, Nat.reduceAdd] at hposition hvalid
  exact ⟨hdrawn, hposition, hvalid⟩

end ScriptPlugins.Lexer
