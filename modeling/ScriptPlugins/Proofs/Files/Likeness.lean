import ScriptPlugins.Proofs.Files.Tree

/-!
# Trees that look alike

Two trees may keep their entries in different orders and still have the same things in the same
places. Nothing that follows paths, reads, writes or makes directories can tell them apart, and what
such operations leave looks alike again.
-/

namespace ScriptPlugins.Tree

open Text

/-- Everything is in the same places. -/
structure Alike (first second : Tree) : Prop where
  home : second.home = first.home
  get? : ∀ location, second.get? location = first.get? location

/-- The same fault, or trees that look alike. -/
inductive AlikeAfter : Except Fault Tree → Except Fault Tree → Prop where
  | ok {first second : Tree} (h : Alike first second) : AlikeAfter (.ok first) (.ok second)
  | error (fault : Fault) : AlikeAfter (.error fault) (.error fault)

namespace Alike

variable {first second : Tree} {location : Location} {path : Path}

theorem start (h : first.Alike second) (path : Path) : second.start path = first.start path := by
  rw [Tree.start, Tree.start, h.home]

theorem walkWith (h : first.Alike second)
    (follow : Location → List Bytes → Except Fault Location) :
    second.walkWith follow = first.walkWith follow := by
  funext here names
  induction names generalizing here with
  | nil => rfl
  | cons name rest ih => simp only [Tree.walkWith, h.get?, ih]

theorem walk (h : first.Alike second) (links : Nat) : second.walk links = first.walk links := by
  induction links with
  | zero => exact h.walkWith _
  | succ links ih =>
      calc
        second.walk (links + 1) = second.walkWith (second.walk links) := rfl
        _ = first.walkWith (first.walk links) := by rw [ih, h.walkWith]

theorem locate (h : first.Alike second) (path : Path) : second.locate path = first.locate path := by
  rw [Tree.locate, Tree.locate, h.walk, h.start]

theorem find (h : first.Alike second) (path : Path) : second.find path = first.find path := by
  simp only [Tree.find, h.locate, h.get?]

theorem isDirectory (h : first.Alike second) (path : Path) :
    second.isDirectory path = first.isDirectory path := by
  rw [Tree.isDirectory, Tree.isDirectory, h.find]

theorem last (h : first.Alike second) (path : Path) : second.last path = first.last path := by
  simp only [Tree.last, h.walk, h.start]

theorem readText (h : first.Alike second) (path : Path) :
    second.readText path = first.readText path := by
  simp only [Tree.readText, Tree.read, h.find]

theorem put (h : first.Alike second) (hne : location ≠ []) (entry : Entry) :
    (first.put location entry).Alike (second.put location entry) := by
  refine ⟨h.home, fun other => ?_⟩
  rw [get?_put _ hne, get?_put _ hne, h.get?]

theorem makeDirectory (h : first.Alike second) (path : Path) :
    AlikeAfter (first.makeDirectory path) (second.makeDirectory path) := by
  rw [Tree.makeDirectory, Tree.makeDirectory, h.last]
  cases first.last path with
  | error fault => exact .error fault
  | ok found =>
      cases found with
      | special segment => exact .error _
      | name parent name =>
          simp only [bind, Except.bind, pure, Except.pure, h.get?]
          cases first.get? (parent ++ [name]) with
          | some entry => exact .error _
          | none => exact .ok (h.put (by simp) _)

theorem makeEach (h : first.Alike second) (paths : List Path) :
    (second.makeEach paths).1 = (first.makeEach paths).1 ∧
      (first.makeEach paths).2.Alike (second.makeEach paths).2 := by
  induction paths generalizing first second with
  | nil => exact ⟨rfl, h⟩
  | cons path rest ih =>
      rw [Tree.makeEach, Tree.makeEach]
      have hmade := h.makeDirectory path
      generalize first.makeDirectory path = made, second.makeDirectory path = made' at hmade ⊢
      cases hmade with
      | ok hmade => exact ih hmade
      | error fault =>
          rw [h.isDirectory]
          by_cases hthere : fault = .exists && first.isDirectory path
          · simp only [hthere, if_true]
            exact ih h
          · simp only [hthere]
            exact ⟨rfl, h⟩

theorem missing (h : first.Alike second) (made paths : List Path) :
    (∃ fault, first.missing made paths = .error fault ∧ second.missing made paths = .error fault) ∨
      ∃ left right rest, first.missing made paths = .ok (left, rest) ∧
        second.missing made paths = .ok (right, rest) ∧ left.Alike right := by
  induction paths generalizing made with
  | nil => exact .inr ⟨first, second, made, rfl, rfl, h⟩
  | cons path more ih =>
      rw [Tree.missing, Tree.missing]
      have hmade := h.makeDirectory path
      generalize first.makeDirectory path = result, second.makeDirectory path = result' at hmade ⊢
      cases hmade with
      | ok hmade => exact .inr ⟨_, _, made, rfl, rfl, hmade⟩
      | error fault =>
          rw [h.isDirectory]
          by_cases hmissing : fault = .notFound
          · subst hmissing
            exact ih (path :: made)
          · by_cases hthere : fault = .exists && first.isDirectory path
            · exact .inr ⟨first, second, made, by simp [hthere], by simp [hthere], h⟩
            · exact .inl ⟨fault, by simp [hthere], by simp [hthere]⟩

theorem makeDirectories (h : first.Alike second) (path : Path) :
    (second.makeDirectories path).1 = (first.makeDirectories path).1 ∧
      (first.makeDirectories path).2.Alike (second.makeDirectories path).2 := by
  rw [Tree.makeDirectories, Tree.makeDirectories]
  split
  · exact ⟨rfl, h⟩
  · rcases h.missing [] (ancestors path) with ⟨fault, hfirst, hsecond⟩ | ⟨left, right, rest, hfirst,
      hsecond, hafter⟩
    · rw [hfirst, hsecond]
      exact ⟨rfl, h⟩
    · rw [hfirst, hsecond]
      exact hafter.makeEach rest

theorem write (h : first.Alike second) (path : Path) (contents : Bytes) :
    AlikeAfter (first.write path contents) (second.write path contents) := by
  rw [Tree.write, Tree.write]
  by_cases hends : path.endsInSlash
  · simp only [if_pos hends, h.last]
    cases first.last path <;> exact .error _
  · simp only [if_neg hends, h.locate]
    cases first.locate path with
    | error fault => exact .error fault
    | ok location =>
        simp only [bind, Except.bind, pure, Except.pure, h.get?]
        cases hentry : first.get? location with
        | none => exact .ok (h.put (ne_nil_of_get? (by rw [hentry]; nofun)) _)
        | some entry =>
            cases entry with
            | file kept => exact .ok (h.put (ne_nil_of_get? (by rw [hentry]; nofun)) _)
            | directory => exact .error _
            | link target => exact .error _

end Alike

end ScriptPlugins.Tree
