import ScriptPlugins.Proofs.Files.Frame

/-!
# Paths that go on leading somewhere

With symbolic links a path has no place that could be told from the path alone, and one change can
turn many paths aside. But as long as directories stay directories, files stay files and no link
comes or goes, every walk that succeeded succeeds again and ends where it ended before. Making
directories and writing files are such changes. Removing is not.
-/

namespace ScriptPlugins.Tree

open Text

/-- Everything is still what it was, and there are the same links as before. -/
structure Steady (before after : Tree) : Prop where
  grows : before.Grows after
  link : ∀ location target, after.get? location = some (.link target) ↔
    before.get? location = some (.link target)

variable {before middle after tree later : Tree} {here there location : Location}
  {names : List Bytes} {path : Path} {contents : Bytes}

theorem exists_iff : tree.exists path = true ↔
    ∃ location entry, tree.locate path = .ok location ∧ tree.get? location = some entry := by
  rw [Tree.exists]
  cases hfind : tree.find path with
  | error fault =>
      constructor
      · intro hnone
        cases hnone
      · rintro ⟨location, entry, hfound⟩
        cases hfind.symm.trans (find_eq_ok_iff.2 hfound)
  | ok found =>
      constructor
      · intro _
        exact ⟨found.1, found.2, find_eq_ok_iff.1 hfind⟩
      · intro _
        rfl

namespace Steady

theorem refl (tree : Tree) : tree.Steady tree :=
  ⟨.refl tree, fun _ _ => .rfl⟩

theorem trans (h : before.Steady middle) (h' : middle.Steady after) : before.Steady after :=
  ⟨h.grows.trans h'.grows,
    fun location target => (h'.link location target).trans (h.link location target)⟩

theorem walkWith (h : before.Steady after)
    {follow follow' : Location → List Bytes → Except Fault Location}
    (hfollow : ∀ here names, follow here names = .ok there → follow' here names = .ok there)
    (hwalk : before.walkWith follow here names = .ok there) :
    after.walkWith follow' here names = .ok there := by
  induction names generalizing here with
  | nil => exact hwalk
  | cons name rest ih =>
      rw [Tree.walkWith] at hwalk ⊢
      cases hhere : before.get? here with
      | none => simp [hhere] at hwalk
      | some entry =>
          cases entry with
          | file contents => simp [hhere] at hwalk
          | link target => simp [hhere] at hwalk
          | directory =>
              rw [h.grows.directory here hhere]
              simp only [hhere] at hwalk ⊢
              by_cases hdot : name = Path.dot
              · rw [if_pos hdot] at hwalk ⊢
                exact ih hwalk
              · rw [if_neg hdot] at hwalk ⊢
                by_cases hdotDot : name = Path.dotDot
                · rw [if_pos hdotDot] at hwalk ⊢
                  exact ih hwalk
                · rw [if_neg hdotDot] at hwalk ⊢
                  by_cases hlong : name.length > nameLimit
                  · simp [if_pos hlong] at hwalk
                  · rw [if_neg hlong] at hwalk ⊢
                    split at hwalk
                    · next target hlink =>
                        rw [(h.link _ target).2 hlink]
                        exact hfollow _ _ hwalk
                    · next hplain =>
                        split
                        · next target hlink =>
                            exact absurd ((h.link _ target).1 hlink) (hplain target)
                        · exact ih hwalk

theorem walk (h : before.Steady after) {links : Nat}
    (hwalk : before.walk links here names = .ok there) :
    after.walk links here names = .ok there := by
  induction links generalizing here names with
  | zero => exact h.walkWith (fun _ _ hfollow => hfollow) hwalk
  | succ links ih => exact h.walkWith (fun _ _ hfollow => ih hfollow) hwalk

theorem locate (h : before.Steady after) (hlocate : before.locate path = .ok location) :
    after.locate path = .ok location := by
  rw [Tree.locate] at hlocate ⊢
  cases haccepted : refusal? path with
  | some fault => simp [haccepted] at hlocate
  | none =>
      rw [haccepted] at hlocate
      rw [start, h.grows.home]
      exact h.walk hlocate

end Steady

theorem Frame.steady (h : Frame nowhere before after) : before.Steady after := by
  refine ⟨h.grows, ?_⟩
  intro location target
  constructor
  · intro hlink
    exact h.get?_of_ne_directory id hlink nofun
  · intro hlink
    exact h.get?_of_some id hlink

theorem steady_makeDirectories (tree : Tree) (path : Path) :
    tree.Steady (tree.makeDirectories path).2 :=
  (frame_makeDirectories tree path).steady

/-- A file may go where there is nothing, or where there is a file. -/
theorem steady_put_file (hdirectory : tree.get? location ≠ some .directory)
    (hlink : ∀ target, tree.get? location ≠ some (.link target)) (contents : Bytes) :
    tree.Steady (tree.put location (.file contents)) := by
  refine ⟨grows_put_file hdirectory contents, ?_⟩
  intro other target
  rw [get?_put tree (ne_nil_of_get? hdirectory)]
  by_cases heq : other = location
  · rw [if_pos heq, heq]
    exact ⟨nofun, fun hentry => absurd hentry (hlink target)⟩
  · rw [if_neg heq]

theorem steady_write (h : tree.write path contents = .ok later) : tree.Steady later := by
  obtain ⟨location, -, hdirectory, hlink, rfl⟩ := write_eq_ok h
  exact steady_put_file hdirectory hlink contents

/-- A file that has been written is read under the same path, whatever links the path goes through. -/
theorem read_of_write (h : tree.write path contents = .ok later) :
    later.read path = .ok contents := by
  have hsteady := steady_write h
  obtain ⟨location, hlocate, hdirectory, -, rfl⟩ := write_eq_ok h
  have hentry : (tree.put location (.file contents)).get? location = some (.file contents) := by
    rw [get?_put tree (ne_nil_of_get? hdirectory), if_pos rfl]
  exact read_eq_ok_iff.2 ⟨location, find_eq_ok_iff.2 ⟨hsteady.locate hlocate, hentry⟩⟩

end ScriptPlugins.Tree
