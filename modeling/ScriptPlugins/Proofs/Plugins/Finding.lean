import ScriptPlugins.Proofs.Files.Order
import ScriptPlugins.Proofs.Plugins.Discovery

/-!
# What a search finds

A search below a directory finds the files that a walk from there comes to, as far as their names
are text and match the pattern, and nothing else. The paths come in their own order, one strictly
before the next. Since the names below the root are part of a path, no two files have paths that the
order takes for one, and so the answer does not depend on how the tree lists what it holds.
-/

namespace ScriptPlugins.Discovery

open Text

variable {tree other : Tree} {root path : Path} {top names : Location} {name : Bytes}
  {pattern : String} {glob : Glob}

theorem mem_candidates_iff (hwell : tree.WellFormed)
    (hroot : tree.find root = .ok (top, .directory)) :
    (path, name) ∈ candidates tree root ↔ ∃ front contents,
      tree.Reaches top (front ++ [name]) (.file contents) ∧
        path = pathBelow root (front ++ [name]) := by
  have htop : tree.get? top = some .directory := (Tree.find_eq_ok_iff.1 hroot).2
  rw [candidates_of_directory hroot, List.mem_filterMap]
  constructor
  · rintro ⟨⟨names, entry⟩, hbelow, hcandidate⟩
    obtain ⟨⟨contents, rfl⟩, rfl, rfl⟩ := candidate?_eq_some_iff.1 hcandidate
    obtain ⟨hne, hmem⟩ := Tree.mem_below_iff.1 hbelow
    obtain ⟨front, last, rfl⟩ := List.eq_nil_or_concat' names |>.resolve_left hne
    rw [List.getLast?_concat, Option.getD_some]
    exact ⟨front, contents, (hwell.reaches_iff htop).2 (hwell.get?_of_mem hmem), rfl⟩
  · rintro ⟨front, contents, hreaches, rfl⟩
    have hne : front ++ [name] ≠ [] := by simp
    have hne' : top ++ (front ++ [name]) ≠ [] := by simp
    refine ⟨(front ++ [name], .file contents), Tree.mem_below_iff.2 ⟨hne, ?_⟩,
      candidate?_eq_some_iff.2 ⟨⟨contents, rfl⟩, rfl, ?_⟩⟩
    · exact hwell.mem_entries_iff.2 ⟨hne', hreaches.get?⟩
    · rw [List.getLast?_concat, Option.getD_some]

/-- No two candidates have the same components. -/
theorem pairwise_candidates (hwell : tree.WellFormed) (root : Path) :
    (candidates tree root).Pairwise fun item later => item.1.components ≠ later.1.components := by
  cases hroot : tree.find root with
  | error fault => simp [candidates, hroot]
  | ok found =>
      obtain ⟨top, entry⟩ := found
      cases entry with
      | link target => simp [candidates, hroot]
      | file contents =>
          rw [candidates_of_file hroot]
          split <;> simp
      | directory =>
          rw [candidates_of_directory hroot]
          refine List.Pairwise.filterMap _ ?_ (List.Pairwise.and_mem.1 (hwell.pairwise_below top))
          rintro ⟨names, entry⟩ ⟨names', entry'⟩ ⟨hmem, hmem', hne⟩ ⟨path, name⟩ hitem
            ⟨path', name'⟩ hitem'
          obtain ⟨-, rfl, -⟩ := candidate?_eq_some_iff.1 hitem
          obtain ⟨-, rfl, -⟩ := candidate?_eq_some_iff.1 hitem'
          rw [components_pathBelow root (hwell.isName_of_mem_below hmem),
            components_pathBelow root (hwell.isName_of_mem_below hmem')]
          intro heq
          have hnames := List.append_cancel_left heq
          exact hne (List.map_injective_iff.2 (fun _ _ => Path.Component.name.inj) hnames)

theorem candidates_perm (halike : tree.Alike other) (hwell : tree.WellFormed)
    (hwell' : other.WellFormed) (root : Path) :
    (candidates other root).Perm (candidates tree root) := by
  have hfind : other.find root = tree.find root := halike.find root
  cases hroot : tree.find root with
  | error fault => simp [candidates, hfind, hroot]
  | ok found =>
      obtain ⟨top, entry⟩ := found
      rw [hroot] at hfind
      cases entry with
      | link target => simp [candidates, hfind, hroot]
      | file contents =>
          have hlink : other.linkAt? root = tree.linkAt? root := by
            simp only [Tree.linkAt?, halike.last, halike.get?]
          rw [candidates_of_file hfind, candidates_of_file hroot, hlink]
      | directory =>
          rw [candidates_of_directory hfind, candidates_of_directory hroot]
          exact (halike.below_perm hwell hwell' top).filterMap _

/-- Paths in their order, one strictly before the next. -/
def Increasing (paths : List Path) : Prop :=
  paths.Pairwise fun path later => path.le later = true ∧ later.le path = false

theorem Increasing.nodup {paths : List Path} (h : Increasing paths) : paths.Nodup := by
  refine List.Pairwise.imp ?_ h
  rintro path later ⟨hle, hnle⟩ rfl
  exact Bool.false_ne_true (hnle.symm.trans hle)

theorem increasing_sort {paths : List Path}
    (h : paths.Pairwise fun path later => path.components ≠ later.components) :
    Increasing (sort Path.le paths) := by
  have hsorted : (sort Path.le paths).Pairwise fun path later => path.le later = true := by
    refine pairwise_sort (fun first second third h h' => ?_) (fun first second => ?_) paths
    · exact Path.le_iff.2 ((Path.le_iff.1 h).trans (Path.le_iff.1 h'))
    · rw [Path.le_iff, Path.le_iff]
      exact le_total _ _
  have happart := (sort_perm Path.le paths).symm.pairwise h Ne.symm
  refine (hsorted.and happart).imp fun ⟨hle, hne⟩ => ?_
  exact ⟨hle, Bool.eq_false_iff.2 fun hge => hne (Path.components_eq_of_le hle hge)⟩

theorem increasing_accepted (hwell : tree.WellFormed) (root : Path) (glob : Glob) :
    Increasing (sort Path.le ((candidates tree root).filterMap (accepted? glob))) := by
  refine increasing_sort (List.Pairwise.filterMap _ ?_ (pairwise_candidates hwell root))
  rintro ⟨path, name⟩ ⟨path', name'⟩ hne found hfound found' hfound'
  obtain ⟨rfl, -⟩ := accepted?_eq_some_iff.1 hfound
  obtain ⟨rfl, -⟩ := accepted?_eq_some_iff.1 hfound'
  exact hne

/-- A list in strict order is known from its members, up to their order. -/
theorem Increasing.eq_of_perm {paths more : List Path} (h : Increasing paths)
    (h' : Increasing more) (hperm : paths.Perm more) : paths = more := by
  refine hperm.eq_of_pairwise (fun path later _ _ hlt hgt => ?_) h h'
  exact Bool.noConfusion (hlt.1.symm.trans hgt.2)

theorem find_alike (halike : tree.Alike other) (hwell : tree.WellFormed)
    (hwell' : other.WellFormed) (root : Path) (pattern : String) :
    find other root pattern = find tree root pattern := by
  have hexists : other.exists root = tree.exists root := by
    rw [Tree.exists, Tree.exists, halike.find]
  cases hglob : Glob.parse pattern with
  | error refusal => simp only [find, hglob]
  | ok glob =>
      cases htree : tree.exists root with
      | false =>
          rw [find_of_missing hglob htree, find_of_missing hglob (hexists.trans htree)]
      | true =>
          have hperm := candidates_perm halike hwell hwell' root
          have hpaths := Increasing.eq_of_perm (increasing_accepted hwell' root glob)
            (increasing_accepted hwell root glob)
            (((sort_perm _ _).trans (hperm.filterMap _)).trans (sort_perm _ _).symm)
          have hskipped := ((hperm.filter fun item => (Utf8.toString? item.2).isNone).length_eq)
          rw [find_of_exists hglob htree, find_of_exists hglob (hexists.trans htree), hpaths,
            List.map_const', List.map_const', hskipped]

theorem mem_found_iff (hwell : tree.WellFormed) (hroot : tree.find root = .ok (top, .directory)) :
    path ∈ sort Path.le ((candidates tree root).filterMap (accepted? glob)) ↔
      ∃ names name contents text, tree.Reaches top (names ++ [name]) (.file contents) ∧
        path = pathBelow root (names ++ [name]) ∧ Utf8.toString? name = some text ∧
        glob.matches text = true := by
  rw [mem_sort, List.mem_filterMap]
  constructor
  · rintro ⟨⟨_, name⟩, hcandidate, haccepted⟩
    obtain ⟨rfl, text, htext, hmatches⟩ := accepted?_eq_some_iff.1 haccepted
    obtain ⟨names, contents, hreaches, hpath⟩ := (mem_candidates_iff hwell hroot).1 hcandidate
    exact ⟨names, name, contents, text, hreaches, hpath, htext, hmatches⟩
  · rintro ⟨names, name, contents, text, hreaches, hpath, htext, hmatches⟩
    exact ⟨(path, name), (mem_candidates_iff hwell hroot).2 ⟨names, contents, hreaches, hpath⟩,
      accepted?_eq_some_iff.2 ⟨rfl, text, htext, hmatches⟩⟩

/-- A search finds the regular files below a directory whose names are text and match, in strict
order and whatever way the tree lists its entries; and it finds nothing below what does not exist. -/
theorem find_exact_increasing (hwell : tree.WellFormed) (hglob : Glob.parse pattern = .ok glob) :
    (∀ top, tree.find root = .ok (top, .directory) →
      ∃ paths, (find tree root pattern).1 = .ok paths ∧
        (∀ path, path ∈ paths ↔
          ∃ names name contents text, tree.Reaches top (names ++ [name]) (.file contents) ∧
            path = pathBelow root (names ++ [name]) ∧ Utf8.toString? name = some text ∧
            glob.matches text = true) ∧
        Increasing paths ∧ paths.Nodup) ∧
      (tree.exists root = false → (find tree root pattern).1 = .ok []) ∧
      ∀ other : Tree, other.WellFormed → tree.Alike other →
        find other root pattern = find tree root pattern := by
  refine ⟨fun top hroot => ?_, fun hmissing => ?_, fun other hwell' halike => ?_⟩
  · have hexists : tree.exists root = true := by rw [Tree.exists, hroot]; rfl
    have hincreasing := increasing_accepted hwell root glob
    refine ⟨_, congrArg Prod.fst (find_of_exists hglob hexists), fun path => ?_, hincreasing,
      hincreasing.nodup⟩
    exact mem_found_iff hwell hroot
  · rw [find_of_missing hglob hmissing]
  · exact find_alike halike hwell hwell' root pattern

/-- A file in a directory, and one whose name goes on with a hyphen where the directory's ends. What
else there is may not be found: a directory and links with matching names, and a name that is no
text. The root of the search is a link. -/
def yard : Tree :=
  let srv := Utf8.ofString "srv"
  ⟨[([srv], .directory), ([Utf8.ofString "top"], .link (.ofString "/srv")),
    ([srv, Utf8.ofString "a-b.k"], .file []), ([srv, Utf8.ofString "a"], .directory),
    ([srv, Utf8.ofString "a", Utf8.ofString "x.k"], .file []),
    ([srv, Utf8.ofString "d.k"], .directory),
    ([srv, Utf8.ofString "l.k"], .link (.ofString "a/x.k")),
    ([srv, Utf8.ofString "back"], .link (.ofString "/srv")),
    ([srv, 0xFF :: Utf8.ofString ".k"], .file [])], []⟩

/-- The same tree, listed the other way round. -/
def turnedYard : Tree :=
  { yard with entries := yard.entries.reverse }

theorem find_exact_increasing_yard :
    (find yard (.ofString "/top") "*.k").1 = .ok [.ofString "/top/a/x.k", .ofString "/top/a-b.k"] ∧
      (∀ path, path ∈ [Path.ofString "/top/a/x.k", .ofString "/top/a-b.k"] ↔
        ∃ names name contents text,
          yard.Reaches [Utf8.ofString "srv"] (names ++ [name]) (.file contents) ∧
          path = pathBelow (.ofString "/top") (names ++ [name]) ∧ Utf8.toString? name = some text ∧
          Glob.matches ⟨[.many, .literal '.', .literal 'k']⟩ text = true) ∧
      (find yard (.ofString "/none") "*.k").1 = .ok [] ∧
      find turnedYard (.ofString "/top") "*.k" = find yard (.ofString "/top") "*.k" := by
  have hwell : yard.WellFormed := by decide +kernel
  have hwell' : turnedYard.WellFormed := by decide +kernel
  have hglob : Glob.parse "*.k" = .ok ⟨[.many, .literal '.', .literal 'k']⟩ := by cbv
  have hroot : yard.find (.ofString "/top") = .ok ([Utf8.ofString "srv"], .directory) := by
    decide +kernel
  have hmissing : yard.exists (.ofString "/none") = false := by decide +kernel
  have halike : yard.Alike turnedYard :=
    Tree.alike_of_perm hwell hwell' rfl (List.reverse_perm yard.entries)
  have hfound : (find yard (.ofString "/top") "*.k").1 =
      .ok [.ofString "/top/a/x.k", .ofString "/top/a-b.k"] := by decide +kernel
  obtain ⟨paths, hpaths, hmem, -, -⟩ := (find_exact_increasing hwell hglob).1 _ hroot
  obtain rfl := Except.ok.inj (hpaths.symm.trans hfound)
  exact ⟨hfound, hmem, (find_exact_increasing hwell hglob).2.1 hmissing,
    (find_exact_increasing hwell hglob).2.2 turnedYard hwell' halike⟩

end ScriptPlugins.Discovery
