import ScriptPlugins.Proofs.Files.Tree
import ScriptPlugins.Proofs.Log.Outcome

/-!
# The place of a path

Without symbolic links a path stands for one location, whatever else the tree holds: its segments are
followed from where the path starts, a dot stays where it is and two dots go back by one. Walking the
path may fail on the way, but it cannot end anywhere else. What a tree has to hold for the walk to
succeed is that every segment is looked up in a directory, and no segment is too long.
-/

namespace ScriptPlugins.Tree

open Text

def turn (here : Location) (name : Bytes) : Location :=
  if name = Path.dot then here
  else if name = Path.dotDot then here.dropLast
  else here ++ [name]

def resolve (here : Location) (names : List Bytes) : Location :=
  names.foldl turn here

/-- The location that a path stands for. -/
def place (tree : Tree) (path : Path) : Location :=
  resolve (tree.start path) path.segments

/-- Whether names can be walked from a location. -/
def Passable (tree : Tree) : Location → List Bytes → Prop
  | _, [] => True
  | here, name :: rest =>
    tree.get? here = some .directory ∧ name.length ≤ nameLimit ∧
      tree.Passable (turn here name) rest

structure Leads (tree : Tree) (path : Path) : Prop where
  accepted : refusal? path = none
  passable : tree.Passable (tree.start path) (steps path)

variable {tree later : Tree} {path : Path} {here there location : Location}
  {name : Bytes} {names more : List Bytes} {links : Nat} {entry : Entry}

theorem resolve_append (here : Location) (names more : List Bytes) :
    resolve here (names ++ more) = resolve (resolve here names) more :=
  List.foldl_append

theorem resolve_dot (here : Location) : resolve here [Path.dot] = here := by
  rw [resolve, List.foldl_cons, turn, if_pos rfl, List.foldl_nil]

theorem turn_of_isName (here : Location) (h : Path.IsName name) :
    turn here name = here ++ [name] := by
  rw [turn, if_neg h.ne_dot, if_neg h.ne_dotDot]

theorem resolve_of_isName (here : Location) (h : ∀ name ∈ names, Path.IsName name) :
    resolve here names = here ++ names := by
  induction names generalizing here with
  | nil => exact (List.append_nil here).symm
  | cons name rest ih =>
      have hrest := ih (here ++ [name]) fun other hother => h other (List.mem_cons_of_mem _ hother)
      calc
        resolve here (name :: rest) = resolve (turn here name) rest := rfl
        _ = resolve (here ++ [name]) rest := by rw [turn_of_isName here (h name List.mem_cons_self)]
        _ = here ++ name :: rest := by rw [hrest, List.append_assoc, List.singleton_append]

/-- A name that is joined to a path stands right below its place. -/
theorem place_join_name (tree : Tree) (path : Path) (h : Path.IsName name) :
    tree.place (path.join ⟨name⟩) = tree.place path ++ [name] := by
  rw [place, start, Path.isAbsolute_join_name h, Path.segments_join_name h, resolve_append, ← start,
    ← place, resolve, List.foldl_cons, List.foldl_nil, turn_of_isName _ h]

theorem passable_append :
    tree.Passable here (names ++ more) ↔
      tree.Passable here names ∧ tree.Passable (resolve here names) more := by
  induction names generalizing here with
  | nil => simp [Passable, resolve]
  | cons name rest ih =>
      rw [List.cons_append, Passable, Passable, ih, and_assoc, and_assoc]
      rfl

theorem Passable.length_le (h : tree.Passable here names) :
    ∀ name ∈ names, name.length ≤ nameLimit := by
  induction names generalizing here with
  | nil => nofun
  | cons first rest ih =>
      obtain ⟨-, hfirst, hrest⟩ := h
      intro name hname
      rcases List.mem_cons.1 hname with rfl | hname
      · exact hfirst
      · exact ih hrest name hname

/-- More directories do not bar the way. -/
theorem Passable.mono (h : tree.Passable here names)
    (hkept : ∀ location, tree.get? location = some .directory →
      later.get? location = some .directory) : later.Passable here names := by
  induction names generalizing here with
  | nil => trivial
  | cons name rest ih =>
      obtain ⟨hhere, hname, hrest⟩ := h
      exact ⟨hkept here hhere, hname, ih hrest⟩

/-- In a well-formed tree the way down to an entry is open. -/
theorem WellFormed.passable (hwell : tree.WellFormed) (hnames : ∀ name ∈ names, Path.IsName name)
    (hlength : ∀ name ∈ names, name.length ≤ nameLimit)
    (h : tree.get? (here ++ names) = some entry) : tree.Passable here names := by
  induction names generalizing here with
  | nil => trivial
  | cons name rest ih =>
      have hhere := hwell.get?_of_prefix h (List.cons_ne_nil name rest)
      refine ⟨hhere, hlength name List.mem_cons_self, ?_⟩
      rw [turn_of_isName here (hnames name List.mem_cons_self)]
      refine ih (fun other hother => hnames other (List.mem_cons_of_mem _ hother))
        (fun other hother => hlength other (List.mem_cons_of_mem _ hother)) ?_
      rw [List.append_assoc, List.singleton_append]
      exact h

theorem LinkFree.walkWith_cons (hfree : tree.LinkFree)
    (follow : Location → List Bytes → Except Fault Location)
    (hhere : tree.get? here = some .directory) :
    tree.walkWith follow here (name :: names) =
      if name.length ≤ nameLimit then tree.walkWith follow (turn here name) names
      else .error .nameTooLong := by
  rw [walkWith, hhere, turn]
  by_cases hdot : name = Path.dot
  · have hshort : name.length ≤ nameLimit := by rw [hdot]; decide
    rw [if_pos hshort]
    simp only [if_pos hdot]
  · by_cases hdotDot : name = Path.dotDot
    · have hshort : name.length ≤ nameLimit := by rw [hdotDot]; decide
      rw [if_pos hshort]
      simp only [if_neg hdot, if_pos hdotDot]
    · by_cases hlong : name.length > nameLimit
      · simp only [if_neg hdot, if_neg hdotDot, if_pos hlong, if_neg (Nat.not_le.2 hlong)]
      · simp only [if_neg hdot, if_neg hdotDot, if_neg hlong, if_pos (Nat.not_lt.1 hlong)]
        cases hentry : tree.get? (here ++ [name]) with
        | none => rfl
        | some entry =>
            cases entry with
            | file contents => rfl
            | directory => rfl
            | link target => exact absurd hentry (hfree _ target)

theorem LinkFree.walkWith_eq_ok_iff (hfree : tree.LinkFree)
    (follow : Location → List Bytes → Except Fault Location) :
    tree.walkWith follow here names = .ok there ↔
      tree.Passable here names ∧ resolve here names = there := by
  induction names generalizing here with
  | nil => simp [walkWith, Passable, resolve]
  | cons name rest ih =>
      have hresolve : resolve here (name :: rest) = resolve (turn here name) rest := rfl
      rw [Passable, hresolve]
      cases hhere : tree.get? here with
      | none => simp [walkWith, hhere]
      | some entry =>
          cases entry with
          | file contents => simp [walkWith, hhere]
          | link target => exact absurd hhere (hfree here target)
          | directory =>
              rw [hfree.walkWith_cons follow hhere]
              by_cases hshort : name.length ≤ nameLimit
              · simp [hshort, ih]
              · simp [hshort]

/-- How many links may be followed does not matter where there are none. -/
theorem LinkFree.walk_eq_ok_iff (hfree : tree.LinkFree) :
    tree.walk links here names = .ok there ↔
      tree.Passable here names ∧ resolve here names = there := by
  cases links with
  | zero => exact hfree.walkWith_eq_ok_iff _
  | succ links => exact hfree.walkWith_eq_ok_iff _

theorem resolve_steps (here : Location) (path : Path) :
    resolve here (steps path) = resolve here path.segments := by
  rw [steps, resolve_append]
  by_cases hends : path.endsInSlash
  · rw [if_pos hends, resolve_dot]
  · rw [if_neg hends]
    rfl

/-- A path leads to its place or nowhere. -/
theorem LinkFree.locate_eq_ok_iff (hfree : tree.LinkFree) :
    tree.locate path = .ok location ↔ tree.Leads path ∧ tree.place path = location := by
  rw [locate]
  cases haccepted : refusal? path with
  | some fault =>
      have hrefused : ¬ tree.Leads path := fun hleads => by
        rw [hleads.accepted] at haccepted
        cases haccepted
      simp [hrefused]
  | none =>
      rw [hfree.walk_eq_ok_iff, resolve_steps]
      constructor
      · rintro ⟨hpassable, hplace⟩
        exact ⟨⟨haccepted, hpassable⟩, hplace⟩
      · rintro ⟨hleads, hplace⟩
        exact ⟨hleads.passable, hplace⟩

theorem find_eq_ok_iff :
    tree.find path = .ok (location, entry) ↔
      tree.locate path = .ok location ∧ tree.get? location = some entry := by
  rw [find, bind_eq_ok_iff]
  constructor
  · rintro ⟨found, hfound, h⟩
    cases hentry : tree.get? found with
    | none => simp [hentry] at h
    | some kept =>
        obtain ⟨rfl, rfl⟩ : found = location ∧ kept = entry := by simpa [hentry] using h
        exact ⟨hfound, hentry⟩
  · rintro ⟨hlocation, hentry⟩
    exact ⟨location, hlocation, by rw [hentry]⟩

theorem LinkFree.find_eq_ok_iff (hfree : tree.LinkFree) :
    tree.find path = .ok (location, entry) ↔
      tree.Leads path ∧ tree.place path = location ∧ tree.get? location = some entry := by
  rw [Tree.find_eq_ok_iff, hfree.locate_eq_ok_iff, and_assoc]

theorem last_eq_name (h : tree.last path = .ok (.name here name)) :
    ∃ front, path.segments = front ++ [name] ∧ name ≠ Path.dot ∧ name ≠ Path.dotDot ∧
      tree.walk linkLimit (tree.start path) (front ++ [Path.dot]) = .ok here := by
  rw [last] at h
  cases haccepted : refusal? path with
  | some fault => simp [haccepted, bind, Except.bind] at h
  | none =>
      rw [haccepted] at h
      cases hsegment : path.segments.getLast? with
      | none => simp [hsegment, pure, Except.pure] at h
      | some segment =>
          obtain ⟨front, hsegments⟩ := List.getLast?_eq_some_iff.1 hsegment
          rw [hsegment, hsegments] at h
          simp only [List.dropLast_concat] at h
          obtain ⟨parent, hwalk, h⟩ := bind_eq_ok_iff.1 h
          by_cases hdots : segment = Path.dot ∨ segment = Path.dotDot
          · simp [hdots, pure, Except.pure] at h
          · by_cases hlong : segment.length > nameLimit
            · simp [hdots, hlong] at h
            · obtain ⟨rfl, rfl⟩ : parent = here ∧ segment = name := by
                simpa [hdots, hlong, pure, Except.pure] using h
              rw [not_or] at hdots
              exact ⟨front, hsegments, hdots.1, hdots.2, hwalk⟩

/-- The last name of a path stands at the place of the path. -/
theorem LinkFree.place_of_last (hfree : tree.LinkFree)
    (h : tree.last path = .ok (.name here name)) : tree.place path = here ++ [name] := by
  obtain ⟨front, hsegments, hdot, hdotDot, hwalk⟩ := last_eq_name h
  have hfront := (hfree.walk_eq_ok_iff.1 hwalk).2
  rw [resolve_append, resolve_dot] at hfront
  rw [place, hsegments, resolve_append, hfront, resolve, List.foldl_cons, List.foldl_nil, turn,
    if_neg hdot, if_neg hdotDot]

theorem read_eq_ok_iff {contents : Bytes} :
    tree.read path = .ok contents ↔ ∃ location, tree.find path = .ok (location, .file contents) := by
  rw [read, bind_eq_ok_iff]
  constructor
  · rintro ⟨⟨found, entry⟩, hfind, h⟩
    cases entry with
    | file kept =>
        obtain rfl : kept = contents := by simpa [pure, Except.pure] using h
        exact ⟨found, hfind⟩
    | directory => simp at h
    | link target => simp at h
  · rintro ⟨found, hfind⟩
    exact ⟨_, hfind, rfl⟩

theorem readText_eq_ok_iff {text : String} :
    tree.readText path = .ok text ↔
      ∃ contents, tree.read path = .ok contents ∧ Utf8.toString? contents = some text := by
  rw [readText, bind_eq_ok_iff]
  constructor
  · rintro ⟨contents, hread, h⟩
    cases htext : Utf8.toString? contents with
    | none => simp [htext] at h
    | some kept =>
        obtain rfl : kept = text := by simpa [htext, pure, Except.pure] using h
        exact ⟨contents, hread, htext⟩
  · rintro ⟨contents, hread, htext⟩
    exact ⟨contents, hread, by rw [htext]; rfl⟩

end ScriptPlugins.Tree
