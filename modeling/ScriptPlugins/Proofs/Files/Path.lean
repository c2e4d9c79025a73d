import ScriptPlugins.Files.Path
import ScriptPlugins.Proofs.Text.Utf8

/-!
# Segments of joined paths

Joining a relative path to another puts their segments one after the other, with or without a slash
where they meet. So a name that is joined to a path is its last segment, and neither the start nor
the segments before it change.
-/

namespace ScriptPlugins.Path

open Text

/-- A name that a directory can hold something under. -/
structure IsName (name : Bytes) : Prop where
  ne_nil : name ≠ []
  noSlash : slash ∉ name
  ne_dot : name ≠ dot
  ne_dotDot : name ≠ dotDot

instance (name : Bytes) : Decidable (IsName name) :=
  decidable_of_iff (name ≠ [] ∧ slash ∉ name ∧ name ≠ dot ∧ name ≠ dotDot)
    ⟨fun ⟨h, i, j, k⟩ => ⟨h, i, j, k⟩, fun ⟨h, i, j, k⟩ => ⟨h, i, j, k⟩⟩

theorem isName_ofString_iff {text : String} :
    IsName (Utf8.ofString text) ↔
      text ≠ "" ∧ '/' ∉ text.toList ∧ text ≠ "." ∧ text ≠ ".." := by
  have hempty : Utf8.ofString "" = [] := rfl
  have hdot : Utf8.ofString "." = dot := by decide
  have hdotDot : Utf8.ofString ".." = dotDot := by decide
  have hslash : slash ∈ Utf8.ofString text ↔ '/' ∈ text.toList :=
    @Utf8.mem_encode_iff '/' text.toList (by decide)
  constructor
  · intro h
    refine ⟨?_, fun hmem => h.noSlash (hslash.2 hmem), ?_, ?_⟩
    · rintro rfl
      exact h.ne_nil hempty
    · rintro rfl
      exact h.ne_dot hdot
    · rintro rfl
      exact h.ne_dotDot hdotDot
  · rintro ⟨hne, hmem, hneDot, hneDotDot⟩
    refine ⟨fun heq => hne ?_, fun hin => hmem (hslash.1 hin), fun heq => hneDot ?_,
      fun heq => hneDotDot ?_⟩
    · exact Utf8.ofString_injective (heq.trans hempty.symm)
    · exact Utf8.ofString_injective (heq.trans hdot.symm)
    · exact Utf8.ofString_injective (heq.trans hdotDot.symm)

variable {path other : Path} {name : Bytes}

theorem isAbsolute_ofName (h : IsName name) : isAbsolute ⟨name⟩ = false := by
  cases name with
  | nil => rfl
  | cons b rest =>
      have hb : b ≠ slash := fun hb => h.noSlash (by rw [hb]; exact List.mem_cons_self)
      simpa [isAbsolute] using hb

theorem segments_ofName (h : IsName name) : segments ⟨name⟩ = [name] := by
  rw [segments, pieces_of_not_mem slash name h.noSlash]
  simp [h.ne_nil]

theorem endsInSlash_ofName (h : IsName name) : endsInSlash ⟨name⟩ = false := by
  rw [endsInSlash, beq_eq_false_iff_ne]
  intro hlast
  exact h.noSlash (List.mem_of_getLast? hlast)

/-- The bytes of a joined path: there is a slash between the two unless one is there already. -/
theorem bytes_join (h : other.isAbsolute = false) :
    (path.join other).bytes = path.bytes ++ other.bytes ∧
        (path.bytes = [] ∨ ∃ front, path.bytes = front ++ [slash]) ∨
      (path.join other).bytes = path.bytes ++ slash :: other.bytes ∧ path.bytes ≠ [] := by
  by_cases hmeet : path.bytes.isEmpty || path.endsInSlash
  · left
    refine ⟨by simp [join, h, hmeet], ?_⟩
    rw [Bool.or_eq_true] at hmeet
    rcases hmeet with hempty | hends
    · exact .inl (List.isEmpty_iff.1 hempty)
    · right
      obtain ⟨front, hfront⟩ := List.getLast?_eq_some_iff.1 (beq_iff_eq.1 hends)
      exact ⟨front, hfront⟩
  · right
    refine ⟨by simp [join, h, hmeet], ?_⟩
    intro hempty
    simp [hempty] at hmeet

theorem segments_join (h : other.isAbsolute = false) :
    (path.join other).segments = path.segments ++ other.segments := by
  rw [segments, segments, segments]
  rcases @bytes_join path other h with ⟨hbytes, hempty | ⟨front, hfront⟩⟩ | ⟨hbytes, -⟩
  · simp [hbytes, hempty, pieces]
  · rw [hbytes, hfront, List.append_assoc, List.singleton_append]
    simp [pieces_append, pieces]
  · rw [hbytes, pieces_append, List.filter_append]

theorem isAbsolute_join (h : other.isAbsolute = false) :
    (path.join other).isAbsolute = path.isAbsolute := by
  rcases @bytes_join path other h with ⟨hbytes, hempty | ⟨front, hfront⟩⟩ | ⟨hbytes, hne⟩
  · rw [isAbsolute, isAbsolute, hbytes, hempty, List.nil_append]
    exact h
  · rw [isAbsolute, isAbsolute, hbytes, hfront]
    cases front <;> rfl
  · rw [isAbsolute, isAbsolute, hbytes]
    obtain ⟨b, rest, hpath⟩ := List.exists_cons_of_ne_nil hne
    rw [hpath]
    rfl

theorem segments_join_name (h : IsName name) :
    (path.join ⟨name⟩).segments = path.segments ++ [name] := by
  rw [segments_join (isAbsolute_ofName h), segments_ofName h]

theorem isAbsolute_join_name (h : IsName name) :
    (path.join ⟨name⟩).isAbsolute = path.isAbsolute :=
  isAbsolute_join (isAbsolute_ofName h)

theorem endsInSlash_join_name (h : IsName name) : (path.join ⟨name⟩).endsInSlash = false := by
  have hname := endsInSlash_ofName h
  have hlast : ∀ front, (front ++ name).getLast? = name.getLast? := fun front => by
    rw [List.getLast?_append, List.getLast?_eq_some_getLast h.ne_nil, Option.some_or]
  rw [endsInSlash] at hname ⊢
  rcases @bytes_join path ⟨name⟩ (isAbsolute_ofName h) with ⟨hbytes, -⟩ | ⟨hbytes, -⟩
  · rw [hbytes, hlast, hname]
  · rw [hbytes, List.append_cons, hlast, hname]

theorem components_join_name (h : IsName name) :
    (path.join ⟨name⟩).components = path.components ++ [.name name] := by
  have hcomponent : [name].filterMap componentOf = [.name name] := by
    simp [componentOf, h.ne_dot, h.ne_dotDot]
  have hhead : (path.segments ++ [name]).head? = some dot ↔ path.segments.head? = some dot := by
    cases path.segments with
    | nil => simp [h.ne_dot]
    | cons first rest => rfl
  rw [components, components, segments_join_name h, isAbsolute_join_name h, List.filterMap_append,
    hcomponent]
  by_cases habsolute : path.isAbsolute
  · rw [if_pos habsolute, if_pos habsolute, List.cons_append]
  · rw [if_neg habsolute, if_neg habsolute]
    by_cases hdot : path.segments.head? = some dot
    · rw [if_pos hdot, if_pos (hhead.2 hdot), List.cons_append]
    · rw [if_neg hdot, if_neg fun hdot' => hdot (hhead.1 hdot')]

theorem same_join_name_iff {more : Bytes} (h : IsName name) (hmore : IsName more) :
    (path.join ⟨name⟩).same (path.join ⟨more⟩) = true ↔ name = more := by
  rw [same, beq_iff_eq, components_join_name h, components_join_name hmore,
    List.append_cancel_left_eq, List.singleton_inj, Component.name.injEq]

end ScriptPlugins.Path
