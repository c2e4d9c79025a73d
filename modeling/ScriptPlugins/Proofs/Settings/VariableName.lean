import Mathlib.Data.List.Forall2
import ScriptPlugins.Proofs.Text.Capital
import ScriptPlugins.Proofs.Text.Letter
import ScriptPlugins.Proofs.Text.Pieces
import ScriptPlugins.Settings.Environment

/-!
# Every path has a variable

The names of settings are in camel case, and the name of a variable has underscores instead of
capitals. The way there is upper snake case, with two underscores between the names of a path. It can
be undone because the underscores do not get mixed up: the one for a capital has the capital right
behind it, so two of them meet only between names, and a pair between names is gone before the single
ones are looked at.

Each character of a name is spelled as one or two characters, and `Spells` is all that reading has to
know about them. So both readings, the one that looks for pairs and the one that looks for single
underscores, go through a name from character to character, whatever stands behind it.
-/

namespace ScriptPlugins

open Text Identifier

namespace Text

variable {c : Char} {text : List Char}

theorem toUpper_of_beyond (h : 0x80 ≤ c.toNat) : c.toUpper = c := by
  apply dif_neg
  rintro ⟨-, hhigh⟩
  have hlast : c.toNat ≤ 'z'.toNat := UInt32.le_iff_toNat_le.1 hhigh
  exact absurd (Nat.le_trans h hlast) (by decide)

theorem toLower_of_beyond (h : 0x80 ≤ c.toNat) : c.toLower = c := by
  apply dif_neg
  rintro ⟨-, hhigh⟩
  have hlast : c.toNat ≤ 'Z'.toNat := UInt32.le_iff_toNat_le.1 hhigh
  exact absurd (Nat.le_trans h hlast) (by decide)

theorem toLower_of_ascii : ∀ code ∈ List.range 0x80,
    (Char.ofNat code).toLower.toLower = (Char.ofNat code).toLower ∧
      (Char.ofNat code).toUpper.toLower = (Char.ofNat code).toLower := by
  decide +kernel

/-- A change of case is undone by lower case. -/
theorem toLower_recased (c : Char) :
    c.toLower.toLower = c.toLower ∧ c.toUpper.toLower = c.toLower := by
  rcases Nat.lt_or_ge c.toNat 0x80 with hascii | hbeyond
  · have hlower := toLower_of_ascii c.toNat (List.mem_range.2 hascii)
    rwa [Char.ofNat_toNat] at hlower
  · rw [toUpper_of_beyond hbeyond, toLower_of_beyond hbeyond, toLower_of_beyond hbeyond]
    exact ⟨rfl, rfl⟩

theorem dropWhile_isBlank_of_isPart (h : ∀ c ∈ text, isPart c = true) :
    text.dropWhile isBlank = text := by
  cases text with
  | nil => rfl
  | cons c rest =>
      apply List.dropWhile_cons_of_neg
      intro hblank
      have hpart := h c List.mem_cons_self
      rw [not_isPart_of_isBlank hblank] at hpart
      cases hpart

theorem trim_of_isPart (h : ∀ c ∈ text, isPart c = true) : trim text = text := by
  have hreverse : ∀ c ∈ text.reverse, isPart c = true :=
    fun c hc => h c (List.mem_reverse.1 hc)
  rw [trim, trimEnd, dropWhile_isBlank_of_isPart h, dropWhile_isBlank_of_isPart hreverse,
    List.reverse_reverse]

end Text

namespace Variable

variable {c : Char} {name rest text : List Char} {names : List (List Char)}

/-- A name in camel case: a small letter of ASCII, then letters and digits of ASCII. -/
def isName : List Char → Bool
  | [] => false
  | c :: rest => c.isLower && rest.all Char.isAlphanum

/-- A capital with an underscore before it, and anything else in upper case. -/
def spell (c : Char) : List Char :=
  if c.isUpper then ['_', c] else [c.toUpper]

/-- A name in upper snake case. -/
def snake (name : List Char) : List Char :=
  name.flatMap spell

/-- The names of a path in upper snake case, with two underscores between them. -/
def written (names : List (List Char)) : List Char :=
  List.intercalate ['_', '_'] (names.map snake)

/-- The text is the same but for the case of letters of ASCII. -/
def Recased (text other : List Char) : Prop :=
  List.Forall₂ (fun c d => d = c ∨ d = c.toLower ∨ d = c.toUpper) text other

/-- What can stand for a character of a name. Behind the underscore for a capital there is no other one,
and upper case brings the capital back when case is lost. -/
inductive Spells : Char → List Char → Prop where
  | same {c : Char} (hc : c ≠ '_') (hupper : c.toUpper ≠ '_') (hpart : isPart c.toUpper = true)
      (hback : c.toUpper.toLower = c) : Spells c [c.toUpper]
  | capital {c : Char} (hc : c ≠ '_') (hlower : c.toLower ≠ '_') (hpart : isPart c = true)
      (hback : upper c.toLower = [c]) : Spells c ['_', c]

theorem of_isAlphanum_ascii : ∀ code ∈ List.range 0x80, let c := Char.ofNat code
    c.isAlphanum = true → c ≠ '_' ∧ isPart c = true ∧ isPart c.toUpper = true ∧
      (c.isUpper = true → c.toLower ≠ '_' ∧ upper c.toLower = [c]) ∧
      (c.isUpper = false → c.toUpper ≠ '_' ∧ c.toUpper.toLower = c) := by
  decide +kernel

theorem ascii_of_isAlphanum (h : c.isAlphanum = true) : c.toNat < 0x80 := by
  have hlast : ∀ d : Char, d.toNat < 0x80 → c.val ≤ d.val → c.toNat < 0x80 := by
    intro d hd hle
    exact Nat.lt_of_le_of_lt (UInt32.le_iff_toNat_le.1 hle) hd
  rcases Bool.or_eq_true_iff.1 h with hletter | hdigit
  · rcases Bool.or_eq_true_iff.1 hletter with hupper | hlower
    · exact hlast 'Z' (by decide) (of_decide_eq_true hupper).2
    · exact hlast 'z' (by decide) (of_decide_eq_true (Bool.and_eq_true_iff.1 hlower).2)
  · exact hlast '9' (by decide) (of_decide_eq_true (Bool.and_eq_true_iff.1 hdigit).2)

theorem spells_spell (h : c.isAlphanum = true) : Spells c (spell c) := by
  have hfacts := of_isAlphanum_ascii c.toNat (List.mem_range.2 (ascii_of_isAlphanum h))
  rw [Char.ofNat_toNat] at hfacts
  obtain ⟨hc, hpart, hpartUpper, hcapital, hsame⟩ := hfacts h
  rw [spell]
  by_cases hupper : c.isUpper = true
  · rw [if_pos hupper]
    obtain ⟨hlower, hback⟩ := hcapital hupper
    exact .capital hc hlower hpart hback
  · rw [if_neg hupper]
    obtain ⟨hne, hback⟩ := hsame (Bool.eq_false_iff.2 hupper)
    exact .same hc hne hpartUpper hback

theorem isAlphanum_of_isName (h : isName name = true) : ∀ c ∈ name, c.isAlphanum = true := by
  cases name with
  | nil => cases h
  | cons first rest =>
      obtain ⟨hfirst, hrest⟩ := Bool.and_eq_true_iff.1 h
      rw [List.all_eq_true] at hrest
      intro c hc
      rcases List.mem_cons.1 hc with rfl | hc
      · exact Bool.or_eq_true_iff.2 (.inl (Bool.or_eq_true_iff.2 (.inr hfirst)))
      · exact hrest c hc

theorem written_cons_cons (name next : List Char) (more : List (List Char)) :
    written (name :: next :: more) = snake name ++ '_' :: '_' :: written (next :: more) := by
  simp [written]

theorem separate_cons (h : c ≠ '_' ∨ rest.head? ≠ some '_') :
    separate (c :: rest) = c :: separate rest := by
  rw [separate]
  rintro more rfl rfl
  exact h.elim (fun hc => hc rfl) fun hrest => hrest rfl

/-- No pair of underscores ends in a name or starts in it. -/
theorem separate_spells {spelling : List Char} (h : Spells c spelling) (rest : List Char) :
    separate (spelling ++ rest) = spelling ++ separate rest := by
  cases h with
  | same _ hupper => exact separate_cons (.inl hupper)
  | capital hc =>
      have hhead : (c :: rest).head? ≠ some '_' := by simpa using hc
      calc separate ('_' :: c :: rest)
          = '_' :: separate (c :: rest) := separate_cons (.inr hhead)
        _ = '_' :: c :: separate rest := by rw [separate_cons (.inl hc)]

theorem raise_spells {spelling : List Char} (h : Spells c spelling) (rest : List Char) :
    raise false (spelling.map Char.toLower ++ rest) = c :: raise false rest := by
  cases h with
  | same hc _ _ hback => simp [raise, hback, hc]
  | capital _ hlower _ hback =>
      have hunderscore : Char.toLower '_' = '_' := by decide
      simp [raise, hunderscore, hlower, hback]

theorem isPart_of_spells {spelling : List Char} (h : Spells c spelling) :
    ∀ d ∈ spelling, isPart d = true := by
  cases h with
  | same _ _ hpart => simpa using hpart
  | capital _ _ hpart =>
      have hunderscore : isPart '_' = true := by decide
      simpa [hunderscore] using hpart

theorem separate_snake (h : ∀ c ∈ name, c.isAlphanum = true) (rest : List Char) :
    separate (snake name ++ rest) = snake name ++ separate rest := by
  induction name with
  | nil => rfl
  | cons c name ih =>
      obtain ⟨hc, hname⟩ := List.forall_mem_cons.1 h
      have hsnake : snake (c :: name) = spell c ++ snake name := rfl
      rw [hsnake, List.append_assoc, separate_spells (spells_spell hc), ih hname, List.append_assoc]

theorem raise_snake (h : ∀ c ∈ name, c.isAlphanum = true) (rest : List Char) :
    raise false ((snake name).map Char.toLower ++ rest) = name ++ raise false rest := by
  induction name with
  | nil => rfl
  | cons c name ih =>
      obtain ⟨hc, hname⟩ := List.forall_mem_cons.1 h
      have hsnake : snake (c :: name) = spell c ++ snake name := rfl
      rw [hsnake, List.map_append, List.append_assoc, raise_spells (spells_spell hc), ih hname,
        List.cons_append]

theorem isPart_of_mem_snake (h : ∀ c ∈ name, c.isAlphanum = true) :
    ∀ d ∈ snake name, isPart d = true := by
  intro d hd
  obtain ⟨c, hc, hd⟩ := List.mem_flatMap.1 hd
  exact isPart_of_spells (spells_spell (h c hc)) d hd

theorem separate_written (h : ∀ name ∈ names, isName name = true) :
    separate (written names) = join '.' (names.map snake) := by
  induction names with
  | nil => rfl
  | cons name more ih =>
      obtain ⟨hname, hmore⟩ := List.forall_mem_cons.1 h
      have hsnake := separate_snake (isAlphanum_of_isName hname)
      cases more with
      | nil =>
          have hlast := hsnake []
          simpa [written, separate, join] using hlast
      | cons next more =>
          calc separate (written (name :: next :: more))
              = separate (snake name ++ '_' :: '_' :: written (next :: more)) := by
                rw [written_cons_cons]
            _ = snake name ++ separate ('_' :: '_' :: written (next :: more)) := hsnake _
            _ = snake name ++ '.' :: separate (written (next :: more)) := by rw [separate]
            _ = join '.' ((name :: next :: more).map snake) := by rw [ih hmore]; rfl

theorem camelCaseKey_join_snake (h : ∀ name ∈ names, isName name = true) :
    camelCaseKey (join '.' (names.map snake)) = join '.' names := by
  induction names with
  | nil => rfl
  | cons name more ih =>
      obtain ⟨hname, hmore⟩ := List.forall_mem_cons.1 h
      have hsnake := raise_snake (isAlphanum_of_isName hname)
      cases more with
      | nil =>
          have hlast := hsnake []
          simpa [camelCaseKey, join, raise] using hlast
      | cons next more =>
          have hdot : Char.toLower '.' = '.' := by decide
          have hrest := ih hmore
          rw [camelCaseKey] at hrest ⊢
          calc raise false ((join '.' ((name :: next :: more).map snake)).map Char.toLower)
              = raise false ((snake name).map Char.toLower ++
                  '.' :: (join '.' ((next :: more).map snake)).map Char.toLower) := by
                simp [join, hdot]
            _ = name ++ raise false ('.' :: (join '.' ((next :: more).map snake)).map Char.toLower) :=
                hsnake _
            _ = name ++ '.' :: join '.' (next :: more) := by rw [← hrest]; rfl

theorem isPart_of_mem_written (h : ∀ name ∈ names, isName name = true) :
    ∀ c ∈ written names, isPart c = true := by
  induction names with
  | nil => nofun
  | cons name more ih =>
      obtain ⟨hname, hmore⟩ := List.forall_mem_cons.1 h
      have hsnake := isPart_of_mem_snake (isAlphanum_of_isName hname)
      cases more with
      | nil => simpa [written] using hsnake
      | cons next more =>
          have hunderscore : isPart '_' = true := by decide
          rw [written_cons_cons, List.forall_mem_append, List.forall_mem_cons, List.forall_mem_cons]
          exact ⟨hsnake, hunderscore, hunderscore, ih hmore⟩

theorem dot_notMem_of_isName (h : isName name = true) : '.' ∉ name := by
  intro hdot
  exact absurd (isAlphanum_of_isName h '.' hdot) (by decide)

/-- The name of a variable in upper snake case is read as the path it was made for. -/
theorem path?_written (hne : names ≠ []) (h : ∀ name ∈ names, isName name = true) :
    path? (String.ofList (marker ++ written names)) = some (names.map String.ofList) := by
  have hmarker : marker.all isPart = true := by decide
  have htrim : trim (marker ++ written names) = marker ++ written names := by
    apply trim_of_isPart
    rw [List.forall_mem_append]
    exact ⟨List.all_eq_true.1 hmarker, isPart_of_mem_written h⟩
  have hupper : marker.map Char.toUpper = marker := by decide
  have hpieces : pieces '.' (join '.' names) = names :=
    pieces_join '.' hne fun name hname => dot_notMem_of_isName (h name hname)
  have hfull : names.any List.isEmpty = false := by
    rw [List.any_eq_false]
    intro name hname hempty
    have hisName := h name hname
    rw [List.isEmpty_iff.1 hempty] at hisName
    cases hisName
  simp only [path?, String.toList_ofList, htrim, List.take_left, List.drop_left, hupper,
    separate_written h, camelCaseKey_join_snake h, hpieces, hfull]
  simp

theorem map_toLower_of_recased {other : List Char} (h : Recased text other) :
    other.map Char.toLower = text.map Char.toLower := by
  induction h with
  | nil => rfl
  | @cons c d text other hcase _ ih =>
      obtain ⟨hlower, hupper⟩ := toLower_recased c
      have hd : d.toLower = c.toLower := by
        rcases hcase with rfl | rfl | rfl
        · rfl
        · exact hlower
        · exact hupper
      rw [List.map_cons, List.map_cons, hd, ih]

theorem underscore_notMem_raise (pending : Bool) (text : List Char) : '_' ∉ raise pending text := by
  fun_induction raise pending text with
  | case1 => exact List.not_mem_nil
  | case2 _ rest ih => exact ih
  | case3 c rest hc ih =>
      rw [List.mem_append, not_or]
      exact ⟨fun hmem => hc (eq_of_underscore_mem_upper hmem), ih⟩
  | case4 _ c rest hc _ ih =>
      rw [List.mem_cons, not_or]
      exact ⟨fun heq => hc heq.symm, ih⟩

/-- **Every path has a variable.** Whatever names in camel case a path is made of, in upper snake case
with two underscores between them they are read as the path again, by themselves and in the name of a
variable. The case of the letters in a key does not count, and no underscore is left of it. -/
theorem variables_name_every_path :
    (∀ names : List (List Char), names ≠ [] → (∀ name ∈ names, isName name = true) →
      camelCaseKey (separate (written names)) = join '.' names ∧
        path? (String.ofList (marker ++ written names)) = some (names.map String.ofList)) ∧
      (∀ key other, Recased key other → camelCaseKey other = camelCaseKey key) ∧
      ∀ key, '_' ∉ camelCaseKey key := by
  refine ⟨?_, ?_, ?_⟩
  · intro names hne h
    refine ⟨?_, path?_written hne h⟩
    rw [separate_written h, camelCaseKey_join_snake h]
  · intro key other hcase
    rw [camelCaseKey, camelCaseKey, map_toLower_of_recased hcase]
  · exact fun key => underscore_notMem_raise false _

/-- Capitals next to each other and next to digits, and a letter beyond ASCII that is put in upper case. -/
theorem variables_name_every_path_digits :
    isName "x1BC2d".toList = true ∧ written ["a".toList, "x1BC2d".toList] = "A__X1_B_C2D".toList ∧
      camelCaseKey (separate "A__X1_B_C2D".toList) = "a.x1BC2d".toList ∧
      path? "PLUGSCRIPT__A__X1_B_C2D" = some ["a", "x1BC2d"] ∧
      camelCaseKey "B__ß".toList = camelCaseKey "b__ß".toList ∧
      camelCaseKey "b__ß".toList = "bSS".toList := by
  have hnames : ∀ name ∈ ["a".toList, "x1BC2d".toList], isName name = true := by decide
  have hwritten : written ["a".toList, "x1BC2d".toList] = "A__X1_B_C2D".toList := by decide
  obtain ⟨hpaths, hcase, -⟩ := variables_name_every_path
  obtain ⟨hkey, hpath⟩ := hpaths _ (List.cons_ne_nil _ _) hnames
  rw [hwritten] at hkey hpath
  have hrecased : Recased "b__\u00df".toList "B__\u00df".toList :=
    .cons (.inr (.inr (by decide))) (.cons (.inl rfl) (.cons (.inl rfl) (.cons (.inl rfl) .nil)))
  exact ⟨hnames _ (by decide), hwritten, hkey, hpath, hcase _ _ hrecased, by decide +kernel⟩

end Variable

end ScriptPlugins
