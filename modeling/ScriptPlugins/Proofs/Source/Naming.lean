import ScriptPlugins.Proofs.Text.Capital
import ScriptPlugins.Source.Naming

/-!
# Names from file names

The class of a wrapper is made from a stem by joining its words. A separator goes only together with
the small letter behind it, which stays as a capital; any other separator is still there in the class,
and no identifier has one. So the stems of valid classes are those whose words all start with small
letters, but for the first word: its first letter is capitalized like that of any text, and that can
make several characters of it.

The name of the compiled class is made legal first and capitalized afterwards. So it is an identifier
unless the upper-case form of its first letter has a mark in it: see `isMarked`.
-/

namespace ScriptPlugins

open Text Identifier

theorem Identifier.isTypeName_iff {name : String} {c : Char} {rest : List Char}
    (h : name.toList = c :: rest) :
    isTypeName name = true ↔ isCapital c = true ∧ ∀ d ∈ rest, isPart d = true := by
  rw [isTypeName, h, Bool.and_eq_true, List.all_eq_true]

theorem Identifier.notMem_of_isTypeName {name : String} {c : Char} (h : isTypeName name = true)
    (hcapital : isCapital c = false) (hpart : isPart c = false) : c ∉ name.toList := by
  cases hname : name.toList with
  | nil => nofun
  | cons first rest =>
      obtain ⟨hfirst, hrest⟩ := (isTypeName_iff hname).1 h
      intro hmem
      rcases List.mem_cons.1 hmem with rfl | hmem
      · rw [hfirst] at hcapital
        cases hcapital
      · rw [hrest c hmem] at hpart
        cases hpart

theorem Identifier.isQualified_iff {name : String} (hdot : '.' ∉ name.toList) :
    isQualified name = true ↔ isPlain name.toList = true := by
  rw [isQualified, pieces_of_not_mem _ _ hdot, List.all_cons, List.all_nil, Bool.and_true]

theorem Identifier.isQualified_append_iff {space name : String} :
    isQualified (space ++ "." ++ name) = true ↔ isQualified space = true ∧ isQualified name = true := by
  have htext : (space ++ "." ++ name).toList = space.toList ++ '.' :: name.toList := by
    simp
  rw [isQualified, htext, pieces_append, List.all_append, Bool.and_eq_true, isQualified, isQualified]

namespace Naming

variable {c d : Char} {text rest : List Char}

/-- What stands between the words of a stem. -/
def isSeparator (c : Char) : Bool :=
  c == '-' || c == '.'

theorem isSeparator_iff : isSeparator c = true ↔ c = '-' ∨ c = '.' := by
  simp [isSeparator]

/-- A letter that joining words makes a capital of. -/
structure Small (c : Char) : Prop where
  word : isSeparator c = false
  isPart : isPart c = true
  isPart_toUpper : Identifier.isPart c.toUpper = true
  isCapital : isCapital c.toUpper = true
  upper : upper c = [c.toUpper]
  upper_toUpper : Text.upper c.toUpper = [c.toUpper]

theorem small_ascii : ∀ code ∈ List.range' 0x61 26,
    let c := Char.ofNat code
    isSeparator c = false ∧ isPart c = true ∧ isPart c.toUpper = true ∧ isCapital c.toUpper = true ∧
      upper c = [c.toUpper] ∧ upper c.toUpper = [c.toUpper] := by
  decide +kernel

theorem small_of_isLower (h : c.isLower = true) : Small c := by
  have hcode : c.toNat ∈ List.range' 0x61 26 := by
    rw [List.mem_range'_1]
    obtain ⟨hlow, hhigh⟩ := Bool.and_eq_true_iff.1 h
    have hlow := UInt32.le_iff_toNat_le.1 (of_decide_eq_true hlow)
    have hhigh := UInt32.le_iff_toNat_le.1 (of_decide_eq_true hhigh)
    exact ⟨hlow, Nat.lt_succ_of_le hhigh⟩
  have hfacts := small_ascii c.toNat hcode
  rw [Char.ofNat_toNat] at hfacts
  obtain ⟨hword, hpart, hpartUpper, hcapital, hupper, hfixed⟩ := hfacts
  exact ⟨hword, hpart, hpartUpper, hcapital, hupper, hfixed⟩

/-- Every separator stands right before a small letter of ASCII. -/
def Separated (text : List Char) : Prop :=
  ∀ front c back, text = front ++ c :: back → isSeparator c = true →
    ∃ d rest, back = d :: rest ∧ d.isLower = true

/-- The same, character by character. -/
inductive Spaced : List Char → Prop where
  | nil : Spaced []
  | char {c : Char} {rest : List Char} (h : isSeparator c = false) (hrest : Spaced rest) :
      Spaced (c :: rest)
  | word {c d : Char} {rest : List Char} (h : isSeparator c = true) (hd : d.isLower = true)
      (hrest : Spaced rest) : Spaced (c :: d :: rest)

/-- The words of a stem put together, all but the first with a capital. -/
def joined (text : List Char) : List Char :=
  joinWords (text.map fun c => if c = '.' then '-' else c)

theorem toList_wrapperClass (stem : String) :
    (wrapperClass stem).toList = capitalize (joined stem.toList) := by
  rw [wrapperClass, pascalCase, String.toList_ofList, String.toList_ofList, joined]

theorem joined_char (h : isSeparator c = false) : joined (c :: rest) = c :: joined rest := by
  rw [Bool.eq_false_iff, Ne, isSeparator_iff, not_or] at h
  rw [joined, List.map_cons, if_neg h.2, joinWords]
  · rfl
  · intro d more heq
    exact absurd heq h.1

theorem joined_word (h : isSeparator c = true) (hd : d.isLower = true) :
    joined (c :: d :: rest) = d.toUpper :: joined rest := by
  have hdot : d ≠ '.' := by
    rintro rfl
    exact absurd hd (by decide)
  have hhyphen : (if c = '.' then '-' else c) = '-' := by
    rcases isSeparator_iff.1 h with rfl | rfl <;> rfl
  rw [joined, List.map_cons, List.map_cons, hhyphen, if_neg hdot, joinWords, if_pos hd, joined]

/-- A separator before anything else is kept, as a hyphen. -/
theorem hyphen_mem_joined (h : isSeparator c = true)
    (hrest : ∀ d more, rest = d :: more → d.isLower = false) : '-' ∈ joined (c :: rest) := by
  have hhyphen : (if c = '.' then '-' else c) = '-' := by
    rcases isSeparator_iff.1 h with rfl | rfl <;> rfl
  rw [joined, List.map_cons, hhyphen]
  cases rest with
  | nil => exact List.mem_singleton_self _
  | cons d more =>
      have hd : (if d = '.' then '-' else d).isLower = false := by
        by_cases hdot : d = '.'
        · rw [if_pos hdot]
          rfl
        · rw [if_neg hdot]
          exact hrest d more rfl
      rw [List.map_cons, joinWords, if_neg (by rw [hd]; exact Bool.false_ne_true)]
      exact List.mem_cons_self

theorem spaced_of_hyphen_notMem (h : '-' ∉ joined text) : Spaced text := by
  induction hlength : text.length using Nat.strongRecOn generalizing text with
  | ind length ih =>
      subst hlength
      cases text with
      | nil => exact .nil
      | cons c rest =>
          by_cases hc : isSeparator c = true
          · cases rest with
            | nil => exact absurd (hyphen_mem_joined hc (by intro _ _ heq; cases heq)) h
            | cons d more =>
                by_cases hd : d.isLower = true
                · rw [joined_word hc hd] at h
                  refine .word hc hd (ih more.length ?_ (fun hmem => h ?_) rfl)
                  · simp only [List.length_cons]
                    omega
                  · exact List.mem_cons_of_mem _ hmem
                · refine absurd (hyphen_mem_joined hc ?_) h
                  rintro e others heq
                  rw [← (List.cons.inj heq).1]
                  exact Bool.eq_false_iff.2 hd
          · rw [Bool.not_eq_true] at hc
            rw [joined_char hc] at h
            refine .char hc (ih rest.length ?_ (fun hmem => h ?_) rfl)
            · simp only [List.length_cons]
              omega
            · exact List.mem_cons_of_mem _ hmem

theorem Separated.tail (h : Separated (c :: rest)) : Separated rest := by
  intro front d back heq hd
  exact h (c :: front) d back (by rw [heq, List.cons_append]) hd

theorem spaced_iff : Spaced text ↔ Separated text := by
  constructor
  · intro h
    induction h with
    | nil =>
        intro front c back heq
        exact absurd heq (by simp)
    | @char c rest hc _ ih =>
        intro front d back heq hd
        cases front with
        | nil =>
            obtain ⟨rfl, -⟩ := List.cons.inj heq
            rw [hc] at hd
            cases hd
        | cons first front => exact ih front d back (List.cons.inj heq).2 hd
    | @word c d rest hc hd _ ih =>
        intro front e back heq he
        rcases front with - | ⟨first, - | ⟨second, front⟩⟩
        · exact ⟨d, rest, (List.cons.inj heq).2.symm, hd⟩
        · obtain ⟨rfl, -⟩ := List.cons.inj (List.cons.inj heq).2
          rw [(small_of_isLower hd).word] at he
          cases he
        · exact ih front e back (List.cons.inj (List.cons.inj heq).2).2 he
  · intro h
    apply spaced_of_hyphen_notMem
    induction hlength : text.length using Nat.strongRecOn generalizing text with
    | ind length ih =>
        subst hlength
        cases text with
        | nil => nofun
        | cons c rest =>
            by_cases hc : isSeparator c = true
            · obtain ⟨d, more, rfl, hd⟩ := h [] c rest rfl hc
              rw [joined_word hc hd, List.mem_cons, not_or]
              refine ⟨?_, ih more.length ?_ h.tail.tail rfl⟩
              · intro hhyphen
                have hpart := (small_of_isLower hd).isPart_toUpper
                rw [← hhyphen] at hpart
                exact absurd hpart (by decide)
              · simp only [List.length_cons]
                omega
            · rw [Bool.not_eq_true] at hc
              rw [joined_char hc, List.mem_cons, not_or]
              refine ⟨?_, ih rest.length (Nat.lt_succ_self _) h.tail rfl⟩
              rintro rfl
              cases hc

/-- The words of a stem, with nothing between two separators as a word. -/
def words (text : List Char) : List (List Char) :=
  text.splitOnP isSeparator

theorem words_char (h : isSeparator c = false) {first : List Char} {others : List (List Char)}
    (hwords : words rest = first :: others) : words (c :: rest) = (c :: first) :: others := by
  rw [words, List.splitOnP_cons_eq_if_modifyHead, if_neg (by rw [h]; exact Bool.false_ne_true)]
  rw [← words, hwords, List.modifyHead_cons]

theorem words_separator (h : isSeparator c = true) : words (c :: rest) = [] :: words rest := by
  rw [words, List.splitOnP_cons_eq_if_modifyHead, if_pos h, words]

/-- Joining leaves the first word alone and capitalizes all others. -/
theorem joined_eq (h : Spaced text) : ∃ first others, words text = first :: others ∧
    joined text = first ++ others.flatMap capitalize := by
  induction h with
  | nil => exact ⟨[], [], rfl, rfl⟩
  | @char c rest hc _ ih =>
      obtain ⟨first, others, hwords, hjoined⟩ := ih
      refine ⟨c :: first, others, words_char hc hwords, ?_⟩
      rw [joined_char hc, hjoined, List.cons_append]
  | @word c d rest hc hd _ ih =>
      obtain ⟨first, others, hwords, hjoined⟩ := ih
      have hsmall := small_of_isLower hd
      refine ⟨[], (d :: first) :: others, ?_, ?_⟩
      · rw [words_separator hc, words_char hsmall.word hwords]
      · rw [joined_word hc hd, hjoined, List.flatMap_cons, capitalize_cons, hsmall.upper]
        rfl

theorem capitalize_joined (h : Spaced text) :
    capitalize (joined text) = (words text).flatMap capitalize := by
  cases h with
  | nil => rfl
  | @char c rest hc hrest =>
      obtain ⟨first, others, hwords, hjoined⟩ := joined_eq hrest
      rw [joined_char hc, capitalize_cons, hjoined, words_char hc hwords, List.flatMap_cons,
        capitalize_cons, List.append_assoc]
  | @word c d rest hc hd hrest =>
      obtain ⟨first, others, hwords, hjoined⟩ := joined_eq hrest
      have hsmall := small_of_isLower hd
      rw [joined_word hc hd, capitalize_cons, hsmall.upper_toUpper, words_separator hc,
        words_char hsmall.word hwords, hjoined, List.flatMap_cons, List.flatMap_cons,
        capitalize_nil, capitalize_cons, hsmall.upper, List.nil_append, List.append_assoc]

theorem isPart_joined_iff (h : Spaced text) : (∀ c ∈ joined text, isPart c = true) ↔
    ∀ c ∈ text, isSeparator c = false → isPart c = true := by
  induction h with
  | nil => exact ⟨nofun, nofun⟩
  | @char c rest hc _ ih =>
      rw [joined_char hc, List.forall_mem_cons, List.forall_mem_cons, ih]
      exact and_congr_left' ⟨fun hpart _ => hpart, fun hpart => hpart hc⟩
  | @word c d rest hc hd _ ih =>
      have hsmall := small_of_isLower hd
      rw [joined_word hc hd, List.forall_mem_cons, List.forall_mem_cons, List.forall_mem_cons, ih]
      constructor
      · rintro ⟨-, hrest⟩
        refine ⟨?_, fun _ => hsmall.isPart, hrest⟩
        rw [hc]
        nofun
      · rintro ⟨-, -, hrest⟩
        exact ⟨hsmall.isPart_toUpper, hrest⟩

/-- The stems whose classes are type names. -/
structure Acceptable (stem : List Char) : Prop where
  separated : Separated stem
  /-- The characters of the words, but for the first character. -/
  parts : ∀ c ∈ stem.tail, isSeparator c = false → isPart c = true
  first : ∃ c rest, stem = c :: rest ∧ (isSeparator c = true ∨
    ∃ d more, upper c = d :: more ∧ isCapital d = true ∧ ∀ e ∈ more, isPart e = true)

/-- Capitalizing leaves a character that is its own capital where it is. -/
theorem mem_capitalize (hupper : upper c = [c]) (h : c ∈ text) : c ∈ capitalize text := by
  cases text with
  | nil => cases h
  | cons d rest =>
      rw [capitalize_cons, List.mem_append]
      rcases List.mem_cons.1 h with rfl | h
      · rw [hupper]
        exact .inl List.mem_cons_self
      · exact .inr h

theorem separated_of_isTypeName {stem : String} (h : isTypeName (wrapperClass stem) = true) :
    Separated stem.toList := by
  rw [← spaced_iff]
  apply spaced_of_hyphen_notMem
  intro hhyphen
  refine notMem_of_isTypeName h (c := '-') (by decide) (by decide) ?_
  rw [toList_wrapperClass]
  exact mem_capitalize (by decide) hhyphen

theorem isTypeName_iff_of_spaced {name : String} (h : Spaced text)
    (hname : name.toList = capitalize (joined text)) :
    isTypeName name = true ↔ Acceptable text := by
  have hseparated := spaced_iff.1 h
  cases h with
  | nil =>
      rw [isTypeName, hname]
      exact ⟨nofun, fun ⟨_, _, c, rest, heq, _⟩ => nomatch heq⟩
  | @char c rest hc hrest =>
      obtain ⟨d, more, hupper⟩ := List.exists_cons_of_ne_nil (upper_ne_nil c)
      rw [joined_char hc, capitalize_cons, hupper, List.cons_append] at hname
      rw [isTypeName_iff hname, List.forall_mem_append, isPart_joined_iff hrest]
      constructor
      · rintro ⟨hcapital, hmore, hparts⟩
        exact ⟨hseparated, hparts, c, rest, rfl, .inr ⟨d, more, hupper, hcapital, hmore⟩⟩
      · rintro ⟨-, hparts, _, _, heq, hfirst⟩
        obtain ⟨rfl, rfl⟩ := List.cons.inj heq
        rcases hfirst with hsep | ⟨e, others, hupper', hcapital, hothers⟩
        · rw [hc] at hsep
          cases hsep
        · obtain ⟨rfl, rfl⟩ := List.cons.inj (hupper.symm.trans hupper')
          exact ⟨hcapital, hothers, hparts⟩
  | @word c d rest hc hd hrest =>
      have hsmall := small_of_isLower hd
      rw [joined_word hc hd, capitalize_cons, hsmall.upper_toUpper, List.singleton_append] at hname
      rw [isTypeName_iff hname, isPart_joined_iff hrest]
      constructor
      · rintro ⟨-, hparts⟩
        refine ⟨hseparated, ?_, c, d :: rest, rfl, .inl hc⟩
        rw [List.tail_cons, List.forall_mem_cons]
        exact ⟨fun _ => hsmall.isPart, hparts⟩
      · rintro ⟨-, hparts, -⟩
        rw [List.tail_cons, List.forall_mem_cons] at hparts
        exact ⟨hsmall.isCapital, hparts.2⟩

theorem isTypeName_wrapperClass_iff {stem : String} :
    isTypeName (wrapperClass stem) = true ↔ Acceptable stem.toList := by
  constructor
  · intro h
    have hspaced := spaced_iff.2 (separated_of_isTypeName h)
    exact (isTypeName_iff_of_spaced hspaced (toList_wrapperClass stem)).1 h
  · intro h
    have hspaced := spaced_iff.2 h.separated
    exact (isTypeName_iff_of_spaced hspaced (toList_wrapperClass stem)).2 h

/-- A character that cannot be part of a class, and is no separator, is not in the stem either. -/
theorem notMem_stem {stem : String} (h : isTypeName (wrapperClass stem) = true)
    (hcapital : isCapital c = false) (hpart : isPart c = false) (hseparator : isSeparator c = false)
    (hupper : upper c = [c]) : c ∉ stem.toList := by
  obtain ⟨-, hparts, first, rest, hstem, hfirst⟩ := isTypeName_wrapperClass_iff.1 h
  rw [hstem] at hparts ⊢
  intro hmem
  rcases List.mem_cons.1 hmem with rfl | hmem
  · rcases hfirst with hc | ⟨d, more, hcons, hd, -⟩
    · rw [hseparator] at hc
      cases hc
    · obtain ⟨rfl, -⟩ := List.cons.inj (hupper.symm.trans hcons)
      rw [hcapital] at hd
      cases hd
  · rw [hparts c hmem hseparator] at hpart
    cases hpart

/-- The class of an acceptable stem is its words, each with a capital. -/
theorem wrapperClass_eq {stem : String} (h : Acceptable stem.toList) :
    wrapperClass stem = String.ofList ((words stem.toList).flatMap capitalize) := by
  rw [← capitalize_joined (spaced_iff.2 h.separated), ← toList_wrapperClass, String.ofList_toList]

theorem dropExtension_cases (text : List Char) :
    dropExtension text = text ∨ ∃ extension, text = dropExtension text ++ '.' :: extension := by
  have hsplit := List.takeWhile_append_dropWhile (p := (· != '.')) (l := text.reverse)
  rw [dropExtension]
  cases hdrop : text.reverse.dropWhile (· != '.') with
  | nil => exact .inl rfl
  | cons dot stem =>
      have hdot : dot = '.' := by
        have hhead := List.head?_dropWhile_not (· != '.') text.reverse
        rw [hdrop] at hhead
        simpa using hhead
      refine .inr ⟨(text.reverse.takeWhile (· != '.')).reverse, ?_⟩
      rw [hdrop, hdot] at hsplit
      calc text = (text.reverse.takeWhile (· != '.') ++ '.' :: stem).reverse := by
            rw [hsplit, List.reverse_reverse]
        _ = stem.reverse ++ '.' :: (text.reverse.takeWhile (· != '.')).reverse := by
            simp only [List.reverse_append, List.reverse_cons, List.append_assoc,
              List.singleton_append]

/-- What the legal form of a text starts with: an underscore if the text starts with nothing that can
come first in an identifier. -/
def initial (text : List Char) : Char :=
  (text.head?.filter isStart).getD '_'

theorem isStart_initial (text : List Char) : isStart (initial text) = true := by
  rw [initial]
  cases hfilter : text.head?.filter isStart with
  | none => decide
  | some c => exact (Option.filter_eq_some_iff.1 hfilter).2

theorem isMarked_initial_iff : isMarked (initial text) = true ↔
    ∃ c, text.head? = some c ∧ isMarked c = true := by
  rw [initial]
  constructor
  · intro h
    cases hfilter : text.head?.filter isStart with
    | none =>
        rw [hfilter] at h
        exact absurd h (by decide)
    | some c =>
        rw [hfilter] at h
        exact ⟨c, (Option.filter_eq_some_iff.1 hfilter).1, h⟩
  · rintro ⟨c, hhead, hmarked⟩
    rw [hhead, Option.filter_some, if_pos (isStart_of_isMarked hmarked)]
    exact hmarked

theorem initial_dropExtension (text : List Char) : initial (dropExtension text) = initial text := by
  rcases dropExtension_cases text with h | ⟨extension, h⟩
  · rw [h]
  · cases hstem : dropExtension text with
    | nil =>
        rw [hstem, List.nil_append] at h
        rw [h]
        rfl
    | cons c rest =>
        rw [hstem, List.cons_append] at h
        rw [h]
        rfl

theorem legalize_eq (text : List Char) : ∃ rest, legalize text = initial text :: rest ∧
    ∀ d ∈ rest, isPart d = true := by
  have hlegal : ∀ d ∈ text.map fun c => if isPart c then c else '_', isPart d = true := by
    intro d hd
    obtain ⟨c, -, rfl⟩ := List.mem_map.1 hd
    split
    · assumption
    · decide
  cases text with
  | nil => exact ⟨[], rfl, nofun⟩
  | cons c rest =>
      have hinitial : initial (c :: rest) = if isStart c then c else '_' := by
        rw [initial, List.head?_cons, Option.filter_some, apply_ite (Option.getD · '_')]
        rfl
      rw [hinitial, legalize, List.map_cons]
      rw [List.map_cons] at hlegal
      by_cases hstart : isStart c = true
      · refine ⟨_, ?_, (List.forall_mem_cons.1 hlegal).2⟩
        simp only [isPart_of_isStart hstart, hstart, if_true]
      · rw [if_neg hstart]
        by_cases hpart : isPart c = true
        · refine ⟨_, ?_, hlegal⟩
          simp only [hpart, hstart, if_true, Bool.false_eq_true, if_false]
        · refine ⟨_, ?_, (List.forall_mem_cons.1 hlegal).2⟩
          have hunderscore : isStart '_' = true := by decide
          simp only [hpart, hunderscore, Bool.false_eq_true, if_true, if_false]

theorem toList_compiledClass (fileName : String) : ∃ rest,
    (compiledClass fileName).toList = upper (initial fileName.toList) ++ rest ∧
      ∀ d ∈ rest, isPart d = true := by
  obtain ⟨rest, hlegal, hrest⟩ := legalize_eq (dropExtension fileName.toList)
  refine ⟨rest, ?_, hrest⟩
  rw [compiledClass, String.toList_ofList, hlegal, initial_dropExtension, capitalize_cons]

theorem sign_notMem_compiledClass (fileName : String) {sign : Char} (hsign : sign ∈ signs) :
    sign ∉ (compiledClass fileName).toList := by
  have hpart := isPart_of_mem_signs hsign
  obtain ⟨rest, hclass, hrest⟩ := toList_compiledClass fileName
  rw [hclass, List.mem_append, not_or]
  constructor
  · intro hmem
    have hinitial := isPart_of_isStart (isStart_initial fileName.toList)
    rw [eq_of_sign_mem_upper hsign hmem, hpart] at hinitial
    cases hinitial
  · intro hmem
    rw [hrest sign hmem] at hpart
    cases hpart

theorem dot_notMem_compiledClass (fileName : String) : '.' ∉ (compiledClass fileName).toList :=
  sign_notMem_compiledClass fileName (by decide)

theorem isPlain_compiledClass_iff {fileName : String} :
    isPlain (compiledClass fileName).toList = true ↔ isMarked (initial fileName.toList) = false := by
  obtain ⟨rest, hclass, hrest⟩ := toList_compiledClass fileName
  have hstart := isStart_initial fileName.toList
  obtain ⟨d, more, hupper, hd⟩ := exists_upper hstart
  rw [← all_isPart_upper_iff hstart, hclass, hupper, List.cons_append, isPlain, hd, Bool.true_and,
    List.all_append, List.all_eq_true.2 hrest, Bool.and_true, List.all_cons, isPart_of_isStart hd,
    Bool.true_and]

theorem isQualified_compiledClass_iff {fileName : String} :
    isQualified (compiledClass fileName) = true ↔
      ∀ c, fileName.toList.head? = some c → isMarked c = false := by
  rw [isQualified_iff (dot_notMem_compiledClass fileName), isPlain_compiledClass_iff,
    Bool.eq_false_iff, Ne, isMarked_initial_iff, not_exists]
  exact forall_congr' fun c => by rw [not_and, ← Ne, ← Bool.eq_false_iff]

theorem dropSuffix_prefix (suffix text : List Char) : dropSuffix suffix text <+: text := by
  rw [dropSuffix]
  split
  · exact List.take_prefix _ _
  · exact List.prefix_rfl

/-- A letter whose mark gets separated from it starts no type name. -/
theorem Acceptable.isMarked_eq_false {stem : List Char} (h : Acceptable stem)
    (hhead : stem.head? = some c) : isMarked c = false := by
  obtain ⟨_, rest, rfl, hfirst⟩ := h.first
  obtain rfl := Option.some.inj hhead
  rw [Bool.eq_false_iff]
  intro hmarked
  have hstart := isStart_of_isMarked hmarked
  rcases hfirst with hseparator | ⟨d, more, hupper, -, hmore⟩
  · rcases isSeparator_iff.1 hseparator with rfl | rfl
    · exact absurd hstart (by decide)
    · exact absurd hstart (by decide)
  · obtain ⟨e, others, hupper', he⟩ := exists_upper hstart
    obtain ⟨rfl, rfl⟩ := List.cons.inj (hupper.symm.trans hupper')
    have hall := all_isPart_upper_iff hstart
    rw [hupper, List.all_cons, isPart_of_isStart he, List.all_eq_true.2 hmore, hmarked] at hall
    cases hall.1 rfl

/-- A file whose wrapper can have its class compiles to a legal class, too. -/
theorem isQualified_compiledClass_of_isTypeName {fileName suffix : String}
    (h : isTypeName (wrapperClass (stem fileName suffix)) = true) :
    isQualified (compiledClass fileName) = true := by
  have hacceptable := isTypeName_wrapperClass_iff.1 h
  rw [stem, String.toList_ofList] at hacceptable
  obtain ⟨more, hmore⟩ := dropSuffix_prefix suffix.toList fileName.toList
  obtain ⟨first, rest, hfirst, -⟩ := hacceptable.first
  rw [isQualified_compiledClass_iff]
  intro c hhead
  apply hacceptable.isMarked_eq_false
  rw [← hmore, hfirst] at hhead
  rw [hfirst]
  exact hhead

end Naming

end ScriptPlugins
