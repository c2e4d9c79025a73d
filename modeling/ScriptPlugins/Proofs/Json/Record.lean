import Mathlib.Data.List.Forall2
import Mathlib.Data.List.Nodup
import ScriptPlugins.Json.Record

/-!
# The parts of a record

What a record is read from are its parts, and these are told by the fields that have their names. So
where a field stands does not matter, and one that has none of the names might as well not be there.
-/

namespace ScriptPlugins.Json

variable {name key : String} {names : List String} {value : Json} {values : List Json}
  {fields others : List (Option String × Json)} {exact : Bool}

theorem fieldsNamed_cons_self (name : String) (value : Json)
    (fields : List (Option String × Json)) :
    fieldsNamed name ((some name, value) :: fields) = value :: fieldsNamed name fields := by
  have hself : ((some name : Option String) == some name) = true :=
    beq_self_eq_true (some name)
  rw [fieldsNamed, List.filter_cons, if_pos hself]
  rfl

theorem fieldsNamed_cons_of_ne (h : key ≠ name) (value : Json)
    (fields : List (Option String × Json)) :
    fieldsNamed name ((some key, value) :: fields) = fieldsNamed name fields := by
  have hne : ¬((some key : Option String) == some name) = true := by
    rw [beq_iff_eq, Option.some.injEq]
    exact h
  rw [fieldsNamed, List.filter_cons, if_neg hne]
  rfl

/-- A part is there if exactly one field has its name, and missing if none has. -/
theorem part?_eq_some_iff {part : Option Json} :
    part? fields name = some part ↔ fieldsNamed name fields = part.toList := by
  rw [part?]
  split
  · next hnone => cases part <;> simp [hnone]
  · next hone => cases part <;> simp [hone]
  · next hnone hone =>
    cases part with
    | none => exact ⟨nofun, fun h => (hnone h).elim⟩
    | some value => exact ⟨nofun, fun h => (hone value h).elim⟩

theorem part?_cons_of_ne (h : key ≠ name) (value : Json) (fields : List (Option String × Json)) :
    part? ((some key, value) :: fields) name = part? fields name := by
  rw [part?, part?, fieldsNamed_cons_of_ne h]

theorem part?_cons_self_iff {part : Option Json} :
    part? ((some name, value) :: fields) name = some part ↔
      part = some value ∧ fieldsNamed name fields = [] := by
  rw [part?_eq_some_iff, fieldsNamed_cons_self]
  cases part with
  | none => exact ⟨nofun, fun h => nomatch h.1⟩
  | some found =>
      rw [Option.toList_some, List.cons.injEq, Option.some.injEq, eq_comm]

/-- The order of the fields does not matter. -/
theorem part?_perm (h : fields.Perm others) (name : String) :
    part? fields name = part? others name := by
  have hnamed : (fieldsNamed name fields).Perm (fieldsNamed name others) := (h.filter _).map _
  refine Option.ext fun part => ?_
  rw [part?_eq_some_iff, part?_eq_some_iff]
  cases part with
  | none =>
      rw [Option.toList_none]
      constructor
      · intro hfields
        rwa [hfields, List.nil_perm] at hnamed
      · intro hothers
        rwa [hothers, List.perm_nil] at hnamed
  | some value =>
      rw [Option.toList_some]
      constructor
      · intro hfields
        rw [hfields, List.singleton_perm] at hnamed
        exact hnamed.symm
      · intro hothers
        rwa [hothers, List.perm_singleton] at hnamed

theorem mapM_congr {α β : Type} {f g : α → Option β} {list : List α}
    (h : ∀ item ∈ list, f item = g item) : list.mapM f = list.mapM g := by
  induction list with
  | nil => rfl
  | cons item rest ih =>
      rw [List.mapM_cons, List.mapM_cons, h item List.mem_cons_self,
        ih fun other hother => h other (List.mem_cons_of_mem _ hother)]

theorem mapM_eq_some_iff_forall₂ {α β : Type} {f : α → Option β} {list : List α}
    {results : List β} : list.mapM f = some results ↔
      List.Forall₂ (fun item result => f item = some result) list results := by
  induction list generalizing results with
  | nil => simp
  | cons item rest ih =>
      rw [List.mapM_cons, List.forall₂_cons_left_iff]
      simp only [Option.bind_eq_bind, Option.bind_eq_some_iff, Option.pure_def, Option.some.injEq,
        ih]
      constructor
      · rintro ⟨result, hresult, others, hothers, rfl⟩
        exact ⟨result, others, hresult, hothers, rfl⟩
      · rintro ⟨result, others, hresult, hothers, rfl⟩
        exact ⟨result, hresult, others, hothers, rfl⟩

theorem parts?_object_iff {parts : List (Option Json)} :
    parts? exact names (.object fields) = some parts ↔ fields.all (·.1.isSome) = true ∧
      List.Forall₂ (fun name part => part? fields name = some part) names parts := by
  rw [parts?, ← mapM_eq_some_iff_forall₂]
  split
  · exact (and_iff_right ‹_›).symm
  · exact ⟨fun h => absurd h nofun, fun h => absurd h.1 ‹_›⟩

theorem parts?_cons (h : key ∉ names) (exact : Bool) (value : Json)
    (fields : List (Option String × Json)) :
    parts? exact names (.object ((some key, value) :: fields)) =
      parts? exact names (.object fields) := by
  have hparts : names.mapM (part? ((some key, value) :: fields)) = names.mapM (part? fields) := by
    refine mapM_congr fun name hname => part?_cons_of_ne ?_ value fields
    rintro rfl
    exact h hname
  rw [parts?, parts?, hparts, List.all_cons, Option.isSome_some, Bool.true_and]

theorem parts?_perm (h : fields.Perm others) (exact : Bool) (names : List String) :
    parts? exact names (.object fields) = parts? exact names (.object others) := by
  have hnamed : fields.all (·.1.isSome) = others.all (·.1.isSome) := h.all_eq
  rw [parts?, parts?, hnamed, mapM_congr fun name _ => part?_perm h name]

theorem fieldsNamed_of_notMem (h : name ∉ names) (values : List Json) :
    fieldsNamed name ((names.zip values).map fun (name, value) => (some name, value)) = [] := by
  induction names generalizing values with
  | nil => rfl
  | cons first rest ih =>
      rw [List.mem_cons, not_or] at h
      cases values with
      | nil => rfl
      | cons value more =>
          rw [List.zip_cons_cons, List.map_cons, fieldsNamed_cons_of_ne (Ne.symm h.1)]
          exact ih h.2 more

theorem forall₂_fieldsNamed (hnodup : names.Nodup) (hlength : names.length = values.length) :
    List.Forall₂ (fun name value => fieldsNamed name
      ((names.zip values).map fun (name, value) => (some name, value)) = [value]) names values := by
  induction names generalizing values with
  | nil =>
      obtain rfl := List.length_eq_zero_iff.1 hlength.symm
      exact .nil
  | cons name rest ih =>
      obtain ⟨value, more, rfl⟩ := List.exists_cons_of_length_eq_add_one hlength.symm
      obtain ⟨hname, hrest⟩ := List.nodup_cons.1 hnodup
      simp only [List.zip_cons_cons, List.map_cons]
      refine .cons ?_ ?_
      · rw [fieldsNamed_cons_self, fieldsNamed_of_notMem hname]
      · have hother : ∀ other ∈ rest, name ≠ other :=
          fun other hmem heq => hname (heq ▸ hmem)
        refine ((List.forall₂_and_left _ _).2 ⟨hother, ih hrest (Nat.succ.inj hlength)⟩).imp ?_
        rintro other value ⟨hne, hfields⟩
        rw [fieldsNamed_cons_of_ne hne, hfields]

/-- A record that is written with all its parts has these parts. -/
theorem parts?_ofFields (exact : Bool) (hnodup : names.Nodup)
    (hlength : names.length = values.length) :
    parts? exact names (.ofFields (names.zip values)) = some (values.map some) := by
  have hnamed : ((names.zip values).map fun (name, value) =>
      ((some name : Option String), value)).all (·.1.isSome) = true := by
    rw [List.all_map, List.all_eq_true]
    intro _ _
    rfl
  rw [ofFields, parts?_object_iff, List.forall₂_map_right_iff]
  exact ⟨hnamed, (forall₂_fieldsNamed hnodup hlength).imp
    fun _ _ h => part?_eq_some_iff.2 h⟩

/-- What an object has under a name, or a list in the place of the name. -/
def partIn? (names : List String) (name : String) : Json → Option Json
  | .object fields => fields.lookup (some name)
  | .list items => items[names.idxOf name]?
  | _ => none

end ScriptPlugins.Json
