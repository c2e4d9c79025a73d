import Mathlib.Data.List.Nodup
import ScriptPlugins.Proofs.Json.Record

/-!
# Values laid over one another

What stands under a name after one value was laid over another: what the upper one has there, laid
over what the lower one has. Where the upper value is no object, or the lower one is none, nothing of
the lower one is left. All of this is about values without null and with one field to a name, as
settings files and variables give them.
-/

namespace ScriptPlugins.Json

variable {name : String} {json below above : Json}
  {fields others : List (Option String × Json)}

section Fields

variable {κ ν : Type} [BEq κ] [LawfulBEq κ] [DecidableEq κ]

omit [BEq κ] [LawfulBEq κ] in
theorem map_fst_replace (key : κ) (value : ν) (fields : List (κ × ν)) :
    (fields.map fun field => if field.1 = key then (key, value) else field).map Prod.fst =
      fields.map Prod.fst := by
  rw [List.map_map]
  refine List.map_congr_left fun field _ => ?_
  rw [Function.comp_apply]
  split
  · exact (‹field.1 = key›).symm
  · rfl

omit [BEq κ] [LawfulBEq κ] in
theorem mem_replace {key : κ} {value : ν} {fields : List (κ × ν)} {field : κ × ν}
    (h : field ∈ fields.map fun field => if field.1 = key then (key, value) else field) :
    field = (key, value) ∨ field ∈ fields := by
  obtain ⟨before, hmem, rfl⟩ := List.mem_map.1 h
  split
  · exact .inl rfl
  · exact .inr hmem

omit [DecidableEq κ] in
theorem notMem_of_lookup_eq_none {key : κ} {fields : List (κ × ν)}
    (h : fields.lookup key = none) : key ∉ fields.map Prod.fst := by
  rw [List.lookup_eq_none_iff] at h
  rintro hmem
  obtain ⟨field, hfield, rfl⟩ := List.mem_map.1 hmem
  exact bne_iff_ne.1 (h field hfield) rfl

omit [DecidableEq κ] in
theorem nodup_append_of_lookup_eq_none {key : κ} {fields : List (κ × ν)}
    (hnames : (fields.map Prod.fst).Nodup) (h : fields.lookup key = none) (value : ν) :
    ((fields ++ [(key, value)]).map Prod.fst).Nodup := by
  rw [List.map_append, List.nodup_append]
  refine ⟨hnames, List.nodup_singleton key, ?_⟩
  rintro other hother _ hkey rfl
  rw [List.mem_singleton.1 hkey] at hother
  exact notMem_of_lookup_eq_none h hother

end Fields

/-- A value without null, and with no two fields of one name. -/
inductive Tidy : Json → Prop where
  | bool (value : Bool) : Tidy (.bool value)
  | number (literal : String) : Tidy (.number literal)
  | text (value : Option String) : Tidy (.text value)
  | list {items : List Json} (h : ∀ item ∈ items, Tidy item) : Tidy (.list items)
  | object {fields : List (Option String × Json)} (hnames : (fields.map Prod.fst).Nodup)
      (h : ∀ field ∈ fields, Tidy field.2) : Tidy (.object fields)

theorem Tidy.lookup {key : Option String} (htidy : Tidy (.object fields))
    (h : fields.lookup key = some json) : json.Tidy := by
  cases htidy with
  | object _ hfields =>
      obtain ⟨_, _, rfl, -⟩ := List.lookup_eq_some_iff.1 h
      exact hfields _ (List.mem_append_right _ List.mem_cons_self)

def IsObject (json : Json) : Prop :=
  ∃ fields, json = .object fields

/-- What stands under a name in an object. -/
def field? (name : String) : Json → Option Json
  | .object fields => fields.lookup (some name)
  | _ => none

theorem Tidy.field? (htidy : json.Tidy) (h : json.field? name = some above) : above.Tidy := by
  cases htidy with
  | object hnames hfields => exact (Tidy.object hnames hfields).lookup h
  | _ => cases h

theorem overlay_of_not_isObject (h : ¬(below.IsObject ∧ above.IsObject)) :
    below.overlay above = above := by
  rw [overlay]
  rintro fields others rfl rfl
  exact h ⟨⟨fields, rfl⟩, ⟨others, rfl⟩⟩

theorem tidy_overlayFields (hothers : (Json.object others).Tidy)
    (hoverlay : ∀ field ∈ others, ∀ below : Json, below.Tidy → (below.overlay field.2).Tidy)
    (hfields : (Json.object fields).Tidy) : (Json.object (overlayFields fields others)).Tidy := by
  induction others generalizing fields with
  | nil =>
      rw [overlayFields]
      exact hfields
  | cons field rest ih =>
      obtain ⟨first, value⟩ := field
      cases hothers with
      | object hnames htidy =>
          rw [List.map_cons, List.nodup_cons] at hnames
          have hrest : (Json.object rest).Tidy :=
            .object hnames.2 fun field hmem => htidy field (List.mem_cons_of_mem _ hmem)
          have hmore := fun field hmem => hoverlay field (List.mem_cons_of_mem _ hmem)
          rw [overlayFields]
          cases hbelow : fields.lookup first with
          | none =>
              refine ih hrest hmore ?_
              cases hfields with
              | object hdistinct hinner =>
                  refine .object ?_ fun field hmem => ?_
                  · exact nodup_append_of_lookup_eq_none hdistinct hbelow value
                  · rcases List.mem_append.1 hmem with hmem | hmem
                    · exact hinner field hmem
                    · rw [List.mem_singleton.1 hmem]
                      exact htidy _ List.mem_cons_self
          | some below =>
              refine ih hrest hmore ?_
              have hmerged := hoverlay _ List.mem_cons_self below (hfields.lookup hbelow)
              cases hfields with
              | object hdistinct hinner =>
                  refine .object ?_ fun field hmem => ?_
                  · rwa [map_fst_replace]
                  · rcases mem_replace hmem with rfl | hmem
                    · exact hmerged
                    · exact hinner field hmem

theorem Tidy.overlay (hbelow : below.Tidy) (habove : above.Tidy) :
    (below.overlay above).Tidy := by
  induction habove generalizing below with
  | object hnames hothers ih =>
      by_cases hobject : below.IsObject
      · obtain ⟨fields, rfl⟩ := hobject
        rw [Json.overlay]
        exact tidy_overlayFields (.object hnames hothers) (fun field hmem below => ih field hmem)
          hbelow
      · rw [overlay_of_not_isObject fun h => hobject h.1]
        exact .object hnames hothers
  | bool value =>
      rw [overlay_of_not_isObject fun ⟨_, _, h⟩ => Json.noConfusion h]
      exact .bool value
  | number literal =>
      rw [overlay_of_not_isObject fun ⟨_, _, h⟩ => Json.noConfusion h]
      exact .number literal
  | text value =>
      rw [overlay_of_not_isObject fun ⟨_, _, h⟩ => Json.noConfusion h]
      exact .text value
  | list h =>
      rw [overlay_of_not_isObject fun ⟨_, _, h⟩ => Json.noConfusion h]
      exact .list h

end ScriptPlugins.Json
