import ScriptPlugins.Proofs.Json.Overlay
import ScriptPlugins.Toml.Table

/-!
# Tables without two fields of one name

A table is tidy if the object is that it stands for. Whatever puts a tidy value somewhere into tidy
tables leaves them tidy, because a name that is there already gets no second field.
-/

namespace ScriptPlugins.Toml

variable {fields result inner : Fields} {node : Node} {items : List Fields} {name key : String}
  {value : Json}

theorem fieldsToJson_eq_map (fields : Fields) :
    fieldsToJson fields = fields.map fun field => (some field.1, field.2.toJson) := by
  induction fields with
  | nil => rfl
  | cons field rest ih => rw [fieldsToJson, ih, List.map_cons]

theorem tablesToJson_eq_map (items : List Fields) :
    tablesToJson items = items.map fun fields => .object (fieldsToJson fields) := by
  induction items with
  | nil => rfl
  | cons fields rest ih => rw [tablesToJson, ih, List.map_cons]

namespace Fields

def Tidy (fields : Fields) : Prop :=
  (Json.object (fieldsToJson fields)).Tidy

theorem tidy_iff : Tidy fields ↔
    (fields.map Prod.fst).Nodup ∧ ∀ field ∈ fields, field.2.toJson.Tidy := by
  have hnames : ((fieldsToJson fields).map Prod.fst).Nodup ↔ (fields.map Prod.fst).Nodup := by
    rw [fieldsToJson_eq_map, List.map_map,
      show (Prod.fst ∘ fun field : String × Node => (some field.1, field.2.toJson)) =
        some ∘ Prod.fst from rfl, ← List.map_map]
    exact List.nodup_map_iff fun _ _ => Option.some.inj
  rw [Tidy, ← hnames]
  constructor
  · intro h
    cases h with
    | object hnodup hfields =>
        refine ⟨hnodup, fun field hmem => hfields (some field.1, field.2.toJson) ?_⟩
        rw [fieldsToJson_eq_map]
        exact List.mem_map.2 ⟨field, hmem, rfl⟩
  · rintro ⟨hnodup, hfields⟩
    refine .object hnodup fun field hmem => ?_
    rw [fieldsToJson_eq_map] at hmem
    obtain ⟨before, hbefore, rfl⟩ := List.mem_map.1 hmem
    exact hfields before hbefore

theorem tidy_nil : Tidy [] :=
  tidy_iff.2 ⟨.nil, nofun⟩

end Fields

theorem tidy_table {origin : Origin} : (Node.table origin fields).toJson.Tidy ↔ fields.Tidy := by
  rw [Node.toJson]
  rfl

theorem tidy_tables : (Node.tables items).toJson.Tidy ↔ ∀ fields ∈ items, fields.Tidy := by
  rw [Node.toJson, tablesToJson_eq_map]
  constructor
  · intro h fields hmem
    cases h with
    | list h => exact h _ (List.mem_map.2 ⟨fields, hmem, rfl⟩)
  · intro h
    refine .list fun item hmem => ?_
    obtain ⟨fields, hfields, rfl⟩ := List.mem_map.1 hmem
    exact h fields hfields

theorem tidy_append (hitems : ∀ fields ∈ items, fields.Tidy) (hinner : inner.Tidy) :
    (Node.tables (items ++ [inner])).toJson.Tidy := by
  refine tidy_tables.2 fun fields hmem => ?_
  rcases List.mem_append.1 hmem with hmem | hmem
  · exact hitems fields hmem
  · rwa [List.mem_singleton.1 hmem]

/-- The last of several tables may be replaced. -/
theorem tidy_dropLast_append (hitems : ∀ fields ∈ items, fields.Tidy) (hinner : inner.Tidy) :
    (Node.tables (items.dropLast ++ [inner])).toJson.Tidy :=
  tidy_append (fun fields hmem => hitems fields (List.dropLast_subset items hmem)) hinner

namespace Fields

theorem Tidy.lookup (htidy : fields.Tidy) (h : fields.lookup name = some node) :
    node.toJson.Tidy := by
  obtain ⟨_, _, rfl, -⟩ := List.lookup_eq_some_iff.1 h
  exact (tidy_iff.1 htidy).2 _ (List.mem_append_right _ List.mem_cons_self)

theorem Tidy.set (htidy : fields.Tidy) (hnode : node.toJson.Tidy) (name : String) :
    (fields.set name node).Tidy := by
  obtain ⟨hnames, hfields⟩ := tidy_iff.1 htidy
  rw [Fields.set]
  split
  · refine tidy_iff.2 ⟨by rwa [Json.map_fst_replace], fun field hmem => ?_⟩
    rcases Json.mem_replace hmem with rfl | hmem
    · exact hnode
    · exact hfields field hmem
  · next hlookup =>
    rw [Option.isSome_iff_ne_none, not_not] at hlookup
    refine tidy_iff.2 ⟨?_, fun field hmem => ?_⟩
    · exact Json.nodup_append_of_lookup_eq_none hnames hlookup node
    · rcases List.mem_append.1 hmem with hmem | hmem
      · exact hfields field hmem
      · rwa [List.mem_singleton.1 hmem]

theorem Tidy.insert (hvalue : value.Tidy) {path : List String} (htidy : fields.Tidy)
    (h : Fields.insert key value path fields = some result) : result.Tidy := by
  induction path generalizing fields result with
  | nil =>
      rw [Fields.insert] at h
      split at h
      · cases h
      · obtain rfl := Option.some.inj h
        exact htidy.set (by rwa [Node.toJson]) key
  | cons name path ih =>
      rw [Fields.insert] at h
      split at h
      · obtain ⟨inner, hinner, hresult⟩ := Option.bind_eq_some_iff.1 h
        obtain rfl := Option.some.inj hresult
        exact htidy.set (tidy_table.2 (ih tidy_nil hinner)) name
      · next hlookup =>
        split at h
        · cases h
        · obtain ⟨inner, hinner, hresult⟩ := Option.bind_eq_some_iff.1 h
          obtain rfl := Option.some.inj hresult
          exact htidy.set (tidy_table.2 (ih (tidy_table.1 (htidy.lookup hlookup)) hinner)) name
      · next hlookup =>
        split at h
        · cases h
        · obtain ⟨last, hlast, h⟩ := Option.bind_eq_some_iff.1 h
          obtain ⟨inner, hinner, hresult⟩ := Option.bind_eq_some_iff.1 h
          obtain rfl := Option.some.inj hresult
          have hitems := tidy_tables.1 (htidy.lookup hlookup)
          have hlasttidy := hitems last (List.mem_of_getLast? hlast)
          exact htidy.set (tidy_dropLast_append hitems (ih hlasttidy hinner)) name
      · cases h

/-- Changing a table keeps all tidy if the change keeps that table tidy. -/
theorem Tidy.modify {change : Fields → Option Fields}
    (hchange : ∀ {fields result : Fields}, fields.Tidy → change fields = some result → result.Tidy)
    {path : List String} (htidy : fields.Tidy)
    (h : Fields.modify change path fields = some result) : result.Tidy := by
  induction path generalizing fields result with
  | nil => exact hchange htidy h
  | cons name path ih =>
      rw [Fields.modify] at h
      split at h
      · obtain ⟨inner, hinner, hresult⟩ := Option.bind_eq_some_iff.1 h
        obtain rfl := Option.some.inj hresult
        exact htidy.set (tidy_table.2 (ih tidy_nil hinner)) name
      · next hlookup =>
        obtain ⟨inner, hinner, hresult⟩ := Option.bind_eq_some_iff.1 h
        obtain rfl := Option.some.inj hresult
        exact htidy.set (tidy_table.2 (ih (tidy_table.1 (htidy.lookup hlookup)) hinner)) name
      · next hlookup =>
        obtain ⟨last, hlast, h⟩ := Option.bind_eq_some_iff.1 h
        obtain ⟨inner, hinner, hresult⟩ := Option.bind_eq_some_iff.1 h
        obtain rfl := Option.some.inj hresult
        have hitems := tidy_tables.1 (htidy.lookup hlookup)
        have hlasttidy := hitems last (List.mem_of_getLast? hlast)
        exact htidy.set (tidy_dropLast_append hitems (ih hlasttidy hinner)) name
      · cases h

section Fill

variable {fill : Fields → Option Fields}
  (hfill : ∀ {fields result : Fields}, fields.Tidy → fill fields = some result → result.Tidy)

include hfill

theorem Tidy.openTable (htidy : fields.Tidy) (h : Fields.openTable fill name fields = some result) :
    result.Tidy := by
  rw [Fields.openTable] at h
  split at h
  · obtain ⟨before, hbefore, h⟩ := Option.bind_eq_some_iff.1 h
    obtain ⟨filled, hfilled, hresult⟩ := Option.bind_eq_some_iff.1 h
    obtain rfl := Option.some.inj hbefore
    obtain rfl := Option.some.inj hresult
    exact htidy.set (tidy_table.2 (hfill tidy_nil hfilled)) name
  · next hlookup =>
    obtain ⟨before, hbefore, h⟩ := Option.bind_eq_some_iff.1 h
    obtain ⟨filled, hfilled, hresult⟩ := Option.bind_eq_some_iff.1 h
    obtain rfl := Option.some.inj hbefore
    obtain rfl := Option.some.inj hresult
    have hinner := tidy_table.1 (htidy.lookup hlookup)
    exact htidy.set (tidy_table.2 (hfill hinner hfilled)) name
  · cases h

theorem Tidy.openRepeated (htidy : fields.Tidy)
    (h : Fields.openRepeated fill name fields = some result) : result.Tidy := by
  rw [Fields.openRepeated] at h
  split at h
  · obtain ⟨before, hbefore, h⟩ := Option.bind_eq_some_iff.1 h
    obtain ⟨filled, hfilled, hresult⟩ := Option.bind_eq_some_iff.1 h
    obtain rfl := Option.some.inj hbefore
    obtain rfl := Option.some.inj hresult
    exact htidy.set (tidy_append (List.forall_mem_nil _) (hfill tidy_nil hfilled)) name
  · next hlookup =>
    obtain ⟨before, hbefore, h⟩ := Option.bind_eq_some_iff.1 h
    obtain ⟨filled, hfilled, hresult⟩ := Option.bind_eq_some_iff.1 h
    obtain rfl := Option.some.inj hbefore
    obtain rfl := Option.some.inj hresult
    have hinner := tidy_tables.1 (htidy.lookup hlookup)
    exact htidy.set (tidy_append hinner (hfill tidy_nil hfilled)) name
  · cases h

end Fill

end Fields

end ScriptPlugins.Toml
