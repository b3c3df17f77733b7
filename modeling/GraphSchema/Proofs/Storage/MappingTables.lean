import GraphSchema.Proofs.Json.Records
import GraphSchema.Proofs.Storage.Columns
import GraphSchema.Storage.Mapping

/-!
# Mapping tables of layouts

A mapping table is filled slot by slot, and an entry would take the place of an
earlier one of its key. This never happens: the key of an entry is the name that
its slot takes up among the columns of the type, and these names are claimed from
one pool. So each property that is stored keeps its one entry, and the entries of
columns are told apart from those of collections by their keys.
-/

namespace GraphSchema

namespace Storage

open Relational (Column primaryKey)

variable {graph : TypeGraph} {names : TableNames} {layout : Layout} {slot : Slot}

/-! ## Keys of entries -/

/-- Whether a property has a place in the schema. -/
def Slot.isStored (slot : Slot) : Bool :=
  match slot.placement with
  | .dropped _ => false
  | _ => true

/-- Whether an entry is that of a collection of objects. -/
def Entry.isRelation : Entry → Bool
  | .relation .. => true
  | _ => false

/-- The key of an entry is the name that the slot takes up among the columns. -/
theorem Slot.entry?_key (slot : Slot) :
    slot.entry?.map Prod.fst = slot.placement.claimed? := by
  rw [Slot.entry?]
  cases slot.placement with
  | column | foreignKey | junction | dropped => rfl

theorem Slot.isStored_iff (slot : Slot) :
    slot.isStored = true ↔ ∃ entry, slot.entry? = some entry := by
  rw [Slot.isStored, Slot.entry?]
  cases slot.placement with
  | column | foreignKey | junction | dropped => simp

/-- An entry is that of a column exactly when its slot takes up a column, and the
key is the name of the column. -/
theorem Slot.entry?_column (slot : Slot) :
    (slot.entry?.filter fun entry => !entry.2.isRelation).map Prod.fst =
      slot.placement.column?.map Column.name := by
  rw [Slot.entry?]
  cases slot.placement with
  | column | foreignKey | junction | dropped => rfl

namespace LaidOut

theorem entry_keys (layout : Layout) :
    (layout.slots.filterMap Slot.entry?).map Prod.fst =
      layout.slots.filterMap (·.placement.claimed?) := by
  rw [List.map_filterMap]
  exact List.filterMap_congr fun slot _ => slot.entry?_key

/-- No entry of a mapping table is lost. -/
theorem mapping_eq (laid : LaidOut graph names layout) :
    layout.mapping = layout.slots.filterMap Slot.entry? := by
  apply Json.foldl_put
  rw [List.nil_append, entry_keys]
  exact (List.nodup_cons.1 laid.claimed_nodup).2

theorem mapping_keys_nodup (laid : LaidOut graph names layout) :
    (primaryKey :: layout.mapping.map Prod.fst).Nodup := by
  rw [laid.mapping_eq, entry_keys]
  exact laid.claimed_nodup

/-- Each property that is stored has its entry, in the order of the properties. -/
theorem mapping_entries (laid : LaidOut graph names layout) :
    List.Forall₂ (fun slot entry => slot.entry? = some entry)
      (layout.slots.filter Slot.isStored) layout.mapping := by
  rw [laid.mapping_eq]
  exact forall₂_filter_filterMap fun slot _ => slot.isStored_iff

/-- The entries that are not of collections have the columns of the type as their
keys. -/
theorem mapping_columns (laid : LaidOut graph names layout) :
    (layout.mapping.filter fun entry => !entry.2.isRelation).map Prod.fst =
      layout.columns.map Column.name := by
  rw [laid.mapping_eq, List.filter_filterMap, List.map_filterMap,
    Layout.columns, List.map_filterMap]
  exact List.filterMap_congr fun slot _ => slot.entry?_column

/-- Where keys are distinct, the key of a collection is not one of a column. -/
theorem relation_key_not_mem (laid : LaidOut graph names layout)
    {entry : String × Entry} (member : entry ∈ layout.mapping)
    (relation : entry.2.isRelation = true) : entry.1 ∉ layout.columnNames := by
  have keys := List.nodup_cons.1 laid.mapping_keys_nodup
  rw [Layout.columnNames, List.mem_cons, not_or]
  constructor
  · intro same
    exact keys.1 (same ▸ List.mem_map_of_mem member)
  · rw [← laid.mapping_columns]
    intro column
    obtain ⟨other, kept, same⟩ := List.mem_map.1 column
    obtain ⟨present, plain⟩ := List.mem_filter.1 kept
    obtain rfl := List.inj_on_of_nodup_map keys.2 present member same
    simp [relation] at plain

end LaidOut

/-! ## Storage of properties -/

/-- Whether every property of a type has one slot and one field, and every slot of
a property that is stored has one entry in the mapping table, under the name of
its column or, for a collection, under a name that no column has. -/
structure StoresOnce (type : RecordType) (layout : Layout) : Prop where
  slots : layout.slots.map Slot.property = type.properties
  fields : (primaryKey :: layout.slots.map Slot.field).Nodup
  entries : List.Forall₂ (fun slot entry => slot.entry? = some entry)
    (layout.slots.filter Slot.isStored) layout.mapping
  keys : (primaryKey :: layout.mapping.map Prod.fst).Nodup
  columns : (layout.mapping.filter fun entry => !entry.2.isRelation).map Prod.fst =
    layout.columnNames.filter (· ≠ primaryKey)
  collections : ∀ entry ∈ layout.mapping, entry.2.isRelation = true →
    entry.1 ∉ layout.columnNames

/-- The columns after the first one are those that are not the primary key. -/
theorem LaidOut.columnNames_filter (laid : LaidOut graph names layout) :
    layout.columnNames.filter (· ≠ primaryKey) =
      layout.columns.map Column.name := by
  have first := (List.nodup_cons.1 laid.columnNames_nodup).1
  rw [Layout.columnNames, List.filter_cons_of_neg (by simp), List.filter_eq_self]
  intro column member
  have different : column ≠ primaryKey := by
    intro same
    exact first (same ▸ member)
  simpa using different

theorem LaidOut.storesOnce (laid : LaidOut graph names layout) :
    StoresOnce layout.type layout where
  slots := laid.properties
  fields := by
    rw [List.nodup_cons]
    refine ⟨?_, laid.fields_nodup⟩
    intro member
    obtain ⟨slot, present, same⟩ := List.mem_map.1 member
    exact laid.field_ne_primaryKey present same
  entries := laid.mapping_entries
  keys := laid.mapping_keys_nodup
  columns := by rw [laid.mapping_columns, laid.columnNames_filter]
  collections := fun _ => laid.relation_key_not_mem

/-- Every type of a graph has a layout with the allocated tables, and the layout
stores every property of the type once. -/
theorem layout_storesOnce (graph : TypeGraph) (tablePrefix : String)
    (catalog : List String) {type : RecordType} (member : type ∈ graph.types) :
    ∃ layout, Layout.of graph (TableNames.allocate graph tablePrefix catalog)
        type = .ok layout ∧ StoresOnce type layout := by
  have allocated := TableNames.allocate_allocated graph tablePrefix catalog
  obtain ⟨layout, laid, rfl⟩ := allocated.exists_layout member
  exact ⟨layout, laid.made, laid.storesOnce⟩

/-- A type with two properties of one name, a property with the name of the primary
key, and a list with the name of the column of an object. -/
def crowded : TypeGraph where
  types := [⟨"Person", [⟨"id", .scalar .integer, none⟩,
    ⟨"home", .object "Person", none⟩,
    ⟨"person_id", .collection .array (.type "Person"), none⟩,
    ⟨"person_id", .scalar .string, none⟩,
    ⟨"planet", .object "Planet", none⟩]⟩]
  names_nodup := by decide

theorem crowded_storesOnce :
    ∃ type ∈ crowded.types, ∃ layout,
      Layout.of crowded (TableNames.allocate crowded "app" []) type =
        .ok layout ∧
      layout.columnNames = ["id", "id_1", "person_id", "person_id_2"] ∧
      layout.mapping.map Prod.fst =
        ["id_1", "person_id", "person_id_1", "person_id_2"] ∧
      StoresOnce type layout := by
  have member : crowded.types.head (by decide) ∈ crowded.types := by decide
  obtain ⟨layout, made, stores⟩ := layout_storesOnce crowded "app" [] member
  have expected : (Layout.of crowded (TableNames.allocate crowded "app" [])
        (crowded.types.head (by decide))).toOption.map (fun layout =>
          (layout.columnNames, layout.mapping.map Prod.fst)) =
      some (["id", "id_1", "person_id", "person_id_2"],
        ["id_1", "person_id", "person_id_1", "person_id_2"]) := by
    decide +kernel
  rw [made] at expected
  obtain ⟨columns, keys⟩ := Prod.mk.inj (Option.some.inj expected)
  exact ⟨_, member, layout, made, columns, keys, stores⟩

end Storage

end GraphSchema
