import GraphSchema.Proofs.Compilation.Agreement
import GraphSchema.Proofs.Storage.MappingTables

/-!
# Names of properties and fields

The mapping table of a type is for those who write its objects, and names the
properties as the graph does. The queries and shapes of the type are for those who
read, and name its fields, where a name that was given out before gets a number
behind it. So the two use the same names as long as no property is called like the
primary key and no two properties of the type have one name.
-/

namespace GraphSchema

open Query (PartOf)
open Relational (primaryKey)
open Storage

/-! ## Fields of a layout -/

namespace Storage.LaidOut

variable {graph : TypeGraph} {names : TableNames} {layout : Layout}

theorem property_names (laid : LaidOut graph names layout) :
    layout.slots.map (·.property.name) =
      layout.type.properties.map Property.name := by
  rw [← laid.properties, List.map_map]
  rfl

/-- The fields are claims of the names of the properties. -/
theorem fields_claimed (laid : LaidOut graph names layout) :
    layout.slots.map Slot.field =
      (freshPool.claimAll (layout.slots.map (·.property.name))).1 := by
  rw [laid.property_names]
  conv_lhs => rw [laid.slots, slotsOf_fields]

/-- A field has the name of its property exactly when this is neither the primary
key nor the field of an earlier slot. -/
theorem field_eq_name (laid : LaidOut graph names layout)
    {before after : List Slot} {slot : Slot}
    (split : layout.slots = before ++ slot :: after) :
    slot.field = slot.property.name ↔
      slot.property.name ≠ primaryKey ∧
        slot.property.name ∉ before.map Slot.field := by
  have fields := laid.fields_claimed
  rw [split, List.map_append, List.map_append, List.map_cons, List.map_cons,
    Name.Pool.claimAll_append] at fields
  obtain ⟨earlier, later⟩ := List.append_inj fields (by simp)
  rw [Name.Pool.claimAll_cons] at later
  have here := (List.cons.inj later).1
  rw [here, Name.Pool.claim_eq_self, Name.Pool.mem_used_claimAll, ← earlier,
    not_or, and_comm]
  simp [freshPool]

/-- All fields have the names of their properties exactly when these are distinct
and none of them is the primary key. -/
theorem fields_eq_names (laid : LaidOut graph names layout) :
    (∀ slot ∈ layout.slots, slot.field = slot.property.name) ↔
      (primaryKey :: layout.type.properties.map Property.name).Nodup := by
  rw [← List.map_inj_left, laid.fields_claimed, Name.Pool.claimAll_eq_self,
    ← laid.property_names, List.nodup_cons, and_comm]
  refine and_congr_left' ?_
  simp [freshPool]

end Storage.LaidOut

/-! ## Records of slots -/

/-- A slot is stored exactly when a definition with expanded objects shows it. -/
theorem Query.PartOf.isStored_iff {context : Query.Context} {slot : Slot}
    {part : Query.Part} (partOf : PartOf context slot part) :
    slot.isStored = true ↔ ∃ field, part.field = some field := by
  cases partOf with
  | column placement | object placement | collection placement
  | dropped placement => simp [Slot.isStored, placement]

/-- The entry of a slot has the name of its property. -/
theorem Storage.Slot.entry?_property {slot : Slot} {entry : String × Entry}
    (found : slot.entry? = some entry) :
    entry.2.property = slot.property.name := by
  rw [Slot.entry?] at found
  cases placement : slot.placement with
  | column | foreignKey | junction =>
      rw [placement] at found
      cases found
      rfl
  | dropped =>
      rw [placement] at found
      cases found

/-- Whether the artifacts of a type have all of its stored slots: the mapping table
under the names of their properties, the queries and shapes under their fields. -/
structure Recorded (context : Query.Context) (layout : Layout)
    (artifacts : Artifacts) : Prop where
  mapped : List.Forall₂ (fun slot entry => slot.entry? = some entry ∧
      entry.2.property = slot.property.name)
    (layout.slots.filter Slot.isStored) artifacts.mapping
  queried : ∃ fields, artifacts.entityQuery.root.definition =
      (primaryKey, .field primaryKey .integer) :: fields ∧
    List.Forall₂ (fun slot field => ∃ part, PartOf context slot part ∧
        part.field = some field ∧ field.1 = slot.field)
      (layout.slots.filter Slot.isStored) fields
  shaped : ∀ slot ∈ layout.slots.filter Slot.isStored, ∃ shape,
    Shape.ofProperty? context.graph slot.property = some shape ∧
      (slot.field, shape.rename (referenceName layout.type.name)) ∈
        artifacts.entityShape.properties

section

variable {context : Query.Context} {catalog : List String} {layout : Layout}
variable {parts : List Query.Part} {artifacts : Artifacts}

/-- A stored slot has a shape. -/
theorem Storage.LaidOut.exists_shape
    (allocated : context.names.Allocated context.graph catalog)
    (laid : LaidOut context.graph context.names layout)
    (known : ∀ slot ∈ layout.slots, slot.Known context.graph) {slot : Slot}
    (member : slot ∈ layout.slots) (stored : slot.isStored = true) :
    ∃ shape, Shape.ofProperty? context.graph slot.property = some shape := by
  have shown : Query.shownField? slot = some slot.field := by
    rw [Slot.isStored] at stored
    rw [Query.shownField?]
    cases placement : slot.placement with
    | column | foreignKey | junction => rfl
    | dropped =>
        rw [placement] at stored
        cases stored
  rw [shownField?_eq allocated laid member (known slot member)] at shown
  split at shown
  next composite => cases shown
  next plain =>
    obtain ⟨shape, found, _⟩ := Option.map_eq_some_iff.1 shown
    exact ⟨shape, found⟩

theorem Made.recorded (made : Made context layout parts artifacts)
    (allocated : context.names.Allocated context.graph catalog)
    (known : ∀ slot ∈ layout.slots, slot.Known context.graph) :
    Recorded context layout artifacts := by
  have laid := made.expanded.laid
  constructor
  case mapped =>
    rw [made.mapping]
    apply laid.mapping_entries.imp
    intro slot entry found
    exact ⟨found, Slot.entry?_property found⟩
  case queried =>
    refine ⟨parts.filterMap Query.Part.field, by rw [made.entityQuery]; rfl, ?_⟩
    apply (filter_filterMap_of_forall₂ made.expanded.each fun slot part partOf =>
      partOf.isStored_iff).imp
    intro slot field shown
    obtain ⟨part, partOf, found⟩ := shown
    exact ⟨part, partOf, found, partOf.field_name found⟩
  case shaped =>
    intro slot inside
    obtain ⟨member, stored⟩ := List.mem_filter.1 inside
    obtain ⟨shape, found⟩ := laid.exists_shape allocated known member stored
    have field : (slot.field, shape) ∈
        (Shape.fragment context.graph layout).properties :=
      Shape.mem_fragment.2 ⟨slot, member, found, rfl⟩
    refine ⟨shape, found, ?_⟩
    rw [made.properties]
    exact List.mem_cons_of_mem _ (List.mem_map.2 ⟨_, field, rfl⟩)

/-- The mapping table names the properties that are stored, in their order. -/
theorem Recorded.mapping_properties
    (recorded : Recorded context layout artifacts) :
    artifacts.mapping.map (·.2.property) =
      (layout.slots.filter Slot.isStored).map (·.property.name) := by
  have same : List.Forall₂ (fun entry slot => entry = slot)
      (artifacts.mapping.map (·.2.property))
      ((layout.slots.filter Slot.isStored).map (·.property.name)) := by
    rw [List.forall₂_map_left_iff, List.forall₂_map_right_iff]
    apply recorded.mapped.flip.imp
    intro entry slot mapped
    exact mapped.2
  rwa [List.forall₂_eq_eq_eq] at same

end

/-- In a compilation the mapping table of a type has the names of its properties,
and the queries and shapes have the fields of the same slots. The field of a slot,
stored or dropped, is the name of its property exactly when this name is new. -/
theorem compile_recorded {settings : Settings} {graph : TypeGraph}
    {catalog : List String} {compilation : Compilation}
    (made : compile settings graph catalog = .ok compilation)
    {type : RecordType} (member : type ∈ graph.types) :
    let names := TableNames.allocate graph settings.tablePrefix catalog
    ∃ artifacts layout,
      compilation.artifacts? type.name = some artifacts ∧
      LaidOut graph names layout ∧ layout.type = type ∧
      Recorded ⟨graph, names, settings.pageSize⟩ layout artifacts ∧
      (∀ before slot after, layout.slots = before ++ slot :: after →
        (slot.field = slot.property.name ↔
          slot.property.name ≠ primaryKey ∧
            slot.property.name ∉ before.map Slot.field)) ∧
      ((∀ slot ∈ layout.slots, slot.field = slot.property.name) ↔
        (primaryKey :: type.properties.map Property.name).Nodup) ∧
      ((artifacts.mapping.map (·.2.property)).Nodup ↔
        ((layout.slots.filter Slot.isStored).map (·.property.name)).Nodup) := by
  intro names
  obtain ⟨layouts, relations, compiled⟩ := exists_compiled made
  obtain ⟨layout, laid, rfl⟩ := compiled.allocated.exists_layout member
  obtain ⟨artifacts, parts, found, parted⟩ := compiled.exists_made laid
  have recorded := parted.recorded compiled.allocated (compiled.known laid)
  refine ⟨artifacts, layout, found, laid, rfl, recorded, ?_, ?_, ?_⟩
  · intro before slot after
    exact laid.field_eq_name
  · exact laid.fields_eq_names
  · rw [recorded.mapping_properties]

/-- A type with a property that has the name of the primary key, an object and a
union. -/
def notes : TypeGraph where
  types := [⟨"Note", [⟨"title", .scalar .string, none⟩,
    ⟨"id", .scalar .integer, none⟩,
    ⟨"parent", .object "Note", none⟩,
    ⟨"related", .collection .array (.type "Note"), none⟩,
    ⟨"subject", .composite .union ["Note"], none⟩]⟩]
  names_nodup := by decide

theorem notes_recorded :
    ∃ type ∈ notes.types, ∃ compilation artifacts layout,
      compile {} notes [] = .ok compilation ∧
      compilation.artifacts? type.name = some artifacts ∧
      layout.type = type ∧
      Recorded ⟨notes, TableNames.allocate notes "app" [], 16⟩ layout artifacts ∧
      (artifacts.mapping.map (·.2.property)).Nodup ∧
      ¬ ∀ slot ∈ layout.slots, slot.field = slot.property.name := by
  have succeeds : ∃ compilation, compile {} notes [] = .ok compilation := ⟨_, rfl⟩
  have member : notes.types.head (by decide) ∈ notes.types := by decide
  obtain ⟨compilation, made⟩ := succeeds
  obtain ⟨artifacts, layout, found, laid, same, recorded, _, fields, properties⟩ :=
    compile_recorded made member
  refine ⟨_, member, compilation, artifacts, layout, made, found, same, recorded,
    ?_, ?_⟩
  · have distinct : (layout.slots.map (·.property.name)).Nodup := by
      rw [laid.property_names, same]
      decide
    exact properties.2 (distinct.sublist (List.filter_sublist.map _))
  · rw [fields]
    decide

/-- A type with two properties that both have the name of the primary key. -/
def twins : TypeGraph where
  types := [⟨"A", [⟨"id", .scalar .string, none⟩, ⟨"id", .scalar .string, none⟩]⟩]
  names_nodup := by decide

theorem twins_renamed :
    ∃ compilation artifacts layout,
      compile {} twins [] = .ok compilation ∧
      compilation.artifacts? "A" = some artifacts ∧
      Layout.of twins (TableNames.allocate twins "app" [])
        (twins.types.head (by decide)) = .ok layout ∧
      (layout.slots.filter Slot.isStored).map Slot.field = ["id_1", "id_2"] ∧
      artifacts.entityQuery.root.definition.map Prod.fst = ["id", "id_1", "id_2"] ∧
      artifacts.entityShape.properties.map Prod.fst = ["id", "id_1", "id_2"] ∧
      artifacts.mapping = [("id_1", .scalar "id"), ("id_2", .scalar "id")] ∧
      ¬ List.Forall₂ (fun slot entry => entry.2.property = slot.field)
        (layout.slots.filter Slot.isStored) artifacts.mapping ∧
      ¬ (artifacts.mapping.map (·.2.property)).Nodup := by
  refine ⟨_, _, _, rfl, rfl, rfl, ?_⟩
  decide +kernel

end GraphSchema
