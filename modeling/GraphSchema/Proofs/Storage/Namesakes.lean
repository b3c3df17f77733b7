import GraphSchema.Proofs.Lists
import GraphSchema.Proofs.Storage.Schemas

/-!
# Collections that share a name

The table of a collection is found by the name of its property, and a type may
have several properties of one name. What follows for such namesakes: a
collection of objects of an unknown type takes over the table of a namesake, and
then its type cannot be found; two collections of objects of known types share
the table of the last one, so that the schema has two tables of that name. Apart
from namesakes, neither happens.
-/

namespace GraphSchema.Storage

open Relational (Schema Table)

variable {graph : TypeGraph} {catalog : List String} {names : TableNames}
variable {layout : Layout} {slot : Slot}

/-- Whether no collection of objects of an unknown type has a namesake that is a
collection of objects of a known type. -/
def NamesakesResolve (graph : TypeGraph) : Prop :=
  ∀ type ∈ graph.types,
    ∀ property ∈ type.properties, ∀ target, heldType? property = some target →
      ∀ namesake ∈ type.properties, namesake.name = property.name →
        holdsKnown graph namesake = true → target ∈ graph.names

/-- Whether no two collections of objects of known types are namesakes. -/
def CollectionsDistinct (graph : TypeGraph) : Prop :=
  ∀ type ∈ graph.types,
    ((type.properties.filter (holdsKnown graph)).map Property.name).Nodup

theorem heldType?_eq_some {property : Property} {target : String} :
    heldType? property = some target ↔
      ∃ collection, property.kind = .collection collection (.type target) := by
  simp only [heldType?]
  split
  next collection held kind => simp [kind]
  next other =>
    simp only [reduceCtorEq, false_iff, not_exists]
    intro collection kind
    exact other collection target kind

/-- A collection of objects of a known type is stored in a junction. -/
theorem LaidOut.exists_junction (allocated : names.Allocated graph catalog)
    (laid : LaidOut graph names layout) (member : slot ∈ layout.slots)
    {target : String} (held : heldType? slot.property = some target)
    (known : target ∈ graph.names) :
    ∃ junction, slot.placement = .junction junction ∧
      junction.target = target := by
  obtain ⟨collection, kind⟩ := heldType?_eq_some.1 held
  obtain ⟨table, found⟩ := (allocated.junction_isSome laid.member).2
    ⟨slot.property, laid.property_mem member, rfl,
      holdsKnown_iff.2 ⟨target, held, known⟩⟩
  have placed := laid.placed member
  generalize slot.placement = stored at placed
  cases placed with
  | scalar other | scalars other | object other | strangeObject other
  | composite other => simp [kind] at other
  | strangeCollection other missing => simp [missing] at found
  | collection other found mappingKey =>
      obtain ⟨rfl, rfl⟩ : _ ∧ _ := by simpa [kind] using other
      exact ⟨_, rfl, makeJunction_target ..⟩

/-- A collection without a table holds objects of an unknown type. -/
theorem LaidOut.target_unknown (allocated : names.Allocated graph catalog)
    (laid : LaidOut graph names layout) (member : slot ∈ layout.slots)
    {target : String} (held : heldType? slot.property = some target)
    (missing : names.junction? layout.type.name slot.property.name = none) :
    target ∉ graph.names := by
  intro known
  obtain ⟨table, found⟩ := (allocated.junction_isSome laid.member).2
    ⟨slot.property, laid.property_mem member, rfl,
      holdsKnown_iff.2 ⟨target, held, known⟩⟩
  simp [missing] at found

/-- All slots of all types are known exactly when namesakes resolve. -/
theorem slots_known_iff (allocated : names.Allocated graph catalog) :
    (∀ layout, LaidOut graph names layout →
      ∀ slot ∈ layout.slots, slot.Known graph) ↔ NamesakesResolve graph := by
  constructor
  · intro known type member property owned target held namesake present
      sameName resolves
    obtain ⟨layout, laid, rfl⟩ := allocated.exists_layout member
    obtain ⟨slot, inside, rfl⟩ := laid.exists_slot owned
    obtain ⟨table, found⟩ := (allocated.junction_isSome member).2
      ⟨namesake, present, sameName, resolves⟩
    obtain ⟨collection, kind⟩ := heldType?_eq_some.1 held
    have slotKnown := known layout laid slot inside
    have placed := laid.placed inside
    generalize placement : slot.placement = stored at placed
    cases placed with
    | scalar other | scalars other | object other | strangeObject other
    | composite other => simp [kind] at other
    | strangeCollection other missing => simp [missing] at found
    | collection other found mappingKey =>
        obtain ⟨rfl, rfl⟩ : _ ∧ _ := by simpa [kind] using other
        simpa using slotKnown _ placement
  · intro resolve layout laid slot inside junction placement
    have found := laid.junction_table inside placement
    obtain ⟨namesake, present, sameName, resolves⟩ :=
      (allocated.junction_isSome laid.member).1 ⟨_, found⟩
    have placed := laid.placed inside
    rw [placement] at placed
    cases placed with
    | @collection collection target table kind found mappingKey =>
        rw [makeJunction_target]
        exact resolve _ laid.member _ (laid.property_mem inside) target
          (heldType?_eq_some.2 ⟨collection, kind⟩) namesake present sameName
          resolves

/-! ## Distinct tables -/

/-- A slot that is known has the table of its name when the objects it holds are
of a known type, and otherwise none. -/
theorem junctionTable?_name (laid : LaidOut graph names layout)
    (member : slot ∈ layout.slots) (known : slot.Known graph) :
    slot.junctionTable?.map Table.name =
      if holdsKnown graph slot.property = true then
        names.junction? layout.type.name slot.property.name
      else none := by
  have placed := laid.placed member
  simp only [Slot.junctionTable?]
  simp only [Slot.Known] at known
  generalize slot.placement = stored at placed known
  cases placed with
  | scalar kind | scalars kind | object kind | strangeObject kind
  | composite kind => simp [holdsKnown, heldType?, kind]
  | @collection collection target table kind found mappingKey =>
      have resolves : holdsKnown graph slot.property = true := by
        have present : target ∈ graph.names := by simpa using known _ rfl
        exact holdsKnown_iff.2 ⟨target, by simp [heldType?, kind], present⟩
      simp [resolves, found, Junction.toTable, Table.numbered]
  | strangeCollection kind missing => simp [missing]

/-- The tables of a layout by name: that of the type, and those of its
collections of objects of known types. -/
theorem layout_tables_names (laid : LaidOut graph names layout)
    (known : ∀ slot ∈ layout.slots, slot.Known graph) :
    layout.tables.map Table.name =
      layout.table ::
        (layout.type.properties.filter (holdsKnown graph)).filterMap
          fun property => names.junction? layout.type.name property.name := by
  have junctions :
      layout.slots.filterMap (Option.map Table.name ∘ Slot.junctionTable?) =
      layout.slots.filterMap fun slot =>
        if holdsKnown graph slot.property = true then
          names.junction? layout.type.name slot.property.name
        else none := by
    apply List.filterMap_congr
    intro slot member
    exact junctionTable?_name laid member (known slot member)
  rw [Layout.tables, List.map_cons, List.map_filterMap]
  apply congrArg₂ List.cons rfl
  rw [← laid.properties, List.filter_map, List.filterMap_map,
    List.filterMap_filter]
  exact junctions

/-- The tables of a type have distinct names exactly when its collections of
objects of known types have. -/
theorem layout_tables_nodup_iff (allocated : names.Allocated graph catalog)
    (laid : LaidOut graph names layout)
    (known : ∀ slot ∈ layout.slots, slot.Known graph) :
    (layout.tables.map Table.name).Nodup ↔
      ((layout.type.properties.filter (holdsKnown graph)).map
        Property.name).Nodup := by
  rw [layout_tables_names laid known, List.nodup_cons]
  have typeFirst : layout.table ∉
      (layout.type.properties.filter (holdsKnown graph)).filterMap
        fun property => names.junction? layout.type.name property.name := by
    intro member
    obtain ⟨property, _, found⟩ := List.mem_filterMap.1 member
    exact allocated.table_ne_junction laid.table found rfl
  rw [and_iff_right typeFirst]
  apply nodup_filterMap_iff (names.junction? layout.type.name)
  · intro property member
    obtain ⟨inside, resolves⟩ := List.mem_filter.1 member
    exact (allocated.junction_isSome laid.member).2
      ⟨property, inside, rfl, resolves⟩
  · intro left right table leftFound rightFound
    exact (allocated.junction_inj leftFound rightFound).2

/-- The name of a table of a type was allocated for the type or for one of its
collections. -/
theorem LaidOut.allocated_name (laid : LaidOut graph names layout)
    {name : String} (member : name ∈ layout.tables.map Table.name) :
    names.table? layout.type.name = some name ∨
      ∃ property, names.junction? layout.type.name property = some name := by
  obtain ⟨table, inside, rfl⟩ := List.mem_map.1 member
  rcases mem_layout_tables.1 inside with
    rfl | ⟨slot, present, junction, placement, rfl⟩
  · exact Or.inl laid.table
  · exact Or.inr ⟨_, laid.junction_table present placement⟩

/-- Tables of different types have different names. -/
theorem layout_tables_disjoint (allocated : names.Allocated graph catalog)
    {other : Layout} (laid : LaidOut graph names layout)
    (otherLaid : LaidOut graph names other)
    (different : layout.type.name ≠ other.type.name) :
    (layout.tables.map Table.name).Disjoint (other.tables.map Table.name) := by
  intro name left right
  rcases laid.allocated_name left with leftType | ⟨leftProperty, leftJunction⟩
  · rcases otherLaid.allocated_name right with
      rightType | ⟨rightProperty, rightJunction⟩
    · exact different (allocated.table_inj leftType rightType)
    · exact allocated.table_ne_junction leftType rightJunction rfl
  · rcases otherLaid.allocated_name right with
      rightType | ⟨rightProperty, rightJunction⟩
    · exact allocated.table_ne_junction rightType leftJunction rfl
    · exact different (allocated.junction_inj leftJunction rightJunction).1

namespace Synthesized

variable {synthesis : Synthesis} {layouts : List Layout}
variable {relations : List (List Relational.Relation)}

theorem tableNames_eq (synthesized :
      Synthesized graph names synthesis layouts relations) :
    synthesis.schema.tableNames =
      layouts.flatMap fun layout => layout.tables.map Table.name := by
  have bare := congrArg (List.map Table.name) synthesized.tables_bare
  rw [List.map_map, List.map_flatMap] at bare
  exact bare

/-- The tables of a schema have distinct names exactly when no two collections of
objects of known types are namesakes. -/
theorem tableNames_nodup_iff (allocated : names.Allocated graph catalog)
    (synthesized : Synthesized graph names synthesis layouts relations) :
    synthesis.schema.tableNames.Nodup ↔ CollectionsDistinct graph := by
  have disjoint : layouts.Pairwise
      (Function.onFun List.Disjoint fun layout => layout.tables.map Table.name) := by
    have different := List.pairwise_map.1 synthesized.layouts_nodup
    apply different.imp_of_mem
    intro left right leftMember rightMember distinct
    exact layout_tables_disjoint allocated (synthesized.laid left leftMember)
      (synthesized.laid right rightMember) distinct
  rw [synthesized.tableNames_eq, List.nodup_flatMap, and_iff_left disjoint]
  have each : ∀ layout ∈ layouts, ((layout.tables.map Table.name).Nodup ↔
      ((layout.type.properties.filter (holdsKnown graph)).map
        Property.name).Nodup) := by
    intro layout member
    have laid := synthesized.laid layout member
    exact layout_tables_nodup_iff allocated laid
      (synthesized.known allocated laid)
  rw [forall₂_congr each, CollectionsDistinct, ← synthesized.types,
    List.forall_mem_map]

/-- No table of a schema is in the catalog. -/
theorem tableNames_fresh (allocated : names.Allocated graph catalog)
    (synthesized : Synthesized graph names synthesis layouts relations)
    {name : String} (member : name ∈ synthesis.schema.tableNames) :
    name ∉ catalog := by
  rw [synthesized.tableNames_eq] at member
  obtain ⟨layout, present, inside⟩ := List.mem_flatMap.1 member
  rcases (synthesized.laid layout present).allocated_name inside with
    ofType | ⟨property, ofCollection⟩
  · exact allocated.table_fresh ofType
  · exact allocated.junction_fresh ofCollection

end Synthesized

end GraphSchema.Storage
