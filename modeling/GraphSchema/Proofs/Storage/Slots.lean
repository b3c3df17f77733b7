import GraphSchema.Proofs.Storage.Allocation
import GraphSchema.Proofs.Success
import GraphSchema.Storage.Layout

/-!
# Slots of a layout

A layout has one slot for each property of its type, in order. The fields of the
slots are pairwise distinct and none of them is the primary key. How a property
is placed depends on its kind and on what the graph and the allocated names know
of its target; the names in use decide only about the names of columns.
-/

namespace GraphSchema.Storage

open Name (Pool)
open Relational (primaryKey)

/-- The placements that a property can have, whatever its columns are called. -/
inductive Placed (graph : TypeGraph) (names : TableNames) (owner : String)
    (property : Property) : Placement → Prop where
  | scalar {scalar : Scalar} (kind : property.kind = .scalar scalar)
      (column : String) :
      Placed graph names owner property
        (.column column (scalarType scalar property.format))
  | scalars {collection : Collection} {scalar : Scalar}
      (kind : property.kind = .collection collection (.scalar scalar))
      (column : String) :
      Placed graph names owner property (.column column .json)
  | object {target : String} (kind : property.kind = .object target)
      (known : target ∈ graph.names) (column : String) :
      Placed graph names owner property (.foreignKey column target)
  | strangeObject {target : String} (kind : property.kind = .object target)
      (unknown : target ∉ graph.names) :
      Placed graph names owner property (.dropped (.unresolved target))
  | collection {collection : Collection} {target table : String}
      (kind : property.kind = .collection collection (.type target))
      (found : names.junction? owner property.name = some table)
      (mappingKey : String) :
      Placed graph names owner property
        (.junction (makeJunction owner table mappingKey collection target))
  | strangeCollection {collection : Collection} {target : String}
      (kind : property.kind = .collection collection (.type target))
      (missing : names.junction? owner property.name = none) :
      Placed graph names owner property (.dropped (.unresolved target))
  | composite {composition : Composition} {targets : List String}
      (kind : property.kind = .composite composition targets) :
      Placed graph names owner property (.dropped .composite)

theorem place_placed (graph : TypeGraph) (names : TableNames) (owner : String)
    (columns : Pool) (property : Property) :
    Placed graph names owner property
      (place graph names owner columns property).1 := by
  simp only [place]
  split
  case h_1 scalar kind => exact .scalar kind _
  case h_2 collection scalar kind => exact .scalars kind _
  case h_3 target kind =>
    split
    case isTrue known =>
      exact .object kind (by simpa [TypeGraph.contains] using known) _
    case isFalse unknown =>
      exact .strangeObject kind (by simpa [TypeGraph.contains] using unknown)
  case h_4 collection target kind =>
    split
    case h_1 table found => exact .collection kind found _
    case h_2 missing => exact .strangeCollection kind missing
  case h_5 composition targets kind => exact .composite kind

section

variable (graph : TypeGraph) (names : TableNames) (owner : String)

theorem slotsOf_properties (columns fields : Pool)
    (properties : List Property) :
    (slotsOf graph names owner columns fields properties).map Slot.property =
      properties := by
  induction properties generalizing columns fields with
  | nil => rfl
  | cons property rest ih => simp [slotsOf, ih]

theorem slotsOf_fields (columns fields : Pool) (properties : List Property) :
    (slotsOf graph names owner columns fields properties).map Slot.field =
      (fields.claimAll (properties.map Property.name)).1 := by
  induction properties generalizing columns fields with
  | nil => rfl
  | cons property rest ih => simp [slotsOf, ih]

theorem slotsOf_placed (columns fields : Pool) (properties : List Property) :
    ∀ slot ∈ slotsOf graph names owner columns fields properties,
      Placed graph names owner slot.property slot.placement := by
  induction properties generalizing columns fields with
  | nil => simp [slotsOf]
  | cons property rest ih =>
      simp only [slotsOf, List.forall_mem_cons]
      exact ⟨place_placed graph names owner columns property, ih _ _⟩

end

theorem Layout.of_eq_ok {graph : TypeGraph} {names : TableNames}
    {type : RecordType} {layout : Layout} :
    Layout.of graph names type = .ok layout ↔
      ∃ table, names.table? type.name = some table ∧
        ⟨type, table, slotsOf graph names type.name freshPool freshPool
          type.properties⟩ = layout := by
  simp [Layout.of, TableNames.table_eq_ok]

/-- The layout of a type of the graph. -/
structure LaidOut (graph : TypeGraph) (names : TableNames)
    (layout : Layout) : Prop where
  member : layout.type ∈ graph.types
  made : Layout.of graph names layout.type = .ok layout

namespace LaidOut

variable {graph : TypeGraph} {names : TableNames} {layout : Layout}

theorem of_eq_ok {type : RecordType} (member : type ∈ graph.types)
    (made : Layout.of graph names type = .ok layout) :
    LaidOut graph names layout ∧ layout.type = type := by
  obtain ⟨table, found, rfl⟩ := Layout.of_eq_ok.1 made
  exact ⟨⟨member, made⟩, rfl⟩

theorem table (laid : LaidOut graph names layout) :
    names.table? layout.type.name = some layout.table := by
  obtain ⟨table, found, same⟩ := Layout.of_eq_ok.1 laid.made
  rw [found, ← same]

theorem slots (laid : LaidOut graph names layout) :
    layout.slots = slotsOf graph names layout.type.name freshPool freshPool
      layout.type.properties := by
  obtain ⟨table, _, same⟩ := Layout.of_eq_ok.1 laid.made
  rw [← same]

theorem properties (laid : LaidOut graph names layout) :
    layout.slots.map Slot.property = layout.type.properties := by
  rw [laid.slots, slotsOf_properties]

theorem property_mem (laid : LaidOut graph names layout) {slot : Slot}
    (member : slot ∈ layout.slots) : slot.property ∈ layout.type.properties := by
  rw [← laid.properties]
  exact List.mem_map_of_mem member

/-- Every property has a slot. -/
theorem exists_slot (laid : LaidOut graph names layout) {property : Property}
    (member : property ∈ layout.type.properties) :
    ∃ slot ∈ layout.slots, slot.property = property := by
  rw [← laid.properties] at member
  exact List.mem_map.1 member

theorem placed (laid : LaidOut graph names layout) {slot : Slot}
    (member : slot ∈ layout.slots) :
    Placed graph names layout.type.name slot.property slot.placement := by
  rw [laid.slots] at member
  exact slotsOf_placed graph names _ _ _ _ slot member

/-- A property that is stored as a row number refers to the type of the row. -/
theorem foreignKey_refers (laid : LaidOut graph names layout) {slot : Slot}
    (member : slot ∈ layout.slots) {column target : String}
    (placement : slot.placement = .foreignKey column target) :
    slot.property.kind = .object target := by
  have placed := laid.placed member
  rw [placement] at placed
  cases placed with
  | object kind known column => exact kind

theorem foreignKey_known (laid : LaidOut graph names layout) {slot : Slot}
    (member : slot ∈ layout.slots) {column target : String}
    (placement : slot.placement = .foreignKey column target) :
    target ∈ graph.names := by
  have placed := laid.placed member
  rw [placement] at placed
  cases placed with
  | object kind known column => exact known

/-- An object of a known type is stored as a row number. -/
theorem exists_foreignKey (laid : LaidOut graph names layout) {slot : Slot}
    (member : slot ∈ layout.slots) {target : String}
    (kind : slot.property.kind = .object target) (known : target ∈ graph.names) :
    ∃ column, slot.placement = .foreignKey column target := by
  have placed := laid.placed member
  generalize slot.placement = stored at placed
  cases placed with
  | scalar other | scalars other | collection other | strangeCollection other
  | composite other => simp [kind] at other
  | object other present column =>
      obtain rfl : target = _ := by simpa [kind] using other
      exact ⟨column, rfl⟩
  | strangeObject other unknown =>
      obtain rfl : target = _ := by simpa [kind] using other
      exact absurd known unknown

/-- A property that is stored in a junction is a collection of objects of the
type that the junction leads to. -/
theorem junction_refers (laid : LaidOut graph names layout) {slot : Slot}
    (member : slot ∈ layout.slots) {junction : Junction}
    (placement : slot.placement = .junction junction) :
    slot.property.kind =
      .collection junction.collection (.type junction.target) := by
  have placed := laid.placed member
  rw [placement] at placed
  cases placed with
  | @collection collection target table kind found mappingKey =>
      rw [kind]
      cases collection <;> rfl

theorem fields_nodup (laid : LaidOut graph names layout) :
    (layout.slots.map Slot.field).Nodup := by
  rw [laid.slots, slotsOf_fields]
  exact Pool.nodup_claimAll _ _

/-- The field of a slot tells which slot it is. -/
theorem eq_of_field_eq (laid : LaidOut graph names layout) {left right : Slot}
    (leftMember : left ∈ layout.slots) (rightMember : right ∈ layout.slots)
    (sameField : left.field = right.field) : left = right :=
  List.inj_on_of_nodup_map laid.fields_nodup leftMember rightMember sameField

/-- No field takes the name of the primary key. -/
theorem field_ne_primaryKey (laid : LaidOut graph names layout) {slot : Slot}
    (member : slot ∈ layout.slots) : slot.field ≠ primaryKey := by
  intro same
  have claimed : slot.field ∈ layout.slots.map Slot.field :=
    List.mem_map_of_mem member
  rw [laid.slots, slotsOf_fields] at claimed
  exact Pool.not_mem_used_of_mem_claimAll claimed (by simp [freshPool, same])

/-- A type has one layout, so layouts of types of one name are the same. -/
theorem eq_of_name_eq {other : Layout} (laid : LaidOut graph names layout)
    (otherLaid : LaidOut graph names other)
    (sameName : layout.type.name = other.type.name) : layout = other := by
  have sameType : layout.type = other.type :=
    TypeGraph.eq_of_name_eq laid.member otherLaid.member sameName
  have made := laid.made
  rw [sameType, otherLaid.made] at made
  exact (Except.ok.inj made).symm

end LaidOut

/-- Every type of the graph has a layout. -/
theorem TableNames.Allocated.exists_layout {graph : TypeGraph}
    {catalog : List String} {names : TableNames}
    (allocated : names.Allocated graph catalog) {type : RecordType}
    (member : type ∈ graph.types) :
    ∃ layout, LaidOut graph names layout ∧ layout.type = type := by
  obtain ⟨table, found⟩ :=
    allocated.table_isOk.2 (List.mem_map_of_mem (f := RecordType.name) member)
  have made : Layout.of graph names type = .ok _ :=
    Layout.of_eq_ok.2 ⟨table, TableNames.table_eq_ok.1 found, rfl⟩
  exact ⟨_, LaidOut.of_eq_ok member made⟩

theorem TableNames.Allocated.exists_layout_named {graph : TypeGraph}
    {catalog : List String} {names : TableNames}
    (allocated : names.Allocated graph catalog) {name : String}
    (known : name ∈ graph.names) :
    ∃ layout, LaidOut graph names layout ∧ layout.type.name = name := by
  obtain ⟨type, member, rfl⟩ := List.mem_map.1 known
  obtain ⟨layout, laid, rfl⟩ := allocated.exists_layout member
  exact ⟨layout, laid, rfl⟩

end GraphSchema.Storage
