import GraphSchema.Proofs.Graph.Lookup
import GraphSchema.Proofs.Lists
import GraphSchema.Proofs.Storage.Schemas
import GraphSchema.Query.Build

/-!
# Definitions slot by slot

The definition of a type has one part for each slot of its layout. At the lowest
level only columns have a part. One level above, an object and a collection have
the part that shows the lowest definition of the type they refer to, and only
what is dropped has none.
-/

namespace GraphSchema.Query

open Relational (primaryKey)
open Storage

/-- The field of a slot where nothing is expanded. -/
def flatField? (slot : Slot) : Option (String × Node) :=
  match slot.placement with
  | .column column type => some (slot.field, .field column type)
  | _ => none

/-- The column of a slot where nothing is expanded. -/
def flatColumn? (slot : Slot) : Option String :=
  match slot.placement with
  | .column column _ => some column
  | _ => none

/-- The definition of a layout where nothing is expanded. -/
def flat (layout : Layout) : Definition where
  fields := (primaryKey, .field primaryKey .integer) ::
    layout.slots.filterMap flatField?
  columns := primaryKey :: layout.slots.filterMap flatColumn?

/-- A type that is referred to, with nothing expanded below it. -/
def flatExpansion (layout : Layout) : Expansion :=
  ⟨layout.table, flat layout⟩

theorem slotPart_none (pageSize : UInt32) (slot : Slot) :
    slotPart pageSize none slot = .ok ⟨flatField? slot, flatColumn? slot⟩ := by
  simp only [slotPart, flatField?, flatColumn?]
  cases slot.placement <;> rfl

theorem assemble_none (pageSize : UInt32) (layout : Layout) :
    assemble pageSize none layout = .ok (flat layout) := by
  have parts : layout.slots.mapM (slotPart pageSize none) =
      .ok (layout.slots.map fun slot => ⟨flatField? slot, flatColumn? slot⟩) := by
    rw [mapM_eq_ok, List.forall₂_map_right_iff, List.forall₂_same]
    exact fun slot _ => slotPart_none pageSize slot
  simp [assemble, parts, flat, List.filterMap_map, bind, Except.bind, pure,
    Except.pure]

variable {context : Context} {slot : Slot} {part : Part} {layout : Layout}

theorem define_zero_eq_ok {type : RecordType} {definition : Definition} :
    define context 0 type = .ok definition ↔
      ∃ layout, Layout.of context.graph context.names type = .ok layout ∧
        flat layout = definition := by
  simp [define, assemble_none]

/-- What a slot adds to a definition with one level of objects below it. -/
inductive PartOf (context : Context) (slot : Slot) : Part → Prop where
  | column {column : String} {type : Relational.ColumnType}
      (placement : slot.placement = .column column type) :
      PartOf context slot
        ⟨some (slot.field, .field column type), some column⟩
  | object {column target : String} {layout : Layout}
      (placement : slot.placement = .foreignKey column target)
      (laid : LaidOut context.graph context.names layout)
      (named : layout.type.name = target) :
      PartOf context slot
        ⟨some (slot.field, objectNode column (flatExpansion layout)),
          some column⟩
  | collection {junction : Junction} {layout : Layout}
      (placement : slot.placement = .junction junction)
      (laid : LaidOut context.graph context.names layout)
      (named : layout.type.name = junction.target) :
      PartOf context slot
        ⟨some (slot.field,
          collectionNode context.pageSize junction (flatExpansion layout)), none⟩
  | dropped {reason : DropReason}
      (placement : slot.placement = .dropped reason) :
      PartOf context slot ⟨none, none⟩

/-- The definition that some parts make up. -/
def ofParts (parts : List Part) : Definition where
  fields := (primaryKey, .field primaryKey .integer) ::
    parts.filterMap Part.field
  columns := primaryKey :: parts.filterMap Part.column

/-- How a referred type is expanded in a definition with one level below it. -/
def expandFlat (context : Context) (target : String) :
    Except CompileError Expansion := do
  let type ← context.graph.resolve target
  let table ← context.names.table target
  return ⟨table, ← define context 0 type⟩

theorem expandFlat_eq_ok {target : String} {expansion : Expansion} :
    expandFlat context target = .ok expansion ↔
      ∃ layout, LaidOut context.graph context.names layout ∧
        layout.type.name = target ∧ flatExpansion layout = expansion := by
  simp only [expandFlat, bind_eq_ok, pure_eq_ok, TypeGraph.resolve_eq_ok,
    TableNames.table_eq_ok, define_zero_eq_ok]
  constructor
  · rintro ⟨type, ⟨member, rfl⟩, table, found, _, ⟨layout, made, rfl⟩, rfl⟩
    obtain ⟨laid, rfl⟩ := LaidOut.of_eq_ok member made
    refine ⟨layout, laid, rfl, ?_⟩
    rw [laid.table] at found
    cases found
    rfl
  · rintro ⟨layout, laid, rfl, rfl⟩
    exact ⟨layout.type, ⟨laid.member, rfl⟩, layout.table, laid.table, _,
      ⟨layout, laid.made, rfl⟩, rfl⟩

theorem slotPart_eq_ok :
    slotPart context.pageSize (some (expandFlat context)) slot = .ok part ↔
      PartOf context slot part := by
  simp only [slotPart]
  constructor
  · intro made
    split at made
    next column type placement =>
      cases made
      exact .column placement
    next column target expand placement given =>
      cases given
      simp only [bind_eq_ok, pure_eq_ok, expandFlat_eq_ok] at made
      obtain ⟨_, ⟨layout, laid, named, rfl⟩, rfl⟩ := made
      exact .object placement laid named
    next junction expand placement given =>
      cases given
      simp only [bind_eq_ok, pure_eq_ok, expandFlat_eq_ok] at made
      obtain ⟨_, ⟨layout, laid, named, rfl⟩, rfl⟩ := made
      exact .collection placement laid named
    next noColumn noKey noJunction =>
      cases made
      cases placement : slot.placement with
      | column column type => exact absurd placement (noColumn column type)
      | foreignKey column target =>
          exact absurd rfl (noKey column target _ placement)
      | junction junction => exact absurd rfl (noJunction junction _ placement)
      | dropped reason => exact .dropped placement
  · intro part
    cases part with
    | column placement => simp [placement]
    | object placement laid named =>
        have expanded := expandFlat_eq_ok.2 ⟨_, laid, named, rfl⟩
        simp [placement, expanded]
    | collection placement laid named =>
        have expanded := expandFlat_eq_ok.2 ⟨_, laid, named, rfl⟩
        simp [placement, expanded]
    | dropped placement => simp [placement]

theorem define_one_eq_ok {type : RecordType} {definition : Definition} :
    define context 1 type = .ok definition ↔
      ∃ layout parts,
        Layout.of context.graph context.names type = .ok layout ∧
          List.Forall₂ (PartOf context) layout.slots parts ∧
          ofParts parts = definition := by
  have step : define context 1 type =
      Layout.of context.graph context.names type >>= fun layout =>
        assemble context.pageSize (some (expandFlat context)) layout := rfl
  simp only [step, assemble, bind_eq_ok, pure_eq_ok, mapM_eq_ok, slotPart_eq_ok]
  constructor
  · rintro ⟨layout, laid, parts, each, rfl⟩
    exact ⟨layout, parts, laid, each, rfl⟩
  · rintro ⟨layout, parts, laid, each, rfl⟩
    exact ⟨layout, laid, parts, each, rfl⟩

/-! ## Documents -/

/-- The document of one object of a type. -/
def rowDocument (expansion : Expansion) : Document where
  root := .entity
    (.row expansion.definition.columns expansion.table primaryKey)
    [(primaryKey, .context primaryKey none)] expansion.definition.fields
  columns := expansion.definition.columns

/-- The node of a page of objects of a type. -/
def pageNode (pageSize : UInt32) (expansion : Expansion) : Node :=
  .collection
    (.page expansion.definition.columns expansion.table pageSize startIndex)
    [(startIndex, .context startIndex (some 0))] expansion.definition.fields none

/-- The document of a page of objects of a type. -/
def pageDocument (pageSize : UInt32) (expansion : Expansion) : Document where
  root := .object [
    ("totalResults", .value (.count expansion.table) [] countColumn),
    ("startIndex", .context startIndex (some 0)),
    ("itemsPerPage", .literal pageSize.toNat),
    ("entry", pageNode pageSize expansion)]
  columns := expansion.definition.columns

/-- How a type is expanded at the top of its documents. -/
structure Expanded (context : Context) (layout : Layout) (parts : List Part) :
    Prop where
  laid : LaidOut context.graph context.names layout
  each : List.Forall₂ (PartOf context) layout.slots parts

theorem expandRoot_eq_ok {name : String} {expansion : Expansion} :
    expandRoot context name = .ok expansion ↔
      ∃ layout parts, Expanded context layout parts ∧
        layout.type.name = name ∧ ⟨layout.table, ofParts parts⟩ = expansion := by
  simp only [expandRoot, expansionLimit, bind_eq_ok, pure_eq_ok,
    TypeGraph.resolve_eq_ok, TableNames.table_eq_ok, define_one_eq_ok]
  constructor
  · rintro ⟨type, ⟨member, rfl⟩, table, found, _,
      ⟨layout, parts, made, each, rfl⟩, rfl⟩
    obtain ⟨laid, rfl⟩ := LaidOut.of_eq_ok member made
    refine ⟨layout, parts, ⟨laid, each⟩, rfl, ?_⟩
    rw [laid.table] at found
    cases found
    rfl
  · rintro ⟨layout, parts, ⟨laid, each⟩, rfl, rfl⟩
    exact ⟨layout.type, ⟨laid.member, rfl⟩, layout.table, laid.table, _,
      ⟨layout, parts, laid.made, each, rfl⟩, rfl⟩

theorem entity_eq_expandRoot (context : Context) (name : String) :
    entity context name = rowDocument <$> expandRoot context name := by
  simp only [entity]
  cases expandRoot context name <;> rfl

theorem page_eq_expandRoot (context : Context) (name : String) :
    page context name =
      pageDocument context.pageSize <$> expandRoot context name := by
  simp only [page]
  cases expandRoot context name <;> rfl

/-- A slot that is known has a part. -/
theorem exists_part {catalog : List String}
    (allocated : context.names.Allocated context.graph catalog)
    (laid : LaidOut context.graph context.names layout)
    (member : slot ∈ layout.slots) (known : slot.Known context.graph) :
    ∃ part, PartOf context slot part := by
  have placed := laid.placed member
  cases placement : slot.placement with
  | column column type => exact ⟨_, .column placement⟩
  | dropped reason => exact ⟨_, .dropped placement⟩
  | junction junction =>
      obtain ⟨other, otherLaid, named⟩ :=
        allocated.exists_layout_named (known junction placement)
      exact ⟨_, .collection placement otherLaid named⟩
  | foreignKey column target =>
      rw [placement] at placed
      cases placed with
      | object kind present column =>
          obtain ⟨other, otherLaid, named⟩ := allocated.exists_layout_named present
          exact ⟨_, .object placement otherLaid named⟩

/-- A type all of whose slots are known can be expanded. -/
theorem exists_expanded (context : Context) {catalog : List String}
    (allocated : context.names.Allocated context.graph catalog)
    (laid : LaidOut context.graph context.names layout)
    (known : ∀ slot ∈ layout.slots, slot.Known context.graph) :
    ∃ parts, Expanded context layout parts := by
  have made : ∀ slot ∈ layout.slots, ∃ part,
      slotPart context.pageSize (some (expandFlat context)) slot = .ok part := by
    intro slot member
    obtain ⟨part, partOf⟩ := exists_part allocated laid member (known slot member)
    exact ⟨part, slotPart_eq_ok.2 partOf⟩
  obtain ⟨parts, run⟩ := mapM_isOk.2 made
  refine ⟨parts, laid, ?_⟩
  exact (mapM_eq_ok.1 run).imp fun slot part => slotPart_eq_ok.1

/-! ## Columns and fields -/

/-- The field of a slot that a document with expanded objects shows. -/
def shownField? (slot : Slot) : Option String :=
  match slot.placement with
  | .dropped _ => none
  | _ => some slot.field

namespace PartOf

theorem column_eq (partOf : PartOf context slot part) :
    part.column = slot.placement.column?.map Relational.Column.name := by
  cases partOf with
  | column placement | object placement | collection placement
  | dropped placement => simp [placement, Placement.column?, Relational.Column.plain]

theorem field_eq (partOf : PartOf context slot part) :
    part.field.map Prod.fst = shownField? slot := by
  cases partOf with
  | column placement | object placement | collection placement
  | dropped placement => simp [placement, shownField?]

/-- The field of a part is the field of the slot. -/
theorem field_name (partOf : PartOf context slot part) {field : String}
    {node : Node} (found : part.field = some (field, node)) :
    field = slot.field := by
  cases partOf with
  | column | object | collection =>
      cases found
      rfl
  | dropped => cases found

end PartOf

namespace Expanded

variable {parts : List Part}

/-- A document selects the columns of the table, in their order. -/
theorem columns_eq (expanded : Expanded context layout parts) :
    (ofParts parts).columns = layout.columnNames := by
  have same : layout.slots.filterMap
      (fun slot => slot.placement.column?.map Relational.Column.name) =
        parts.filterMap Part.column :=
    filterMap_eq_of_forall₂
      (expanded.each.imp fun _ _ partOf => partOf.column_eq.symm)
  rw [ofParts, ← same, Layout.columnNames, Layout.columns, List.map_filterMap]

/-- The fields of a document are the primary key and the fields of all slots that
are stored, in their order. -/
theorem fields_eq (expanded : Expanded context layout parts) :
    (ofParts parts).fields.map Prod.fst =
      primaryKey :: layout.slots.filterMap shownField? := by
  have same : layout.slots.filterMap shownField? =
      parts.filterMap (fun part => part.field.map Prod.fst) :=
    filterMap_eq_of_forall₂
      (expanded.each.imp fun _ _ partOf => partOf.field_eq.symm)
  rw [same, ofParts, List.map_cons, List.map_filterMap]

theorem mem_fields (expanded : Expanded context layout parts)
    {entry : String × Node} (member : entry ∈ (ofParts parts).fields) :
    entry = (primaryKey, .field primaryKey .integer) ∨
      ∃ slot ∈ layout.slots, ∃ part ∈ parts, PartOf context slot part ∧
        part.field = some entry := by
  rcases List.mem_cons.1 member with first | later
  · exact Or.inl first
  · obtain ⟨part, present, found⟩ := List.mem_filterMap.1 later
    obtain ⟨slot, inside, partOf⟩ := exists_item_of_forall₂ expanded.each present
    exact Or.inr ⟨slot, inside, part, present, partOf, found⟩

end Expanded

/-- The column of a part is selected. -/
theorem mem_ofParts_columns {parts : List Part} {part : Part}
    (member : part ∈ parts) {column : String}
    (found : part.column = some column) : column ∈ (ofParts parts).columns :=
  List.mem_cons_of_mem _ (List.mem_filterMap.2 ⟨part, member, found⟩)

/-! ## The lowest level -/

theorem flat_columns_sublist (layout : Layout) :
    (flat layout).columns.Sublist layout.columnNames := by
  apply List.Sublist.cons_cons
  rw [Layout.columns, List.map_filterMap]
  apply filterMap_sublist
  intro slot _ name
  cases placement : slot.placement <;>
    simp [flatColumn?, Placement.column?, Relational.Column.plain, placement]

theorem flat_columns_subset (layout : Layout) :
    (flat layout).columns ⊆ layout.columnNames :=
  (flat_columns_sublist layout).subset

/-- What is shown where nothing is expanded is shown anyway. -/
theorem shownField?_of_flat {field : String} {node : Node}
    (found : flatField? slot = some (field, node)) :
    shownField? slot = some field := by
  simp only [flatField?] at found
  simp only [shownField?]
  cases placement : slot.placement with
  | column column type =>
      simp only [placement, Option.some.injEq, Prod.mk.injEq] at found
      exact congrArg some found.1
  | foreignKey | junction | dropped => simp [placement] at found

/-- Every field of the lowest level is a column that the level selects. -/
theorem mem_flat_fields {entry : String × Node}
    (member : entry ∈ (flat layout).fields) :
    ∃ field column type, entry = (field, .field column type) ∧
      column ∈ (flat layout).columns := by
  rcases List.mem_cons.1 member with rfl | later
  · exact ⟨_, _, _, rfl, List.mem_cons_self⟩
  · obtain ⟨slot, present, found⟩ := List.mem_filterMap.1 later
    simp only [flatField?] at found
    cases placement : slot.placement with
    | column column type =>
        simp only [placement, Option.some.injEq] at found
        refine ⟨slot.field, column, type, found.symm, ?_⟩
        refine List.mem_cons_of_mem _ (List.mem_filterMap.2 ⟨slot, present, ?_⟩)
        simp [flatColumn?, placement]
    | foreignKey | junction | dropped => simp [placement] at found

end GraphSchema.Query
