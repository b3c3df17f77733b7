import GraphSchema.Proofs.Relational.Relations
import GraphSchema.Proofs.Storage.Slots
import GraphSchema.Storage.Synthesis

/-!
# The schema of a graph

A synthesis lays out every type and puts the tables of the layouts one after the
other; the relations between them change no more than foreign keys. The only
thing that can go wrong is a collection whose objects are of no type of the
graph and which has a table all the same, namely that of a namesake.
-/

namespace GraphSchema.Storage

open Name (Pool)
open Relational (Column Relation Schema Table)

variable {graph : TypeGraph} {catalog : List String} {names : TableNames}
variable {layout : Layout} {slot : Slot}

theorem mem_layout_tables {table : Table} :
    table ∈ layout.tables ↔
      table = .numbered layout.table layout.columns ∨
        ∃ slot ∈ layout.slots, ∃ junction,
          slot.placement = .junction junction ∧ table = junction.toTable := by
  simp only [Layout.tables, List.mem_cons, List.mem_filterMap]
  refine or_congr_right (exists_congr fun slot => and_congr_right fun _ => ?_)
  simp only [Slot.junctionTable?]
  cases slot.placement <;> simp [eq_comm]

theorem layout_tables_bare {table : Table} (member : table ∈ layout.tables) :
    table.bare = table := by
  rcases mem_layout_tables.1 member with rfl | ⟨slot, _, junction, _, rfl⟩
  · rfl
  · rfl

@[simp] theorem makeJunction_target (owner table mappingKey : String)
    (collection : Collection) (target : String) :
    (makeJunction owner table mappingKey collection target).target = target := by
  cases collection <;> rfl

@[simp] theorem makeJunction_table (owner table mappingKey : String)
    (collection : Collection) (target : String) :
    (makeJunction owner table mappingKey collection target).table = table := by
  cases collection <;> rfl

/-- The junctions of maps are those that store keys. -/
theorem LaidOut.junction_keyColumn (laid : LaidOut graph names layout)
    (member : slot ∈ layout.slots) {junction : Junction}
    (placement : slot.placement = .junction junction) :
    junction.keyColumn.isSome = true ↔ junction.collection = .map := by
  have placed := laid.placed member
  rw [placement] at placed
  cases placed with
  | @collection collection target table kind found mappingKey =>
      cases collection <;> simp [makeJunction]

theorem Junction.toTable_columnNames (junction : Junction) :
    junction.toTable.columnNames = Relational.primaryKey ::
      junction.ownerColumn ::
        (junction.keyColumn.toList ++ [junction.targetColumn]) := by
  cases key : junction.keyColumn <;>
    simp [Junction.toTable, Table.columnNames, Table.numbered, Column.plain,
      Column.key, key]

/-- The table of a stored collection is the one that was allocated for its
name. -/
theorem LaidOut.junction_table (laid : LaidOut graph names layout)
    (member : slot ∈ layout.slots) {junction : Junction}
    (placement : slot.placement = .junction junction) :
    names.junction? layout.type.name slot.property.name =
      some junction.table := by
  have placed := laid.placed member
  rw [placement] at placed
  cases placed with
  | collection kind found mappingKey => simpa using found

/-- Whether the objects of a stored collection are of a type of the graph. -/
def Slot.Known (graph : TypeGraph) (slot : Slot) : Prop :=
  ∀ junction, slot.placement = .junction junction →
    junction.target ∈ graph.names

/-- The relations of a slot can be made when the slot is known. -/
theorem Slot.relations_isOk (allocated : names.Allocated graph catalog)
    (laid : LaidOut graph names layout) (member : slot ∈ layout.slots) :
    (∃ relations, slot.relations names layout.table = .ok relations) ↔
      slot.Known graph := by
  have placed := laid.placed member
  simp only [Slot.Known]
  generalize placement : slot.placement = stored at placed
  cases placed with
  | scalar | scalars | strangeObject | strangeCollection | composite =>
      simp [Slot.relations, placement]
  | @object target kind known column =>
      obtain ⟨table, found⟩ := allocated.table_isOk.2 known
      simp [Slot.relations, placement, found]
  | @collection collection target table kind found mappingKey =>
      have resolved : (∃ table, names.table target = .ok table) ↔
          target ∈ graph.names := allocated.table_isOk
      simpa [Slot.relations, placement] using resolved

/-- The relations of a type can be made when all of its slots are known. -/
theorem Layout.relations_isOk (allocated : names.Allocated graph catalog)
    (laid : LaidOut graph names layout) :
    (∃ relations, layout.relations names = .ok relations) ↔
      ∀ slot ∈ layout.slots, slot.Known graph := by
  have sequence : (∃ relations, layout.relations names = .ok relations) ↔
      ∃ relations,
        layout.slots.mapM (Slot.relations names layout.table) = .ok relations := by
    simp [Layout.relations]
  rw [sequence, mapM_isOk]
  exact forall₂_congr fun slot member =>
    Slot.relations_isOk allocated laid member

/-- What a synthesis is made of: the layouts of all types, in order, and their
relations. -/
structure Synthesized (graph : TypeGraph) (names : TableNames)
    (synthesis : Synthesis) (layouts : List Layout)
    (relations : List (List Relation)) : Prop where
  types : layouts.map Layout.type = graph.types
  laid : ∀ layout ∈ layouts, LaidOut graph names layout
  related : List.Forall₂
    (fun layout found => layout.relations names = .ok found) layouts relations
  schema : synthesis.schema =
    .build (layouts.flatMap Layout.tables) relations.flatten
  warnings : synthesis.warnings = layouts.flatMap Layout.warnings

theorem layOut_eq_ok {type : RecordType} {found : Layout × List Relation} :
    layOut graph names type = .ok found ↔
      Layout.of graph names type = .ok found.1 ∧
        found.1.relations names = .ok found.2 := by
  obtain ⟨layout, relations⟩ := found
  simp [layOut]

theorem exists_synthesized {synthesis : Synthesis}
    (made : synthesize graph names = .ok synthesis) :
    ∃ layouts relations,
      Synthesized graph names synthesis layouts relations := by
  simp only [synthesize, bind_eq_ok, pure_eq_ok, mapM_eq_ok, layOut_eq_ok] at made
  obtain ⟨found, each, rfl⟩ := made
  refine ⟨found.map Prod.fst, found.map Prod.snd, ?_, ?_, ?_, ?_, ?_⟩
  · have same : List.Forall₂ (fun type pair => type = pair.1.type)
        graph.types found := by
      apply each.imp
      intro type pair both
      obtain ⟨table, _, equal⟩ := Layout.of_eq_ok.1 both.1
      rw [← equal]
    rw [List.map_map]
    exact (List.forall₂_eq_eq_eq ▸ List.forall₂_map_right_iff.2 same :
      graph.types = _).symm
  · intro layout member
    obtain ⟨pair, present, rfl⟩ := List.mem_map.1 member
    obtain ⟨type, inside, both⟩ := exists_item_of_forall₂ each present
    exact (LaidOut.of_eq_ok inside both.1).1
  · rw [List.forall₂_map_left_iff, List.forall₂_map_right_iff, List.forall₂_same]
    intro pair present
    obtain ⟨type, _, both⟩ := exists_item_of_forall₂ each present
    exact both.2
  · simp only [List.flatMap_def, List.map_map, Function.comp_def]
  · simp only [List.flatMap_map]

/-- A graph has a schema exactly when all slots of its types are known. -/
theorem synthesize_isOk (allocated : names.Allocated graph catalog) :
    (∃ synthesis, synthesize graph names = .ok synthesis) ↔
      ∀ layout, LaidOut graph names layout →
        ∀ slot ∈ layout.slots, slot.Known graph := by
  have sequence : (∃ synthesis, synthesize graph names = .ok synthesis) ↔
      ∃ found, graph.types.mapM (layOut graph names) = .ok found := by
    simp [synthesize]
  rw [sequence, mapM_isOk]
  constructor
  · intro each layout laid
    obtain ⟨found, made⟩ := each layout.type laid.member
    obtain ⟨same, related⟩ := layOut_eq_ok.1 made
    obtain rfl : found.1 = layout := by
      simpa [laid.made] using same.symm
    exact (Layout.relations_isOk allocated laid).1 ⟨_, related⟩
  · intro known type member
    obtain ⟨layout, laid, rfl⟩ := allocated.exists_layout member
    obtain ⟨relations, related⟩ :=
      (Layout.relations_isOk allocated laid).2 (known layout laid)
    exact ⟨(layout, relations), layOut_eq_ok.2 ⟨laid.made, related⟩⟩

/-- Where the relations of a slot cannot be made, the slot is a collection whose
objects are of no type of the graph, and this is the error. -/
theorem Slot.relations_eq_error (allocated : names.Allocated graph catalog)
    (laid : LaidOut graph names layout) (member : slot ∈ layout.slots)
    {error : CompileError}
    (failed : slot.relations names layout.table = .error error) :
    ∃ junction, slot.placement = .junction junction ∧
      junction.target ∉ graph.names ∧ error = .unknownType junction.target := by
  have placed := laid.placed member
  simp only [Slot.relations] at failed
  generalize slot.placement = stored at placed failed
  cases placed with
  | scalar | scalars | strangeObject | strangeCollection | composite =>
      exact absurd failed (by simp)
  | object kind known column =>
      obtain ⟨table, found⟩ := allocated.table_isOk.2 known
      simp [found] at failed
  | @collection collection target table kind found mappingKey =>
      simp only [bind_eq_error, pure_ne_error, and_false, exists_false,
        or_false] at failed
      refine ⟨_, rfl, ?_, TableNames.table_eq_error failed⟩
      intro known
      obtain ⟨table, present⟩ := allocated.table_isOk.2 known
      rw [present] at failed
      cases failed

/-- Where a graph has no schema, a stored collection holds objects of no type of
the graph, and this is the error. -/
theorem synthesize_eq_error (allocated : names.Allocated graph catalog)
    {error : CompileError} (failed : synthesize graph names = .error error) :
    ∃ layout, LaidOut graph names layout ∧ ∃ slot ∈ layout.slots,
      ∃ junction, slot.placement = .junction junction ∧
        junction.target ∉ graph.names ∧
        error = .unknownType junction.target := by
  simp only [synthesize, bind_eq_error, pure_ne_error, and_false, exists_false,
    or_false] at failed
  obtain ⟨type, member, step⟩ := exists_error_of_mapM failed
  obtain ⟨layout, laid, rfl⟩ := allocated.exists_layout member
  simp only [layOut, laid.made, ok_bind, Layout.relations, bind_eq_error,
    pure_ne_error, and_false, exists_false, or_false] at step
  obtain ⟨slot, present, here⟩ := exists_error_of_mapM step
  exact ⟨layout, laid, slot, present,
    Slot.relations_eq_error allocated laid present here⟩

namespace Synthesized

variable {synthesis : Synthesis} {layouts : List Layout}
variable {relations : List (List Relation)}

/-- The layouts of a synthesis are all layouts of the graph. -/
theorem mem_layouts (synthesized :
      Synthesized graph names synthesis layouts relations) :
    layout ∈ layouts ↔ LaidOut graph names layout := by
  refine ⟨synthesized.laid layout, ?_⟩
  intro laid
  have member : layout.type ∈ layouts.map Layout.type := by
    rw [synthesized.types]
    exact laid.member
  obtain ⟨other, present, sameType⟩ := List.mem_map.1 member
  obtain rfl : other = layout :=
    (synthesized.laid other present).eq_of_name_eq laid (by rw [sameType])
  exact present

/-- Where there is a schema, all slots are known. -/
theorem known (allocated : names.Allocated graph catalog)
    (synthesized : Synthesized graph names synthesis layouts relations)
    (laid : LaidOut graph names layout) :
    ∀ slot ∈ layout.slots, slot.Known graph := by
  obtain ⟨found, _, related⟩ := exists_result_of_forall₂
    synthesized.related (synthesized.mem_layouts.2 laid)
  exact (Layout.relations_isOk allocated laid).1 ⟨found, related⟩

theorem layouts_nodup (synthesized :
      Synthesized graph names synthesis layouts relations) :
    (layouts.map fun layout => layout.type.name).Nodup := by
  have nodup := graph.names_nodup
  rw [← synthesized.types, List.map_map] at nodup
  exact nodup

/-- Apart from foreign keys, the tables are those of the layouts. -/
theorem tables_bare (synthesized :
      Synthesized graph names synthesis layouts relations) :
    synthesis.schema.tables.map Table.bare = layouts.flatMap Layout.tables := by
  rw [synthesized.schema, Schema.build_bare]
  have bare : ∀ table ∈ layouts.flatMap Layout.tables, table.bare = table := by
    intro table member
    obtain ⟨layout, _, inside⟩ := List.mem_flatMap.1 member
    exact layout_tables_bare inside
  rw [List.map_congr_left bare, List.map_id']

/-- Every table of a layout is in the schema. -/
theorem exists_table (synthesized :
      Synthesized graph names synthesis layouts relations)
    (laid : LaidOut graph names layout) {table : Table}
    (member : table ∈ layout.tables) :
    ∃ built ∈ synthesis.schema.tables, built.bare = table := by
  have present : table ∈ synthesis.schema.tables.map Table.bare := by
    rw [synthesized.tables_bare]
    exact List.mem_flatMap.2 ⟨layout, synthesized.mem_layouts.2 laid, member⟩
  exact List.mem_map.1 present

/-- The table of a type is found by its name, with the foreign keys of the
relations that it owns. -/
theorem table?_type (allocated : names.Allocated graph catalog)
    (synthesized : Synthesized graph names synthesis layouts relations)
    (laid : LaidOut graph names layout) :
    synthesis.schema.table? layout.table =
      some ((Table.numbered layout.table layout.columns).withKeys
        (Schema.keysOf relations.flatten layout.table)) := by
  have found : (layouts.flatMap Layout.tables).find?
      (fun table => table.name = layout.table) =
      some (.numbered layout.table layout.columns) := by
    refine find?_eq_some_of_unique ?_ (by simp [Table.numbered]) ?_
    · exact List.mem_flatMap.2 ⟨layout, synthesized.mem_layouts.2 laid,
        mem_layout_tables.2 (Or.inl rfl)⟩
    · intro table member sameName
      have sameTable : table.name = layout.table := by simpa using sameName
      obtain ⟨other, present, inside⟩ := List.mem_flatMap.1 member
      have otherLaid := synthesized.laid other present
      rcases mem_layout_tables.1 inside with
        rfl | ⟨slot, owned, junction, placement, rfl⟩
      · have sameType := allocated.table_inj laid.table
          (otherLaid.table.trans (congrArg some sameTable))
        rw [laid.eq_of_name_eq otherLaid sameType]
      · have found := otherLaid.junction_table owned placement
        exact absurd sameTable.symm (allocated.table_ne_junction laid.table found)
  rw [synthesized.schema, Schema.build_table?, found]
  rfl

/-- An object is a foreign key of the table of its owner to the table of its
type. -/
theorem foreignKey_mem (synthesized :
      Synthesized graph names synthesis layouts relations)
    (laid : LaidOut graph names layout) (member : slot ∈ layout.slots)
    {column target : String} (placement : slot.placement = .foreignKey column target)
    {other : Layout} (otherLaid : LaidOut graph names other)
    (named : other.type.name = target) :
    (Relation.toRows layout.table column other.table).foreignKey ∈
      Schema.keysOf relations.flatten layout.table := by
  obtain ⟨found, present, related⟩ := exists_result_of_forall₂
    synthesized.related (synthesized.mem_layouts.2 laid)
  simp only [Layout.relations, bind_eq_ok, pure_eq_ok, mapM_eq_ok] at related
  obtain ⟨each, related, rfl⟩ := related
  obtain ⟨single, inside, made⟩ := exists_result_of_forall₂ related member
  have target : names.table target = .ok other.table :=
    TableNames.table_eq_ok.2 (named ▸ otherLaid.table)
  have same : single = [.toRows layout.table column other.table] := by
    simpa [Slot.relations, placement, target, eq_comm] using made
  refine List.mem_map.2 ⟨.toRows layout.table column other.table, ?_, rfl⟩
  refine List.mem_filter.2 ⟨?_, by simp [Relation.toRows]⟩
  refine List.mem_flatten.2 ⟨each.flatten, present, ?_⟩
  exact List.mem_flatten.2 ⟨single, inside, by simp [same]⟩

end Synthesized

end GraphSchema.Storage
