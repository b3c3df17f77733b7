import GraphSchema.Proofs.Compilation.Artifacts
import GraphSchema.Proofs.Storage.ForeignKeys
import GraphSchema.Proofs.Storage.MappingTables

/-!
# Tables of collections

The mapping entry of a collection names a table and two of its columns, and does
not say where the keys of a map go. It need not: neither of the two columns can
take the name of the key column, so this is the same in the table of every map. Hence
the entry tells all columns of a table of the schema, and the schema has relations
from the two columns to the tables of the owner and of what is held.
-/

namespace GraphSchema

open Relational (Column Relation Schema Table)
open Storage

namespace Storage

open Name (Pool)

/-! ## Columns of a junction -/

/-- The columns for the keys of a collection. -/
def keyColumns : Collection → List Column
  | .array => []
  | .map => [.plain mapKeyColumn .string]

/-- The name of the key column is free next to the column of the owner. -/
theorem claim_mapKeyColumn (owner : String) :
    ((freshPool.claim (rowColumn owner)).2.claim mapKeyColumn).1 =
      mapKeyColumn := by
  have ends : mapKeyColumn.toList.getLast? = some 'e' := by decide
  have other := claim_rowColumn_ne ends (by decide) (by decide) freshPool owner
  rw [Pool.claim_eq_self, Pool.claim_used, List.mem_cons, not_or]
  exact ⟨other.symm, by decide⟩

variable {graph : TypeGraph} {catalog : List String} {names : TableNames}
variable {layout : Layout} {slot : Slot}

/-- The columns of a junction are those that its entry in a mapping table tells. -/
theorem LaidOut.junction_columns (laid : LaidOut graph names layout)
    (member : slot ∈ layout.slots) {junction : Junction}
    (placement : slot.placement = .junction junction) :
    junction.toTable.columns = Column.key ::
      .plain junction.ownerColumn .integer ::
        (keyColumns junction.collection ++
          [.plain junction.targetColumn .integer]) := by
  have placed := laid.placed member
  rw [placement] at placed
  cases placed with
  | @collection collection target table kind found mappingKey =>
      cases collection with
      | array => rfl
      | map =>
          have key := claim_mapKeyColumn layout.type.name
          simp [makeJunction, Junction.toTable, Table.numbered, keyColumns, key]

/-! ## Relations of a junction -/

namespace Synthesized

variable {synthesis : Synthesis} {layouts : List Layout}
variable {relations : List (List Relation)}

/-- The relations of a schema are those of all slots. -/
theorem mem_relations (synthesized :
      Synthesized graph names synthesis layouts relations)
    (laid : LaidOut graph names layout) (member : slot ∈ layout.slots)
    {relation : Relation}
    (recorded : relation ∈ slot.recorded names layout.table) :
    relation ∈ synthesis.schema.relations := by
  rw [Schema.foldlM_addRelation?_relations synthesized.relations_accepted,
    List.nil_append, synthesized.relations_eq]
  refine List.mem_flatMap.2 ⟨layout, synthesized.mem_layouts.2 laid, ?_⟩
  exact List.mem_flatMap.2 ⟨slot, member, recorded⟩

end Synthesized

/-- Whether a schema has a table for a collection: each of its rows holds the number
of an owner, the key if the collection is a map, and the number of an object. -/
structure HasCollectionTable (schema : Schema) (collection : Collection)
    (table ownerColumn owner targetColumn target : String) : Prop where
  columns : ∃ built ∈ schema.tables, built.name = table ∧
    built.columns = Column.key :: .plain ownerColumn .integer ::
      (keyColumns collection ++ [.plain targetColumn .integer]) ∧
    built.columnNames.Nodup
  owner : Relation.toRows table ownerColumn owner ∈ schema.relations
  target : Relation.toRows table targetColumn target ∈ schema.relations

/-- A junction has its table in the schema. -/
theorem Synthesized.hasCollectionTable {synthesis : Synthesis}
    {layouts : List Layout} {relations : List (List Relation)}
    (synthesized : Synthesized graph names synthesis layouts relations)
    (laid : LaidOut graph names layout) (member : slot ∈ layout.slots)
    {junction : Junction} (placement : slot.placement = .junction junction)
    {other : Layout} (otherLaid : LaidOut graph names other)
    (named : other.type.name = junction.target) :
    HasCollectionTable synthesis.schema junction.collection junction.table
      junction.ownerColumn layout.table junction.targetColumn other.table := by
  have inside : junction.toTable ∈ layout.tables :=
    mem_layout_tables.2 (Or.inr ⟨slot, member, junction, placement, rfl⟩)
  have recorded : slot.recorded names layout.table =
      [.toRows junction.table junction.ownerColumn layout.table,
        .toRows junction.table junction.targetColumn other.table] :=
    Slot.recorded_junction placement (named ▸ otherLaid.table)
  constructor
  case columns =>
    obtain ⟨built, present, bare⟩ := synthesized.exists_table laid inside
    have columns := congrArg Table.columns bare
    have distinct := laid.table_columnNames_nodup inside
    rw [← bare, Table.bare_columnNames] at distinct
    refine ⟨built, present, congrArg Table.name bare, ?_, distinct⟩
    exact columns.trans (laid.junction_columns member placement)
  case owner =>
    apply synthesized.mem_relations laid member
    rw [recorded]
    exact List.mem_cons_self
  case target =>
    apply synthesized.mem_relations laid member
    rw [recorded]
    exact List.mem_cons_of_mem _ (List.mem_singleton_self _)

/-- The entry of a collection is that of a slot with a junction. -/
theorem Slot.entry?_relation {key property table ownerColumn targetColumn : String}
    {collection : Collection}
    (found : slot.entry? = some (key,
      .relation property collection table ownerColumn targetColumn)) :
    ∃ junction, slot.placement = .junction junction ∧
      junction.collection = collection ∧ junction.table = table ∧
      junction.ownerColumn = ownerColumn ∧
      junction.targetColumn = targetColumn := by
  rw [Slot.entry?] at found
  cases placement : slot.placement with
  | column | foreignKey | dropped => simp [placement] at found
  | junction junction =>
      simp only [placement, Option.some.injEq, Prod.mk.injEq,
        Entry.relation.injEq] at found
      obtain ⟨_, _, sameCollection, sameTable, owner, target⟩ := found
      exact ⟨junction, rfl, sameCollection, sameTable, owner, target⟩

end Storage

/-- The entry of a collection in the mapping table of a type tells the columns of a
table of the schema and their order, and which of them have relations to the table of
the type and to that of what is held. -/
theorem compile_collectionTables {settings : Settings} {graph : TypeGraph}
    {catalog : List String} {compilation : Compilation}
    (made : compile settings graph catalog = .ok compilation)
    {type : RecordType} (member : type ∈ graph.types) :
    ∃ artifacts layout,
      compilation.artifacts? type.name = some artifacts ∧
      LaidOut graph (TableNames.allocate graph settings.tablePrefix catalog)
        layout ∧ layout.type = type ∧
      ∀ key property collection table ownerColumn targetColumn,
        (key, .relation property collection table ownerColumn targetColumn) ∈
          artifacts.mapping →
        ∃ slot ∈ layout.slots, ∃ target held,
          slot.entry? = some (key,
            .relation property collection table ownerColumn targetColumn) ∧
          slot.property.kind = .collection collection (.type target) ∧
          compilation.artifacts? target = some held ∧
          HasCollectionTable compilation.schema collection table ownerColumn
            artifacts.tableName targetColumn held.tableName := by
  obtain ⟨layouts, relations, compiled⟩ := exists_compiled made
  obtain ⟨layout, laid, rfl⟩ := compiled.allocated.exists_layout member
  obtain ⟨artifacts, parts, found, parted⟩ := compiled.exists_made laid
  refine ⟨artifacts, layout, found, laid, rfl, ?_⟩
  intro key property collection table ownerColumn targetColumn entry
  rw [parted.mapping, laid.mapping_eq] at entry
  obtain ⟨slot, inside, entered⟩ := List.mem_filterMap.1 entry
  obtain ⟨junction, placement, rfl, rfl, rfl, rfl⟩ := Slot.entry?_relation entered
  obtain ⟨other, otherLaid, named⟩ := compiled.allocated.exists_layout_named
    (compiled.known laid slot inside junction placement)
  obtain ⟨held, heldParts, heldFound, heldMade⟩ := compiled.exists_made otherLaid
  refine ⟨slot, inside, junction.target, held, entered,
    laid.junction_refers inside placement, named ▸ heldFound, ?_⟩
  rw [parted.tableName, heldMade.tableName]
  exact compiled.synthesized.hasCollectionTable laid inside placement otherLaid named

/-- A type that is called like the column for keys, with maps of its own objects and
of others, and a list under the name of one of them. -/
def aliases : TypeGraph where
  types := [⟨"Name", [⟨"name", .collection .map (.type "Name"), none⟩,
      ⟨"uses", .collection .map (.type "Use"), none⟩,
      ⟨"uses", .collection .array (.type "Name"), none⟩]⟩,
    ⟨"Use", []⟩]
  names_nodup := by decide

theorem aliases_collectionTables :
    ∃ type ∈ aliases.types, ∃ compilation artifacts,
      compile {} aliases [] = .ok compilation ∧
      compilation.artifacts? type.name = some artifacts ∧
      artifacts.mapping =
        [("name", .relation "name" .map "app_name_name" "name_id" "name_id_1"),
          ("uses", .relation "uses" .map "app_name_name_1" "name_id" "use_id"),
          ("uses_1",
            .relation "uses" .array "app_name_name_1" "name_id" "name_id_1")] ∧
      ∃ target held, compilation.artifacts? target = some held ∧
        HasCollectionTable compilation.schema .map "app_name_name_1" "name_id"
          artifacts.tableName "use_id" held.tableName := by
  have member : aliases.types.head (by decide) ∈ aliases.types := by decide
  have succeeds : ∃ compilation artifacts, compile {} aliases [] = .ok compilation ∧
      compilation.artifacts? "Name" = some artifacts ∧
      artifacts.mapping =
        [("name", .relation "name" .map "app_name_name" "name_id" "name_id_1"),
          ("uses", .relation "uses" .map "app_name_name_1" "name_id" "use_id"),
          ("uses_1",
            .relation "uses" .array "app_name_name_1" "name_id" "name_id_1")] := by
    refine ⟨_, _, rfl, rfl, ?_⟩
    decide +kernel
  obtain ⟨compilation, artifacts, made, found, mapping⟩ := succeeds
  obtain ⟨same, layout, again, _, _, described⟩ :=
    compile_collectionTables made member
  obtain rfl := Option.some.inj (again.symm.trans found)
  have entry : ("uses",
      .relation "uses" .map "app_name_name_1" "name_id" "use_id") ∈ same.mapping := by
    rw [mapping]
    decide
  obtain ⟨slot, _, target, held, _, _, holds, table⟩ :=
    described _ _ _ _ _ _ entry
  exact ⟨_, member, compilation, same, made, found, mapping, target, held, holds,
    table⟩

end GraphSchema
