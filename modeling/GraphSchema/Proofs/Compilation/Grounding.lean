import GraphSchema.Proofs.Compilation.Artifacts
import GraphSchema.Proofs.Query.Texts

/-!
# What queries name

The queries of a compilation name only what its schema has. The documents of a
type select all columns of its table in their order, a nested query selects
columns of the table of the type that its field refers to, and a column that a
field or a parameter reads is one that the query above it selects.
-/

namespace GraphSchema

open Query (Node Param Select)
open Relational (Table primaryKey)
open Sql (written)
open Storage

/-- Whether a schema has a table with the columns of a junction. -/
def HasJunction (schema : Relational.Schema) (name ownerColumn : String)
    (keyColumn : Option String) (targetColumn : String) : Prop :=
  ∃ table ∈ schema.tables, table.name = name ∧
    ownerColumn ∈ table.columnNames ∧ targetColumn ∈ table.columnNames ∧
    ∀ column, keyColumn = some column → column ∈ table.columnNames

/-- Whether a query for objects of a type selects, as its text says, columns of the
table of the type, and names a junction only with columns that it has. -/
structure GroundedQuery (compilation : Compilation) (type : String)
    (query : Select) : Prop where
  table : ∃ table, compilation.storage? type = some table ∧
    query.table = table.name ∧ query.columns ⊆ table.columnNames
  junction : ∀ link size, query = .linked link size →
    HasJunction compilation.schema link.junction link.ownerColumn link.keyColumn
      link.targetColumn
  selection : query.SelectsColumns
  text : query.text =
    "SELECT " ++ Query.commaList query.selection ++ " FROM " ++ query.source ++
      query.restriction

/-- Whether a node in the definition of objects of a type names only what the
schema has. The row has the columns that the nearest query above selects. -/
inductive GroundedNode (compilation : Compilation) (graph : TypeGraph)
    (names : TableNames) : RecordType → List String → String × Node → Prop where
  | column {type : RecordType} {row : List String} {field column : String}
      {columnType : Relational.ColumnType} (selected : column ∈ row) :
      GroundedNode compilation graph names type row
        (field, .field column columnType)
  | query {type target : RecordType} {row : List String} {field : String}
      {node : Node} {query : Select} (runs : node.query? = some query)
      (member : target ∈ graph.types)
      (refers : RefersTo graph names type field target)
      (grounded : GroundedQuery compilation target.name query)
      (params : ∀ name column, (name, Param.field column) ∈ node.params →
        column ∈ row)
      (nested : ∀ entry ∈ node.definition,
        GroundedNode compilation graph names target query.columns entry) :
      GroundedNode compilation graph names type row (field, node)

/-- Whether the query of a document for objects of a type selects exactly some
columns, and the definition below it is grounded. -/
structure GroundedRoot (compilation : Compilation) (graph : TypeGraph)
    (names : TableNames) (type : RecordType) (columns : List String)
    (query : Select) (definition : List (String × Node)) : Prop where
  grounded : GroundedQuery compilation type.name query
  complete : query.columns = columns
  selection : query.selection = columns.map written
  nested : ∀ entry ∈ definition,
    GroundedNode compilation graph names type columns entry

variable {settings : Settings} {graph : TypeGraph} {catalog : List String}
variable {names : TableNames} {compilation : Compilation}
variable {layouts : List Layout} {relations : List (List Relational.Relation)}
variable {layout : Layout} {parts : List Query.Part}

/-- The lowest level of a definition is grounded in any type, because it shows
columns only. -/
theorem groundedNode_flat {type : RecordType} {entry : String × Node}
    (member : entry ∈ (Query.flat layout).fields) :
    GroundedNode compilation graph names type (Query.flat layout).columns entry := by
  obtain ⟨field, column, columnType, rfl, selected⟩ := Query.mem_flat_fields member
  exact .column selected

namespace Compiled

/-- The table of a junction is in the schema. -/
theorem hasJunction (compiled :
      Compiled settings graph catalog names compilation layouts relations)
    (laid : LaidOut graph names layout) {slot : Slot}
    (member : slot ∈ layout.slots) {junction : Junction}
    (placement : slot.placement = .junction junction) :
    HasJunction compilation.schema junction.table junction.ownerColumn
      junction.keyColumn junction.targetColumn := by
  obtain ⟨table, present, bare⟩ := compiled.synthesized.exists_table laid
    (mem_layout_tables.2 (Or.inr ⟨slot, member, junction, placement, rfl⟩))
  have columns : table.columnNames = junction.toTable.columnNames := by
    rw [← bare, Table.bare_columnNames]
  have name : table.name = junction.table := by
    rw [← Table.bare_name, bare]
    rfl
  rw [junction.toTable_columnNames] at columns
  refine ⟨table, present, name, ?_, ?_, ?_⟩
  · simp [columns]
  · simp [columns]
  · intro column key
    simp [columns, key]

theorem groundedQuery (compiled :
      Compiled settings graph catalog names compilation layouts relations)
    (laid : LaidOut graph names layout) {query : Select}
    (sameTable : query.table = layout.table)
    (columns : query.columns ⊆ layout.columnNames)
    (junction : ∀ link size, query = .linked link size →
      HasJunction compilation.schema link.junction link.ownerColumn link.keyColumn
        link.targetColumn)
    (selection : query.SelectsColumns) :
    GroundedQuery compilation layout.type.name query := by
  obtain ⟨table, found, _, name, same⟩ := compiled.storage?_eq laid
  exact ⟨⟨table, found, sameTable.trans name.symm, same ▸ columns⟩, junction,
    selection, query.text_eq⟩

/-- Every part of the definition of a type is grounded. -/
theorem groundedNode (compiled :
      Compiled settings graph catalog names compilation layouts relations)
    (expanded : Query.Expanded ⟨graph, names, settings.pageSize⟩ layout parts)
    {slot : Slot} (member : slot ∈ layout.slots) {part : Query.Part}
    (present : part ∈ parts)
    (partOf : Query.PartOf ⟨graph, names, settings.pageSize⟩ slot part)
    {entry : String × Node} (found : part.field = some entry) :
    GroundedNode compilation graph names layout.type
      (Query.ofParts parts).columns entry := by
  have laid : LaidOut graph names layout := expanded.laid
  cases partOf with
  | column placement =>
      cases found
      exact .column (Query.mem_ofParts_columns present rfl)
  | @object column target other placement otherLaid named =>
      cases found
      have kind := laid.foreignKey_refers member placement
      refine .query rfl otherLaid.member ?_ ?_ ?_ ?_
      · exact laid.refersTo member (by simp [kind, named, Kind.references])
      · refine compiled.groundedQuery otherLaid rfl ?_ ?_ (Or.inl rfl)
        · exact Query.flat_columns_subset other
        · intro link size equal
          cases equal
      · intro name selected single
        obtain ⟨rfl, rfl⟩ : name = column ∧ selected = column := by
          simpa [Query.objectNode, Node.params] using single
        exact Query.mem_ofParts_columns present rfl
      · intro entry nested
        exact groundedNode_flat nested
  | @collection junction other placement otherLaid named =>
      cases found
      have kind := laid.junction_refers member placement
      refine .query rfl otherLaid.member ?_ ?_ ?_ ?_
      · exact laid.refersTo member (by simp [kind, named, Kind.references])
      · apply compiled.groundedQuery otherLaid rfl
        · exact Query.flat_columns_subset other
        · intro link size equal
          cases equal
          exact compiled.hasJunction laid member placement
        · exact Or.inr ⟨_, _, rfl, rfl⟩
      · intro name selected single
        obtain ⟨rfl, rfl⟩ : name = primaryKey ∧ selected = primaryKey := by
          simpa [Query.collectionNode, Node.params] using single
        exact List.mem_cons_self
      · intro entry nested
        exact groundedNode_flat nested
  | dropped placement => cases found

/-- A query for all columns of the table of a type, with the definition of the
type below it, is grounded. -/
theorem groundedRoot (compiled :
      Compiled settings graph catalog names compilation layouts relations)
    (expanded : Query.Expanded ⟨graph, names, settings.pageSize⟩ layout parts)
    {query : Select} (sameTable : query.table = layout.table)
    (columns : query.columns = (Query.ofParts parts).columns)
    (selection : query.selection = query.columns.map written)
    (unlinked : ∀ link size, query ≠ .linked link size) :
    GroundedRoot compilation graph names layout.type
      (Query.ofParts parts).columns query (Query.ofParts parts).fields := by
  constructor
  · refine compiled.groundedQuery expanded.laid sameTable ?_ ?_
      (Or.inl selection)
    · rw [columns, expanded.columns_eq]
      exact List.Subset.refl _
    · intro link size equal
      exact absurd equal (unlinked link size)
  · exact columns
  · rw [selection, columns]
  · intro entry member
    rcases expanded.mem_fields member with
      rfl | ⟨slot, inside, part, present, partOf, found⟩
    · exact .column List.mem_cons_self
    · exact compiled.groundedNode expanded inside present partOf found

end Compiled

/-- The queries of a compilation name only what its schema has: the table of a
type has exactly the columns that both documents of the type select, and all
nodes below are grounded. -/
theorem compile_grounded
    (made : compile settings graph catalog = .ok compilation)
    {type : RecordType} (member : type ∈ graph.types) :
    ∃ artifacts table, compilation.artifacts? type.name = some artifacts ∧
      compilation.schema.table? artifacts.tableName = some table ∧
      artifacts.entityQuery.columns = table.columnNames ∧
      artifacts.collectionQuery.columns = table.columnNames ∧
      ∃ row page rowParams pageParams definition,
        artifacts.entityQuery.root = .entity row rowParams definition ∧
        artifacts.collectionQuery.root = .object [
          ("totalResults",
            .value (.count artifacts.tableName) [] Query.countColumn),
          ("startIndex", .context Query.startIndex (some 0)),
          ("itemsPerPage", .literal settings.pageSize.toNat),
          ("entry", .collection page pageParams definition none)] ∧
        GroundedRoot compilation graph
          (TableNames.allocate graph settings.tablePrefix catalog) type
          table.columnNames row definition ∧
        GroundedRoot compilation graph
          (TableNames.allocate graph settings.tablePrefix catalog) type
          table.columnNames page definition := by
  obtain ⟨layouts, relations, compiled⟩ := exists_compiled made
  obtain ⟨layout, laid, rfl⟩ := compiled.allocated.exists_layout member
  obtain ⟨artifacts, parts, found, parted⟩ := compiled.exists_made laid
  have expanded := parted.expanded
  obtain ⟨table, _, stored, _, columns⟩ := compiled.storage?_eq laid
  have selected : (Query.ofParts parts).columns = table.columnNames :=
    expanded.columns_eq.trans columns.symm
  refine ⟨artifacts, table, found, ?_, ?_, ?_, ?_⟩
  · rw [parted.tableName, stored]
  · rw [parted.entityQuery]
    exact selected
  · rw [parted.collectionQuery]
    exact selected
  · rw [parted.entityQuery, parted.collectionQuery, parted.tableName, ← selected]
    refine ⟨_, _, _, _, _, rfl, rfl, ?_, ?_⟩
    · exact compiled.groundedRoot expanded rfl rfl rfl (by simp)
    · exact compiled.groundedRoot expanded rfl rfl rfl (by simp)

/-- Two types that refer to each other, one of them also to itself. -/
def neighbourhood : TypeGraph where
  types := [⟨"Person", [⟨"name", .scalar .string, none⟩,
      ⟨"home", .object "House", none⟩,
      ⟨"friends", .collection .map (.type "Person"), none⟩]⟩,
    ⟨"House", [⟨"owner", .object "Person", none⟩]⟩]
  names_nodup := by decide

theorem neighbourhood_grounded :
    ∃ compilation artifacts table,
      compile {} neighbourhood [] = .ok compilation ∧
      compilation.artifacts? "House" = some artifacts ∧
      compilation.schema.table? artifacts.tableName = some table ∧
      artifacts.entityQuery.columns = table.columnNames ∧
      ∃ row params definition,
        artifacts.entityQuery.root = .entity row params definition ∧
        GroundedRoot compilation neighbourhood
          (TableNames.allocate neighbourhood "app" [])
          ⟨"House", [⟨"owner", .object "Person", none⟩]⟩ table.columnNames row
          definition := by
  have succeeds : ∃ compilation, compile {} neighbourhood [] = .ok compilation :=
    ⟨_, rfl⟩
  have member : ⟨"House", [⟨"owner", .object "Person", none⟩]⟩ ∈
      neighbourhood.types := by decide
  obtain ⟨compilation, made⟩ := succeeds
  obtain ⟨artifacts, table, found, stored, columns, _, row, _, params, _,
      definition, root, _, grounded, _⟩ :=
    compile_grounded made member
  exact ⟨compilation, artifacts, table, made, found, stored, columns, row, params,
    definition, root, grounded⟩

end GraphSchema
