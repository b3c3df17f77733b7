import GraphSchema.Compilation.Basic
import GraphSchema.Proofs.Query.Walks
import GraphSchema.Proofs.Shape.Fragments
import GraphSchema.Proofs.Storage.Namesakes

/-!
# What a compilation is made of

All artifacts of a type are made from its one layout, and the artifacts of a
compilation are those of the types of the graph, in order. Shapes can always be
made, because a fragment refers to types of the graph and all of these are
registered. So a compilation succeeds as soon as the schema can be made.
-/

namespace GraphSchema

open Relational (Relation Schema Table primaryKey)
open Storage

/-- The name by which the documents of a type refer to a type. -/
def referenceName (type target : String) : String :=
  if target = type then target
  else Shape.importedName target (entityName target)

theorem registry_lookup {graph : TypeGraph} {target : String}
    (known : target ∈ graph.names) :
    (registry graph).lookup target = some (entityName target) := by
  apply lookup_of_mem
  · simpa [registry, TypeGraph.names, Function.comp_def] using graph.names_nodup
  · exact List.mem_map.2 ⟨target, known, rfl⟩

/-- The document for the objects of a laid out type. -/
theorem entityShape_isOk {graph : TypeGraph} {names : TableNames}
    {layout : Layout} (laid : LaidOut graph names layout) :
    ∃ imports,
      Shape.entity layout.type.name (Shape.fragment graph layout)
          (registry graph) =
        .ok ⟨imports, layout.type.name, (primaryKey, .integer) ::
          (Shape.fragment graph layout).properties.map fun field =>
            (field.1, field.2.rename (referenceName layout.type.name))⟩ := by
  have known : ∀ field ∈ (Shape.fragment graph layout).properties,
      ∀ target ∈ field.2.targets,
        Shape.Scope.Knows ⟨layout.type.name, registry graph, field.1⟩ target := by
    intro field member target inside
    have present := Shape.fragment_targets member target inside
    exact Or.inr (by simp [registry_lookup present])
  have free : ∀ name ∈ (Shape.fragment graph layout).properties.map Prod.fst,
      name ∉ freshPool.used := by
    intro name member
    simpa [freshPool] using Shape.fragment_field_ne_primaryKey laid member
  obtain ⟨imports, resolved⟩ :=
    Shape.resolveFields_known layout.type.name (registry graph) known
      (Shape.fragment_fields_nodup laid) free []
  refine ⟨imports, ?_⟩
  rw [Shape.entity, resolved, ok_bind]
  have renamed : ∀ field ∈ (Shape.fragment graph layout).properties,
      (field.1, field.2.rename (Shape.Scope.referenceName
        ⟨layout.type.name, registry graph, field.1⟩)) =
      (field.1, field.2.rename (referenceName layout.type.name)) := by
    intro field member
    refine congrArg (Prod.mk field.1) (Shape.rename_congr field.2 ?_)
    intro target inside
    have present := Shape.fragment_targets member target inside
    simp [Shape.Scope.referenceName, referenceName, registry_lookup present]
  rw [List.map_congr_left renamed]
  rfl

/-- The artifacts of a type, given the layout and the parts of its documents. -/
structure Made (context : Query.Context) (layout : Layout)
    (parts : List Query.Part) (artifacts : Artifacts) : Prop where
  expanded : Query.Expanded context layout parts
  typeName : artifacts.typeName = layout.type.name
  tableName : artifacts.tableName = layout.table
  entityQuery : artifacts.entityQuery =
    Query.rowDocument ⟨layout.table, Query.ofParts parts⟩
  collectionQuery : artifacts.collectionQuery =
    Query.pageDocument context.pageSize ⟨layout.table, Query.ofParts parts⟩
  properties : artifacts.entityShape.properties = (primaryKey, .integer) ::
    (Shape.fragment context.graph layout).properties.map fun field =>
      (field.1, field.2.rename (referenceName layout.type.name))
  mapping : artifacts.mapping = layout.mapping

/-- The nodes of the documents of a type that run queries, and their queries. -/
def Artifacts.queryNodes (artifacts : Artifacts) :
    List (Query.Node × Query.Select) :=
  [artifacts.entityQuery, artifacts.collectionQuery].flatMap fun document =>
    (document.root.walk "").filterMap fun (_, node) =>
      node.query?.map fun query => (node, query)

theorem Made.mem_queryNodes {context : Query.Context} {layout : Layout}
    {parts : List Query.Part} {artifacts : Artifacts}
    (made : Made context layout parts artifacts) {node : Query.Node}
    {query : Query.Select} :
    (node, query) ∈ artifacts.queryNodes ↔
      Query.Runs context layout parts node ∧ node.query? = some query := by
  have documents : [artifacts.entityQuery, artifacts.collectionQuery] =
      Query.documents context layout parts := by
    rw [made.entityQuery, made.collectionQuery, Query.documents]
  rw [Artifacts.queryNodes, documents, List.mem_flatMap]
  constructor
  · rintro ⟨document, present, inside⟩
    obtain ⟨⟨path, other⟩, walked, found⟩ := List.mem_filterMap.1 inside
    simp only [Option.map_eq_some_iff, Prod.mk.injEq] at found
    obtain ⟨_, found, rfl, rfl⟩ := found
    exact ⟨made.expanded.runs_of_mem_walk present walked found, found⟩
  · rintro ⟨runs, found⟩
    obtain ⟨document, present, path, walked⟩ :=
      made.expanded.exists_document_of_runs runs
    exact ⟨document, present,
      List.mem_filterMap.2 ⟨(path, node), walked, by simp [found]⟩⟩

section

variable {settings : Settings} {graph : TypeGraph} {catalog : List String}
variable {names : TableNames} {layout : Layout}

theorem compileType_made {type : RecordType} {artifacts : Artifacts}
    (member : type ∈ graph.types)
    (compiled : compileType settings graph names type = .ok artifacts) :
    ∃ layout parts, layout.type = type ∧
      Made ⟨graph, names, settings.pageSize⟩ layout parts artifacts := by
  simp only [compileType, Query.entity_eq_expandRoot, Query.page_eq_expandRoot,
    bind_eq_ok, pure_eq_ok, map_eq_ok] at compiled
  obtain ⟨layout, made, _, ⟨expansion, root, rfl⟩, _, ⟨same, again, rfl⟩, shape,
    shaped, rfl⟩ := compiled
  obtain rfl : expansion = same := Except.ok.inj (root.symm.trans again)
  obtain ⟨laid, rfl⟩ := LaidOut.of_eq_ok member made
  obtain ⟨other, parts, expanded, named, rfl⟩ := Query.expandRoot_eq_ok.1 root
  obtain rfl := expanded.laid.eq_of_name_eq laid named
  obtain ⟨imports, expected⟩ := entityShape_isOk laid
  obtain rfl := Except.ok.inj (expected.symm.trans shaped)
  exact ⟨other, parts, rfl, expanded, rfl, rfl, rfl, rfl, rfl, rfl⟩

theorem compileType_isOk (settings : Settings)
    (allocated : names.Allocated graph catalog)
    (laid : LaidOut graph names layout)
    (known : ∀ slot ∈ layout.slots, slot.Known graph) :
    ∃ artifacts, compileType settings graph names layout.type = .ok artifacts := by
  let context : Query.Context := ⟨graph, names, settings.pageSize⟩
  obtain ⟨parts, expanded⟩ :=
    Query.exists_expanded context allocated laid known
  have root := Query.expandRoot_eq_ok.2 ⟨layout, parts, expanded, rfl, rfl⟩
  obtain ⟨imports, shaped⟩ := entityShape_isOk laid
  simp only [compileType, Query.entity_eq_expandRoot, Query.page_eq_expandRoot,
    bind_eq_ok, pure_eq_ok, map_eq_ok]
  exact ⟨_, layout, laid.made, _, ⟨_, root, rfl⟩, _, ⟨_, root, rfl⟩, _, shaped,
    rfl⟩

end

/-- What a compilation of a graph is made of. -/
structure Compiled (settings : Settings) (graph : TypeGraph)
    (catalog : List String) (names : TableNames) (compilation : Compilation)
    (layouts : List Layout) (relations : List (List Relation)) : Prop where
  allocated : names.Allocated graph catalog
  synthesized : Synthesized graph names
    ⟨compilation.schema, compilation.warnings⟩ layouts relations
  types : List.Forall₂
    (fun type artifacts => ∃ layout parts, layout.type = type ∧
      Made ⟨graph, names, settings.pageSize⟩ layout parts artifacts)
    graph.types compilation.types

theorem checkReferences_isOk {graph : TypeGraph} :
    (∃ done, checkReferences graph = .ok done) ↔ graph.unresolved = [] := by
  simp only [checkReferences]
  cases graph.unresolved <;> simp

/-- A compilation checks the references only if it is strict. The rest does not
depend on that. -/
theorem compile_eq_ok {settings : Settings} {graph : TypeGraph}
    {catalog : List String} {compilation : Compilation} :
    compile settings graph catalog = .ok compilation ↔
      (settings.strictReferences = true → graph.unresolved = []) ∧
      ∃ synthesis types,
        synthesize graph (TableNames.allocate graph settings.tablePrefix catalog) =
          .ok synthesis ∧
        graph.types.mapM (compileType settings graph
          (TableNames.allocate graph settings.tablePrefix catalog)) = .ok types ∧
        ⟨synthesis.schema, types, synthesis.warnings⟩ = compilation := by
  simp only [compile]
  cases settings.strictReferences with
  | false => simp
  | true => simp [checkReferences_isOk]

/-- The table of the schema that holds the objects of a type. -/
def Compilation.storage? (compilation : Compilation) (type : String) :
    Option Table := do
  let artifacts ← compilation.artifacts? type
  compilation.schema.table? artifacts.tableName

/-- Whether a field of the objects of a type is that of a property that refers to
another type. -/
def RefersTo (graph : TypeGraph) (names : TableNames) (type : RecordType)
    (field : String) (target : RecordType) : Prop :=
  ∃ layout, LaidOut graph names layout ∧ layout.type = type ∧
    ∃ slot ∈ layout.slots, slot.field = field ∧
      target.name ∈ slot.property.kind.references

theorem Storage.LaidOut.refersTo {graph : TypeGraph} {names : TableNames}
    {layout : Layout} (laid : LaidOut graph names layout) {slot : Slot}
    (member : slot ∈ layout.slots) {target : RecordType}
    (refers : target.name ∈ slot.property.kind.references) :
    RefersTo graph names layout.type slot.field target :=
  ⟨layout, laid, rfl, slot, member, rfl, refers⟩

section

variable {settings : Settings} {graph : TypeGraph} {catalog : List String}
variable {names : TableNames} {compilation : Compilation}

theorem exists_compiled
    (compiled : compile settings graph catalog = .ok compilation) :
    ∃ layouts relations, Compiled settings graph catalog
      (TableNames.allocate graph settings.tablePrefix catalog) compilation
      layouts relations := by
  obtain ⟨_, synthesis, types, synthesized, each, rfl⟩ := compile_eq_ok.1 compiled
  obtain ⟨layouts, relations, parts⟩ := exists_synthesized synthesized
  refine ⟨layouts, relations, TableNames.allocate_allocated _ _ _, parts, ?_⟩
  apply (forall₂_and_mem (mapM_eq_ok.1 each)).imp
  rintro type artifacts ⟨member, made⟩
  exact compileType_made member made

namespace Compiled

variable {layouts : List Layout} {relations : List (List Relation)}
variable {layout : Layout}

theorem typeNames (compiled :
      Compiled settings graph catalog names compilation layouts relations) :
    compilation.types.map Artifacts.typeName = graph.names := by
  have same : List.Forall₂ (fun artifacts name => artifacts = name)
      (compilation.types.map Artifacts.typeName) graph.names := by
    rw [TypeGraph.names, List.forall₂_map_left_iff, List.forall₂_map_right_iff]
    apply compiled.types.flip.imp
    rintro artifacts type ⟨layout, parts, rfl, made⟩
    exact made.typeName
  rwa [List.forall₂_eq_eq_eq] at same

/-- Every type has its artifacts, and they are found by its name. -/
theorem exists_made (compiled :
      Compiled settings graph catalog names compilation layouts relations)
    (laid : LaidOut graph names layout) :
    ∃ artifacts parts,
      compilation.artifacts? layout.type.name = some artifacts ∧
      Made ⟨graph, names, settings.pageSize⟩ layout parts artifacts := by
  obtain ⟨artifacts, present, other, parts, sameType, made⟩ :=
    exists_result_of_forall₂ compiled.types laid.member
  obtain rfl := made.expanded.laid.eq_of_name_eq laid (by rw [sameType])
  refine ⟨artifacts, parts, ?_, made⟩
  apply find?_eq_some_of_unique present (by simp [made.typeName])
  intro another inside sameName
  have nodup : (compilation.types.map Artifacts.typeName).Nodup := by
    rw [compiled.typeNames]
    exact graph.names_nodup
  apply List.inj_on_of_nodup_map nodup inside present
  rw [made.typeName]
  simpa using sameName

/-- The table of a type has the columns of its layout. -/
theorem storage?_eq (compiled :
      Compiled settings graph catalog names compilation layouts relations)
    (laid : LaidOut graph names layout) :
    ∃ table, compilation.storage? layout.type.name = some table ∧
      compilation.schema.table? layout.table = some table ∧
      table.name = layout.table ∧ table.columnNames = layout.columnNames := by
  obtain ⟨artifacts, parts, found, made⟩ := compiled.exists_made laid
  have table := compiled.synthesized.table?_type compiled.allocated laid
  refine ⟨_, ?_, table, rfl, rfl⟩
  rw [Compilation.storage?, found, Option.bind_eq_bind, Option.bind_some,
    made.tableName]
  exact table

/-- What runs a query in the documents of a compilation runs it for a type. -/
theorem runs_of_mem_queryNodes (compiled :
      Compiled settings graph catalog names compilation layouts relations)
    {artifacts : Artifacts} (member : artifacts ∈ compilation.types)
    {node : Query.Node} {query : Query.Select}
    (inside : (node, query) ∈ artifacts.queryNodes) :
    ∃ layout parts,
      Query.Expanded ⟨graph, names, settings.pageSize⟩ layout parts ∧
        Query.Runs ⟨graph, names, settings.pageSize⟩ layout parts node ∧
        node.query? = some query := by
  obtain ⟨type, _, layout, parts, _, made⟩ :=
    exists_item_of_forall₂ compiled.types member
  exact ⟨layout, parts, made.expanded, made.mem_queryNodes.1 inside⟩

/-- What runs a query for a type is in the documents of the compilation. -/
theorem mem_queryNodes_of_runs (compiled :
      Compiled settings graph catalog names compilation layouts relations)
    (laid : LaidOut graph names layout) :
    ∃ artifacts ∈ compilation.types, ∃ parts, ∀ node query,
      Query.Runs ⟨graph, names, settings.pageSize⟩ layout parts node →
        node.query? = some query → (node, query) ∈ artifacts.queryNodes := by
  obtain ⟨artifacts, parts, found, made⟩ := compiled.exists_made laid
  refine ⟨artifacts, List.mem_of_find?_eq_some found, parts, ?_⟩
  intro node query runs runsQuery
  exact made.mem_queryNodes.2 ⟨runs, runsQuery⟩

/-- All slots of a compiled graph are known. -/
theorem known (compiled :
      Compiled settings graph catalog names compilation layouts relations)
    (laid : LaidOut graph names layout) :
    ∀ slot ∈ layout.slots, slot.Known graph :=
  compiled.synthesized.known compiled.allocated laid

end Compiled

end

end GraphSchema
