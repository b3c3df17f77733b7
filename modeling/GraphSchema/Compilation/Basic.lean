import GraphSchema.Compilation.Settings
import GraphSchema.Query.Build
import GraphSchema.Relational.Document
import GraphSchema.Shape.Document
import GraphSchema.Sql.Statement
import GraphSchema.Storage.Mapping
import GraphSchema.Storage.Synthesis

/-!
# Compilation of type graphs

A compilation makes, from one allocation of table names, the relational schema
of a graph and for each of its types the query documents, the shape documents
and the mapping table. It succeeds with all of them or fails.
-/

namespace GraphSchema

open Relational (Schema)
open Sql (Dialect Statement)
open Storage (Entry Layout TableNames)

/-- The registered name of the shape of the objects of a type. -/
def entityName (type : String) : String := type ++ "_Entity"

/-- The registered name of the shape of a page of objects. -/
def collectionName (type : String) : String := type ++ "_Collection"

/-- What is made for one type. -/
structure Artifacts where
  typeName : String
  tableName : String
  entityQuery : Query.Document
  collectionQuery : Query.Document
  entityShape : Shape.Document
  collectionShape : Shape.Document
  mapping : List (String × Entry)

structure Compilation where
  schema : Schema
  types : List Artifacts
  warnings : List Warning

def Warning.toJson : Warning → Json
  | .unresolvedReference owner property reference =>
      .object [("kind", .text "unresolved_reference"), ("owner", .text owner),
        ("property", .text property), ("reference", .text reference)]
  | .compositeProperty owner property =>
      .object [("kind", .text "composite_property"), ("owner", .text owner),
        ("property", .text property)]

def Artifacts.toJson (artifacts : Artifacts) : Json :=
  .object [
    ("typeName", .text artifacts.typeName),
    ("tableName", .text artifacts.tableName),
    ("entityQuery", artifacts.entityQuery.toJson),
    ("collectionQuery", artifacts.collectionQuery.toJson),
    ("entitySchema", artifacts.entityShape.toJson),
    ("collectionSchema", artifacts.collectionShape.toJson),
    ("mapping", Storage.mappingJson artifacts.mapping)]

namespace Compilation

def toJson (compilation : Compilation) : Json :=
  .object [
    ("schema", compilation.schema.toJson),
    ("types", .array (compilation.types.map Artifacts.toJson)),
    ("warnings", .array (compilation.warnings.map Warning.toJson))]

/-- What was made for a type. -/
def artifacts? (compilation : Compilation) (type : String) : Option Artifacts :=
  compilation.types.find? (·.typeName = type)

end Compilation

/-- The error of the first reference that leads out of the graph, if there is
one. -/
def checkReferences (graph : TypeGraph) : Except CompileError Unit :=
  match graph.unresolved with
  | [] => .ok ()
  | reference :: _ =>
      .error (.unresolvedReference reference.owner reference.property
        reference.target)

/-- The registered names of the shapes of all types of a graph. -/
def registry (graph : TypeGraph) : Shape.Registry :=
  graph.names.map fun name => (name, entityName name)

/-- Everything that is made for one type. -/
def compileType (settings : Settings) (graph : TypeGraph) (names : TableNames)
    (type : RecordType) : Except CompileError Artifacts := do
  let context : Query.Context := ⟨graph, names, settings.pageSize⟩
  let layout ← Layout.of graph names type
  return {
    typeName := type.name
    tableName := layout.table
    entityQuery := ← Query.entity context type.name
    collectionQuery := ← Query.page context type.name
    entityShape :=
      ← Shape.entity type.name (Shape.fragment graph layout) (registry graph)
    collectionShape :=
      Shape.page (collectionName type.name) (entityName type.name)
    mapping := layout.mapping }

/-- Compile a graph for a database that has some tables already. -/
def compile (settings : Settings) (graph : TypeGraph) (catalog : List String) :
    Except CompileError Compilation := do
  if settings.strictReferences then
    checkReferences graph
  let names := TableNames.allocate graph settings.tablePrefix catalog
  let synthesis ← Storage.synthesize graph names
  let types ← graph.types.mapM (compileType settings graph names)
  return ⟨synthesis.schema, types, synthesis.warnings⟩

/-- The statements that create the schema of a compilation. -/
def Compilation.create (compilation : Compilation) (dialect : Dialect) :
    List Statement :=
  Sql.create dialect compilation.schema

/-- The statements that bring a database, whose schema may fail to be found out,
to the schema of a compilation. -/
def Compilation.apply (compilation : Compilation) (dialect : Dialect)
    (current : Except CompileError Schema) :
    Except CompileError (List Statement) := do
  return Sql.migrate dialect (← current) compilation.schema

end GraphSchema
