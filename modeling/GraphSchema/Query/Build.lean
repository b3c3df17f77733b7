import GraphSchema.Query.Node
import GraphSchema.Storage.Layout

/-!
# Query documents of a graph

A type has two query documents: one for a single object and one for a page of
all objects. The objects that an object refers to are part of it, but the
objects that those refer to are not, so that documents end on cyclic graphs.
-/

namespace GraphSchema.Query

open Relational (primaryKey)
open Storage (Layout Slot TableNames)

/-- How many levels of objects are fetched below the object of a document. -/
def expansionLimit : Nat := 1

/-- The parameter that says how many objects come before a page. -/
def startIndex : String := "startIndex"

/-- What the documents of a graph depend on. -/
structure Context where
  graph : TypeGraph
  names : TableNames
  /-- How many objects a page or a collection has at most. -/
  pageSize : UInt32

/-- What is fetched for an object of a type: its fields and the columns that
these need. -/
structure Definition where
  fields : List (String × Node)
  columns : List String

/-- What a query for the objects of a referred type has to know. -/
structure Expansion where
  table : String
  definition : Definition

/-- What a slot adds to a definition. -/
structure Part where
  field : Option (String × Node)
  column : Option String

/-- The node of an object that another one refers to. -/
def objectNode (column : String) (target : Expansion) : Node :=
  .entity (.row target.definition.columns target.table column)
    [(column, .field column)] target.definition.fields

/-- The node of a collection of objects. -/
def collectionNode (pageSize : UInt32) (junction : Storage.Junction)
    (target : Expansion) : Node :=
  let link : Link := {
    columns := target.definition.columns
    table := target.table
    junction := junction.table
    ownerColumn := junction.ownerColumn
    keyColumn := junction.keyColumn
    targetColumn := junction.targetColumn }
  .collection (.linked link pageSize) [(primaryKey, .field primaryKey)]
    target.definition.fields (junction.keyColumn.map fun _ => mapKeyAlias)

/-- What a slot adds, given how referred types are expanded, if they are. -/
def slotPart (pageSize : UInt32)
    (expand : Option (String → Except CompileError Expansion)) (slot : Slot) :
    Except CompileError Part :=
  match slot.placement, expand with
  | .column column type, _ =>
      .ok ⟨some (slot.field, .field column type), some column⟩
  | .foreignKey column target, some expand => do
      let target ← expand target
      return ⟨some (slot.field, objectNode column target), some column⟩
  | .junction junction, some expand => do
      let target ← expand junction.target
      return ⟨some (slot.field, collectionNode pageSize junction target), none⟩
  | _, _ => .ok ⟨none, none⟩

/-- The definition of a layout. Whatever its properties are, the number of the
row comes first. -/
def assemble (pageSize : UInt32)
    (expand : Option (String → Except CompileError Expansion))
    (layout : Layout) : Except CompileError Definition := do
  let parts ← layout.slots.mapM (slotPart pageSize expand)
  return {
    fields := (primaryKey, .field primaryKey .integer) :: parts.filterMap Part.field
    columns := primaryKey :: parts.filterMap Part.column }

/-- The definition of a type with some levels of objects below it. -/
def define (context : Context) : Nat → RecordType →
    Except CompileError Definition
  | 0, type => do
      assemble context.pageSize none
        (← Layout.of context.graph context.names type)
  | levels + 1, type => do
      let expand (target : String) : Except CompileError Expansion := do
        let type ← context.graph.resolve target
        let table ← context.names.table target
        return ⟨table, ← define context levels type⟩
      assemble context.pageSize (some expand)
        (← Layout.of context.graph context.names type)

/-- The table and the definition of a type at the top of a document. -/
def expandRoot (context : Context) (name : String) :
    Except CompileError Expansion := do
  let type ← context.graph.resolve name
  let table ← context.names.table name
  return ⟨table, ← define context expansionLimit type⟩

/-- The document of one object, which the caller gives the number of. -/
def entity (context : Context) (name : String) :
    Except CompileError Document := do
  let ⟨table, definition⟩ ← expandRoot context name
  return {
    root := .entity (.row definition.columns table primaryKey)
      [(primaryKey, .context primaryKey none)] definition.fields
    columns := definition.columns }

/-- The document of a page of objects, with the number of all objects. -/
def page (context : Context) (name : String) :
    Except CompileError Document := do
  let ⟨table, definition⟩ ← expandRoot context name
  let entry : Node :=
    .collection (.page definition.columns table context.pageSize startIndex)
      [(startIndex, .context startIndex (some 0))] definition.fields none
  return {
    root := .object [
      ("totalResults", .value (.count table) [] countColumn),
      ("startIndex", .context startIndex (some 0)),
      ("itemsPerPage", .literal context.pageSize.toNat),
      ("entry", entry)]
    columns := definition.columns }

end GraphSchema.Query
