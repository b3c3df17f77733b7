import GraphSchema.Storage.Layout

/-!
# From layouts to a relational schema

A layout says which tables, relations and warnings a type gives rise to. A type's
own table comes before the tables of its collections. The relations are
recorded after all tables are there, so a type may refer to a later one.
-/

namespace GraphSchema.Storage

open Relational (Column Relation Schema Table)

namespace Junction

/-- The table of a junction. -/
def toTable (junction : Junction) : Table :=
  .numbered junction.table (
    [.plain junction.ownerColumn .integer] ++
    (junction.keyColumn.map fun column => Column.plain column .string).toList ++
    [.plain junction.targetColumn .integer])

end Junction

namespace Slot

/-- The table of a collection. -/
def junctionTable? (slot : Slot) : Option Table :=
  match slot.placement with
  | .junction junction => some junction.toTable
  | _ => none

/-- The relations of a slot, given the table of its owner. -/
def relations (names : TableNames) (table : String) (slot : Slot) :
    Except CompileError (List Relation) :=
  match slot.placement with
  | .foreignKey column target => do
      return [.toRows table column (← names.table target)]
  | .junction junction => do
      return [.toRows junction.table junction.ownerColumn table,
        .toRows junction.table junction.targetColumn
          (← names.table junction.target)]
  | _ => .ok []

/-- The warning about a property that is not stored. -/
def warning? (owner : String) (slot : Slot) : Option Warning :=
  match slot.placement with
  | .dropped (.unresolved target) =>
      some (.unresolvedReference owner slot.property.name target)
  | .dropped .composite => some (.compositeProperty owner slot.property.name)
  | _ => none

end Slot

namespace Layout

/-- The table of a type, followed by the tables of its collections. -/
def tables (layout : Layout) : List Table :=
  .numbered layout.table layout.columns ::
    layout.slots.filterMap Slot.junctionTable?

/-- The relations of a type, slot by slot. -/
def relations (names : TableNames) (layout : Layout) :
    Except CompileError (List Relation) := do
  return (← layout.slots.mapM (Slot.relations names layout.table)).flatten

/-- The warnings about a type, slot by slot. -/
def warnings (layout : Layout) : List Warning :=
  layout.slots.filterMap (Slot.warning? layout.type.name)

end Layout

/-- A relational schema and what was left out of it. -/
structure Synthesis where
  schema : Schema
  warnings : List Warning
  deriving DecidableEq, Repr

/-- A layout and its relations. -/
def layOut (graph : TypeGraph) (names : TableNames) (type : RecordType) :
    Except CompileError (Layout × List Relation) := do
  let layout ← Layout.of graph names type
  let relations ← layout.relations names
  return (layout, relations)

/-- The relational schema of a graph. -/
def synthesize (graph : TypeGraph) (names : TableNames) :
    Except CompileError Synthesis := do
  let layouts ← graph.types.mapM (layOut graph names)
  return {
    schema := .build (layouts.flatMap fun (layout, _) => layout.tables)
      (layouts.flatMap fun (_, relations) => relations)
    warnings := layouts.flatMap fun (layout, _) => layout.warnings }

end GraphSchema.Storage
