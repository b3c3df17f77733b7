import GraphSchema.Relational.Basic
import GraphSchema.Storage.TableNames

/-!
# Layout of types

Where each property of a type is stored, and under which field name it appears
in the objects of the type. The relational schema, the queries, the shapes and
the mapping of a type are all made from its layout, so a column that one of them
names is a column of the others.
-/

namespace GraphSchema.Storage

open Name (Pool snake)
open Relational (Column ColumnType primaryKey)

/-- The column that holds the keys of a map of objects. -/
def mapKeyColumn : String := "name"

/-- The type of the column for a scalar. A format matters to texts only. -/
def scalarType (scalar : Scalar) (format : Option Format) : ColumnType :=
  match scalar, format with
  | .boolean, _ => .boolean
  | .integer, _ => .integer
  | .number, _ => .float
  | .string, some .date => .date
  | .string, some .dateTime => .dateTime
  | .string, some .time => .time
  | .string, _ => .string

/-- The type of the column of a property, if a property of this kind has one. An
object is stored as the number of its row, a collection of scalars as a whole. -/
def columnType? (property : Property) : Option ColumnType :=
  match property.kind with
  | .scalar scalar => some (scalarType scalar property.format)
  | .object _ => some .integer
  | .collection _ (.scalar _) => some .json
  | .collection _ (.type _) => none
  | .composite _ _ => none

/-- Why a property is not stored. -/
inductive DropReason where
  /-- It refers to a type that is not in the graph. -/
  | unresolved (target : String)
  /-- It is a union or an intersection. -/
  | composite
  deriving DecidableEq, Repr

/-- The storage of a collection of objects: a table whose rows hold the number of
the owner, the key if the collection is a map, and the number of the object. -/
structure Junction where
  /-- The name that stands for the collection among the columns of the owner. -/
  mappingKey : String
  collection : Collection
  target : String
  table : String
  ownerColumn : String
  keyColumn : Option String
  targetColumn : String
  deriving DecidableEq, Repr

/-- How a property is stored. -/
inductive Placement where
  | column (name : String) (type : ColumnType)
  /-- A column with the number of a row of the target's table. -/
  | foreignKey (column target : String)
  | junction (junction : Junction)
  | dropped (reason : DropReason)
  deriving DecidableEq, Repr

/-- The column of the owner's table that a property takes up. -/
def Placement.column? : Placement → Option Column
  | .column name type => some (.plain name type)
  | .foreignKey name _ => some (.plain name .integer)
  | _ => none

/-- A property with its placement and its field name. -/
structure Slot where
  field : String
  property : Property
  placement : Placement
  deriving DecidableEq, Repr

structure Layout where
  type : RecordType
  table : String
  slots : List Slot
  deriving DecidableEq, Repr

/-- A pool in which only the primary key is in use. -/
def freshPool : Pool := ⟨[primaryKey]⟩

/-- The name that is wanted for a column with the number of a type's row. -/
def rowColumn (type : String) : String :=
  snake type ++ "_id"

/-- The junction of a collection, given its table and its name among the columns
of the owner. -/
def makeJunction (owner table mappingKey : String) (collection : Collection)
    (target : String) : Junction :=
  let (ownerColumn, pool) := freshPool.claim (rowColumn owner)
  match collection with
  | .array =>
      let (targetColumn, _) := pool.claim (rowColumn target)
      ⟨mappingKey, collection, target, table, ownerColumn, none, targetColumn⟩
  | .map =>
      let (keyColumn, pool) := pool.claim mapKeyColumn
      let (targetColumn, _) := pool.claim (rowColumn target)
      ⟨mappingKey, collection, target, table, ownerColumn, some keyColumn,
        targetColumn⟩

/-- The placement of a property, given the names in use among the columns of its
owner, and the names in use then. -/
def place (graph : TypeGraph) (names : TableNames) (owner : String)
    (columns : Pool) (property : Property) : Placement × Pool :=
  match property.kind with
  | .scalar scalar =>
      let (column, columns) := columns.claim (snake property.name)
      (.column column (scalarType scalar property.format), columns)
  | .collection _ (.scalar _) =>
      let (column, columns) := columns.claim (snake property.name)
      (.column column .json, columns)
  | .object target =>
      if graph.contains target then
        let (column, columns) := columns.claim (rowColumn target)
        (.foreignKey column target, columns)
      else
        (.dropped (.unresolved target), columns)
  | .collection collection (.type target) =>
      match names.junction? owner property.name with
      | some table =>
          let (mappingKey, columns) := columns.claim property.name
          (.junction (makeJunction owner table mappingKey collection target),
            columns)
      | none => (.dropped (.unresolved target), columns)
  | .composite _ _ => (.dropped .composite, columns)

/-- The slots of some properties, given the names in use among the columns and
among the fields of their owner. -/
def slotsOf (graph : TypeGraph) (names : TableNames) (owner : String)
    (columns fields : Pool) : List Property → List Slot
  | [] => []
  | property :: rest =>
      let (field, fields) := fields.claim property.name
      let (placement, columns) := place graph names owner columns property
      ⟨field, property, placement⟩ ::
        slotsOf graph names owner columns fields rest

namespace Layout

/-- Lay out a type that has a table. -/
def of (graph : TypeGraph) (names : TableNames) (type : RecordType) :
    Except CompileError Layout := do
  let table ← names.table type.name
  return ⟨type, table,
    slotsOf graph names type.name freshPool freshPool type.properties⟩

/-- The columns of the table after the primary key. -/
def columns (layout : Layout) : List Column :=
  layout.slots.filterMap (·.placement.column?)

/-- The names of the columns of the table, the primary key first. -/
def columnNames (layout : Layout) : List String :=
  primaryKey :: layout.columns.map Column.name

end Layout

end GraphSchema.Storage
