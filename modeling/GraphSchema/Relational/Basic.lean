import GraphSchema.Json.Basic

/-!
# Relational schemas

Tables with columns and foreign keys. Relations between tables are recorded in
the order in which they are made, and each one is also a foreign key of the
table that owns it.
-/

namespace GraphSchema.Relational

/-- The abstract types of columns. -/
inductive ColumnType where
  | integer
  | boolean
  | float
  | string
  | date
  | dateTime
  | time
  | json
  deriving DecidableEq, Repr

def ColumnType.name : ColumnType → String
  | .integer => "integer"
  | .boolean => "boolean"
  | .float => "float"
  | .string => "string"
  | .date => "date"
  | .dateTime => "datetime"
  | .time => "time"
  | .json => "json"

/-- The primary key of every table that is made for a graph. -/
def primaryKey : String := "id"

structure Column where
  name : String
  type : ColumnType
  nullable : Bool
  autoIncrement : Bool
  deriving DecidableEq, Repr

namespace Column

/-- A column that may be empty. -/
def plain (name : String) (type : ColumnType) : Column :=
  ⟨name, type, true, false⟩

/-- The column that numbers the rows. -/
def key : Column :=
  ⟨primaryKey, .integer, false, true⟩

end Column

structure ForeignKey where
  name : String
  columns : List String
  referencedTable : String
  referencedColumns : List String
  deriving DecidableEq, Repr

structure Table where
  name : String
  columns : List Column
  primaryKey : String
  foreignKeys : List ForeignKey
  deriving DecidableEq, Repr

namespace Table

/-- A table of numbered rows with some more columns. -/
def numbered (name : String) (columns : List Column) : Table :=
  ⟨name, Column.key :: columns, Relational.primaryKey, []⟩

def columnNames (table : Table) : List String :=
  table.columns.map Column.name

/-- The first column of a name. -/
def column? (table : Table) (name : String) : Option Column :=
  table.columns.find? (·.name = name)

end Table

/-- A connection from columns of one table to columns of another. -/
structure Relation where
  ownerTable : String
  targetTable : String
  localColumns : List String
  targetColumns : List String
  deriving DecidableEq, Repr

namespace Relation

/-- The relation of a column to the rows of another table. -/
def toRows (ownerTable column targetTable : String) : Relation :=
  ⟨ownerTable, targetTable, [column], [primaryKey]⟩

/-- A relation as a constraint of the table that owns it. -/
def foreignKey (relation : Relation) : ForeignKey where
  name :=
    "fk_" ++ relation.ownerTable ++ "_" ++
      "_".intercalate relation.localColumns
  columns := relation.localColumns
  referencedTable := relation.targetTable
  referencedColumns := relation.targetColumns

end Relation

structure Schema where
  tables : List Table
  relations : List Relation
  deriving DecidableEq, Repr

/-- Add a foreign key to the first table of a name, if there is one. -/
def attach (name : String) (key : ForeignKey) :
    List Table → Option (List Table)
  | [] => none
  | table :: rest =>
      if table.name = name then
        some ({ table with foreignKeys := table.foreignKeys ++ [key] } :: rest)
      else
        (attach name key rest).map (table :: ·)

namespace Schema

def empty : Schema := ⟨[], []⟩

def tableNames (schema : Schema) : List String :=
  schema.tables.map Table.name

/-- The first table of a name. -/
def table? (schema : Schema) (name : String) : Option Table :=
  schema.tables.find? (·.name = name)

def addTable (schema : Schema) (table : Table) : Schema :=
  { schema with tables := schema.tables ++ [table] }

/-- Record a relation. A relation whose table is not there is refused. -/
def addRelation? (schema : Schema) (relation : Relation) : Option Schema :=
  (attach relation.ownerTable relation.foreignKey schema.tables).map
    fun tables => ⟨tables, schema.relations ++ [relation]⟩

/-- Record a relation, or leave the schema as it is if it is refused. -/
def addRelation (schema : Schema) (relation : Relation) : Schema :=
  (schema.addRelation? relation).getD schema

/-- The schema of some tables and of those relations that it accepts. -/
def build (tables : List Table) (relations : List Relation) : Schema :=
  relations.foldl addRelation (tables.foldl addTable empty)

end Schema

end GraphSchema.Relational
