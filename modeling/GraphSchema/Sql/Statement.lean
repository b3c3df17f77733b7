import GraphSchema.Sql.Dialect

/-!
# Statements that define a schema

Statements come as data, in the order in which they are to be executed, and each
has a text in either dialect. All tables are created before the first foreign
key is added, so a key finds both of its tables whatever their order.
-/

namespace GraphSchema.Sql

open Relational (Column ForeignKey Schema Table)

inductive Statement where
  | createTable (table : Table)
  | addForeignKey (table : String) (key : ForeignKey)
  | dropTable (table : String)
  deriving DecidableEq, Repr

/-- The definition of a column of a table. -/
def columnText (dialect : Dialect) (table : Table) (column : Column) : String :=
  if column.name = table.primaryKey ∧ column.autoIncrement then
    dialect.rowNumber column.name
  else
    quoted column.name ++ " " ++ dialect.physicalType column.type ++
      if column.name = table.primaryKey then " PRIMARY KEY"
      else if column.nullable then ""
      else " NOT NULL"

/-- The constraint of a foreign key. -/
def foreignKeyText (key : ForeignKey) : String :=
  "FOREIGN KEY (" ++ quotedList key.columns ++ ") REFERENCES " ++
    quoted key.referencedTable ++ " (" ++ quotedList key.referencedColumns ++ ")"

/-- What stands between the parentheses of the definition of a table. -/
def tableParts (dialect : Dialect) (table : Table) : List String :=
  table.columns.map (columnText dialect table) ++
    if dialect.addsForeignKeys then []
    else table.foreignKeys.map foreignKeyText

namespace Statement

/-- The text of a statement. -/
def text (dialect : Dialect) : Statement → String
  | .createTable table =>
      "CREATE TABLE " ++ quoted table.name ++ " (\n" ++
        ",\n".intercalate ((tableParts dialect table).map ("    " ++ ·)) ++ "\n)"
  | .addForeignKey table key =>
      "ALTER TABLE " ++ quoted table ++ " ADD CONSTRAINT " ++ quoted key.name ++
        " " ++ foreignKeyText key
  | .dropTable table => "DROP TABLE IF EXISTS " ++ quoted table

end Statement

/-- The statements that add the foreign keys of a table after its creation. -/
def foreignKeyStatements (dialect : Dialect) (table : Table) : List Statement :=
  if dialect.addsForeignKeys then
    table.foreignKeys.map (.addForeignKey table.name)
  else
    []

/-- The statements that create some tables. -/
def createTables (dialect : Dialect) (tables : List Table) : List Statement :=
  tables.map .createTable ++ tables.flatMap (foreignKeyStatements dialect)

/-- The statements that create the tables of a schema. -/
def create (dialect : Dialect) (schema : Schema) : List Statement :=
  createTables dialect schema.tables

/-- The statements that drop the tables of a schema, the last one first. -/
def drop (schema : Schema) : List Statement :=
  schema.tables.reverse.map fun table => .dropTable table.name

/-- The statements that create those tables of a desired schema that the
current one has no table of that name for. -/
def migrate (dialect : Dialect) (current desired : Schema) : List Statement :=
  createTables dialect
    (desired.tables.filter fun table => (current.table? table.name).isNone)

end GraphSchema.Sql
