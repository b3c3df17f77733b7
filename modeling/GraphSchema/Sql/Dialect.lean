import GraphSchema.Relational.Basic
import GraphSchema.Sql.Identifier

/-!
# SQL dialects

The two dialects differ in the physical types of columns, in the definition of
a column that numbers the rows, and in whether foreign keys can be added to a
table that exists already.
-/

namespace GraphSchema.Sql

open Relational (ColumnType)

inductive Dialect where
  | postgres
  | sqlite
  deriving DecidableEq, Repr

namespace Dialect

/-- The dialect of a name in any letter case, or the message that there is
none, which shows the name in lower case. -/
def ofName (name : String) : Except String Dialect :=
  let folded := name.map Char.toLower
  if folded = "postgres" ∨ folded = "postgresql" ∨ folded = "pg" then
    .ok .postgres
  else if folded = "sqlite" ∨ folded = "sqlite3" then
    .ok .sqlite
  else
    .error ("unknown SQL dialect '" ++ folded ++ "'")

/-- The type that a column of an abstract type gets. -/
def physicalType : Dialect → ColumnType → String
  | .postgres, .integer => "INTEGER"
  | .postgres, .boolean => "BOOLEAN"
  | .postgres, .float => "DOUBLE PRECISION"
  | .postgres, .string => "TEXT"
  | .postgres, .date => "DATE"
  | .postgres, .dateTime => "TIMESTAMP"
  | .postgres, .time => "TIME"
  | .postgres, .json => "JSON"
  | .sqlite, .integer => "INTEGER"
  | .sqlite, .boolean => "INTEGER"
  | .sqlite, .float => "REAL"
  | .sqlite, .string => "TEXT"
  | .sqlite, .date => "TEXT"
  | .sqlite, .dateTime => "TEXT"
  | .sqlite, .time => "TEXT"
  | .sqlite, .json => "TEXT"

/-- The type and constraint of a primary key that numbers the rows. -/
def rowNumberType : Dialect → String
  | .postgres => "SERIAL PRIMARY KEY"
  | .sqlite => "INTEGER PRIMARY KEY AUTOINCREMENT"

/-- The definition of a primary key that numbers the rows. -/
def rowNumber (dialect : Dialect) (column : String) : String :=
  quoted column ++ " " ++ dialect.rowNumberType

/-- Whether a foreign key can be added to an existing table. Otherwise it is a
part of the definition of its table. -/
def addsForeignKeys : Dialect → Bool
  | .postgres => true
  | .sqlite => false

end Dialect

end GraphSchema.Sql
