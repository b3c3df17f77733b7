import GraphSchema.Relational.Basic
import GraphSchema.Sql.Identifier

/-!
# Queries

The queries that documents run, as data: which columns of which tables they
select, and which parameter they are given. Their text is the same in both
dialects. A table or column that may not stand without quotes is quoted; the
names of parameters never are.
-/

namespace GraphSchema.Query

open Relational (primaryKey)
open Sql (written)

/-- The alias under which a query returns the keys of a map. -/
def mapKeyAlias : String := "hash_key"

/-- The column that a query for the number of rows returns. -/
def countColumn : String := "cnt"

/-- The rows of a table that a junction table connects with a row. -/
structure Link where
  columns : List String
  table : String
  junction : String
  ownerColumn : String
  keyColumn : Option String
  targetColumn : String
  deriving DecidableEq, Repr

inductive Select where
  /-- The row of a table that has the number in a parameter. -/
  | row (columns : List String) (table parameter : String)
  /-- A page of the rows of a table, the latest first. The parameter says how
  many rows come before it. -/
  | page (columns : List String) (table : String) (size : UInt32)
      (parameter : String)
  /-- The number of rows of a table. -/
  | count (table : String)
  /-- The latest rows that are connected with a row. -/
  | linked (link : Link) (size : UInt32)
  deriving DecidableEq, Repr

/-- Texts with commas between them. -/
def commaList (texts : List String) : String :=
  ", ".intercalate texts

namespace Link

/-- What a query for connected rows selects. -/
def selection (link : Link) : List String :=
  (link.keyColumn.map fun column =>
    "rel." ++ written column ++ " AS " ++ mapKeyAlias).toList ++
  link.columns.map fun column => "entity." ++ written column

end Link

namespace Select

/-- The text of a query. -/
def text : Select → String
  | .row columns table parameter =>
      "SELECT " ++ commaList (columns.map written) ++ " FROM " ++
        written table ++ " WHERE " ++ primaryKey ++ " = :" ++ parameter
  | .page columns table size parameter =>
      "SELECT " ++ commaList (columns.map written) ++ " FROM " ++
        written table ++ " ORDER BY " ++ primaryKey ++ " DESC LIMIT " ++
        toString size.toNat ++ " OFFSET :" ++ parameter
  | .count table =>
      "SELECT COUNT(*) AS " ++ countColumn ++ " FROM " ++ written table
  | .linked link size =>
      "SELECT " ++ commaList link.selection ++ " FROM " ++
        written link.junction ++ " rel INNER JOIN " ++ written link.table ++
        " entity ON entity." ++ primaryKey ++ " = rel." ++
        written link.targetColumn ++ " WHERE rel." ++ written link.ownerColumn ++
        " = :" ++ primaryKey ++ " ORDER BY entity." ++ primaryKey ++
        " DESC LIMIT " ++ toString size.toNat

/-- The columns of the table that a query selects. -/
def columns : Select → List String
  | .row columns .. => columns
  | .page columns .. => columns
  | .count _ => []
  | .linked link _ => link.columns

/-- The table that the selected columns belong to. -/
def table : Select → String
  | .row _ table _ => table
  | .page _ table .. => table
  | .count table => table
  | .linked link _ => link.table

/-- The names of the columns of the result. -/
def resultColumns : Select → List String
  | .count _ => [countColumn]
  | .linked link _ =>
      (link.keyColumn.map fun _ => mapKeyAlias).toList ++ link.columns
  | query => query.columns

/-- The parameters that a query has to be given. -/
def parameters : Select → List String
  | .row _ _ parameter => [parameter]
  | .page _ _ _ parameter => [parameter]
  | .count _ => []
  | .linked .. => [primaryKey]

end Select

end GraphSchema.Query
