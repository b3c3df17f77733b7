import GraphSchema.Relational.Basic

/-!
# Relational schemas as documents

Every part of a schema is a record with all its fields, none of them left out.
-/

namespace GraphSchema.Relational

def Column.toJson (column : Column) : Json :=
  .object [("name", .text column.name), ("column_type", .text column.type.name),
    ("nullable", .bool column.nullable),
    ("auto_increment", .bool column.autoIncrement)]

def ForeignKey.toJson (key : ForeignKey) : Json :=
  .object [("name", .text key.name), ("columns", .texts key.columns),
    ("referenced_table", .text key.referencedTable),
    ("referenced_columns", .texts key.referencedColumns)]

def Table.toJson (table : Table) : Json :=
  .object [("name", .text table.name),
    ("columns", .array (table.columns.map Column.toJson)),
    ("primary_key", .text table.primaryKey),
    ("foreign_keys", .array (table.foreignKeys.map ForeignKey.toJson))]

def Relation.toJson (relation : Relation) : Json :=
  .object [("owner_table", .text relation.ownerTable),
    ("target_table", .text relation.targetTable),
    ("local_columns", .texts relation.localColumns),
    ("target_columns", .texts relation.targetColumns)]

def Schema.toJson (schema : Schema) : Json :=
  .object [("tables", .array (schema.tables.map Table.toJson)),
    ("relations", .array (schema.relations.map Relation.toJson))]

end GraphSchema.Relational
