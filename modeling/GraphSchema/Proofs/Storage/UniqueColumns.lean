import GraphSchema.Proofs.Name.Lowered
import GraphSchema.Proofs.Storage.Columns
import GraphSchema.Sql.Statement

/-!
# Unique columns

Every table begins with the column that numbers its rows, and no other column has
its name. All columns are claims of names in snake case, so they have no capitals
and stay distinct where letter case is ignored. For the same reason the words that
make a column the primary key, which are written in capitals, cannot come from the
name of a column: they are in the definition of the first column only.
-/

namespace GraphSchema

open Relational (Column ColumnType Table)

/-! ## Texts of columns -/

namespace Sql

open Name (Lowered)

/-- Whether a column may be empty and has no capitals in its name. -/
structure IsLowered (column : Column) : Prop where
  name : Lowered column.name
  nullable : column.nullable = true
  autoIncrement : column.autoIncrement = false

/-- Whether some words are a part of a text. -/
def Carries (words text : String) : Prop :=
  words.toList <:+: text.toList

instance (words text : String) : Decidable (Carries words text) :=
  inferInstanceAs (Decidable (words.toList <:+: text.toList))

/-- A text without one of the characters of some words does not carry them. -/
theorem not_carries_of_not_mem {words text : String} {char : Char}
    (needed : char ∈ words.toList) (absent : char ∉ text.toList) :
    ¬ Carries words text := by
  intro carries
  exact absent (carries.subset needed)

/-- Quotes add no characters but quotes to a name. -/
theorem mem_quoted {char : Char} (different : char ≠ '"') {name : String} :
    char ∈ (quoted name).toList ↔ char ∈ name.toList := by
  have doubled : char ∈ doubleQuotes name.toList ↔ char ∈ name.toList := by
    simp only [doubleQuotes, List.mem_flatMap]
    constructor
    · intro member
      obtain ⟨other, present, inside⟩ := member
      split at inside
      · simp [different] at inside
      · exact List.mem_singleton.1 inside ▸ present
    · intro present
      refine ⟨char, present, ?_⟩
      rw [if_neg different]
      exact List.mem_singleton_self char
  simp [quoted, different, doubled]

theorem carries_rowNumber (dialect : Dialect) (column : String) :
    Carries "PRIMARY KEY" (dialect.rowNumber column) := by
  have typed : Carries "PRIMARY KEY" dialect.rowNumberType := by
    cases dialect with
    | postgres => exact ⟨"SERIAL ".toList, [], by decide⟩
    | sqlite => exact ⟨"INTEGER ".toList, " AUTOINCREMENT".toList, by decide⟩
  rw [Carries, Dialect.rowNumber, String.toList_append]
  exact typed.trans (List.suffix_append _ _).isInfix

/-- No physical type has the capital `K` that is in `PRIMARY KEY`. -/
theorem physicalType_plain (dialect : Dialect) (type : ColumnType) :
    'K' ∉ (dialect.physicalType type).toList := by
  cases dialect with
  | postgres => cases type <;> decide
  | sqlite => cases type <;> decide

/-- A column without capitals is not defined as the primary key when it has another
name. -/
theorem IsLowered.not_carries {table : Table} {column : Column}
    (lowered : IsLowered column) (other : column.name ≠ table.primaryKey)
    (dialect : Dialect) :
    ¬ Carries "PRIMARY KEY" (columnText dialect table column) := by
  have text : columnText dialect table column =
      quoted column.name ++ " " ++ dialect.physicalType column.type := by
    simp [columnText, other, lowered.nullable]
  have needed : 'K' ∈ "PRIMARY KEY".toList := by decide
  apply not_carries_of_not_mem needed
  rw [text, String.toList_append, String.toList_append, List.mem_append,
    List.mem_append, mem_quoted (by decide)]
  intro member
  rcases member with (inName | inBlank) | inType
  · exact absurd (lowered.name 'K' inName) (by decide)
  · exact absurd inBlank (by decide)
  · exact physicalType_plain dialect column.type inType

end Sql

namespace Storage

open Name (Lowered Pool)
open Relational (primaryKey)
open Sql (Carries Dialect IsLowered columnText)

variable {graph : TypeGraph} {names : TableNames} {layout : Layout}

/-! ## Names of columns -/

theorem lowered_rowColumn (type : String) : Lowered (rowColumn type) :=
  Lowered.append (Name.lowered_snake type) (by decide)

/-- A plain column whose name is a claim has no capitals when the wanted name has
none. -/
theorem isLowered_claim {wanted : String} (lowered : Lowered wanted) (pool : Pool)
    (type : ColumnType) : IsLowered (.plain (pool.claim wanted).1 type) :=
  ⟨Name.lowered_claim.2 lowered, rfl, rfl⟩

/-- The columns of a layout are claims of names in snake case. -/
theorem LaidOut.columns_lowered (laid : LaidOut graph names layout) :
    ∀ column ∈ layout.columns, IsLowered column := by
  intro column member
  obtain ⟨slot, inside, found⟩ := List.mem_filterMap.1 member
  obtain ⟨pool, claimed⟩ := laid.claims inside
  have placed := laid.placed inside
  generalize placement : slot.placement = stored at placed found claimed
  cases placed with
  | scalar kind name | scalars kind name =>
      simp only [Placement.claimed?, wantedName?, kind, Option.map_some,
        Option.some.injEq] at claimed
      obtain rfl := Option.some.inj found
      rw [claimed]
      exact isLowered_claim (Name.lowered_snake _) pool _
  | @object target kind known name =>
      obtain ⟨pool, same⟩ := laid.foreignKey_claims inside placement
      obtain rfl := Option.some.inj found
      rw [same]
      exact isLowered_claim (lowered_rowColumn target) pool _
  | collection | strangeObject | strangeCollection | composite =>
      cases found

/-- The columns of a junction after the primary key are claims of names in snake
case. -/
theorem makeJunction_columns_lowered (owner table mappingKey : String)
    (collection : Collection) (target : String) :
    ∀ column ∈ (makeJunction owner table mappingKey collection
        target).toTable.columns.tail,
      IsLowered column := by
  have ownerLowered := lowered_rowColumn owner
  have targetLowered := lowered_rowColumn target
  have keyLowered : Lowered mapKeyColumn := by decide
  cases collection with
  | array =>
      simp [makeJunction, Junction.toTable, Table.numbered, isLowered_claim,
        ownerLowered, targetLowered]
  | map =>
      simp [makeJunction, Junction.toTable, Table.numbered, isLowered_claim,
        ownerLowered, keyLowered, targetLowered]

/-- The tables of a layout have plain columns after the primary key, without
capitals. -/
theorem LaidOut.table_columns (laid : LaidOut graph names layout)
    {table : Table} (member : table ∈ layout.tables) :
    ∃ columns, table = .numbered table.name columns ∧
      ∀ column ∈ columns, IsLowered column := by
  cases mem_layout_tables.1 member with
  | inl own =>
      rw [own]
      exact ⟨layout.columns, rfl, laid.columns_lowered⟩
  | inr collection =>
      obtain ⟨slot, inside, junction, placement, rfl⟩ := collection
      have placed := laid.placed inside
      rw [placement] at placed
      cases placed with
      | collection kind found mappingKey =>
          exact ⟨_, rfl, makeJunction_columns_lowered _ _ _ _ _⟩

/-! ## Tables of a schema -/

/-- Whether the first column of a table numbers its rows, and is the only column
that does, the only one that has to be filled and the only one that is defined as
the primary key, and whether the columns differ in more than letter case. -/
structure Keyed (table : Table) : Prop where
  key : table.primaryKey = primaryKey
  first : table.columns.head? = some Column.key
  others : ∀ column ∈ table.columns.tail, column.name ≠ primaryKey
  distinct : (table.columnNames.map String.toLower).Nodup
  required : ∀ column ∈ table.columns,
    column.nullable = false ↔ column.name = primaryKey
  numbered : ∀ column ∈ table.columns,
    column.autoIncrement = true ↔ column.name = primaryKey
  definitions : ∀ dialect : Dialect,
    (table.columns.map (columnText dialect table)).filter
        (Carries "PRIMARY KEY" ·) =
      [dialect.rowNumber primaryKey]

/-- A table is keyed when its columns are distinct and those after the primary key
are plain and have no capitals. -/
theorem Keyed.of_lowered {table : Table} {columns : List Column}
    (key : table.primaryKey = primaryKey)
    (all : table.columns = Column.key :: columns)
    (lowered : ∀ column ∈ columns, IsLowered column)
    (distinct : table.columnNames.Nodup) : Keyed table := by
  have others : ∀ column ∈ columns, column.name ≠ primaryKey := by
    intro column member same
    rw [Table.columnNames, all, List.map_cons, List.nodup_cons] at distinct
    exact distinct.1 (List.mem_map.2 ⟨column, member, same⟩)
  constructor
  case key => exact key
  case first => rw [all, List.head?_cons]
  case others => rwa [all, List.tail_cons]
  case distinct =>
    apply Lowered.nodup_toLower _ distinct
    rw [Table.columnNames, all, List.map_cons, List.forall_mem_cons]
    refine ⟨by decide, ?_⟩
    intro name member
    obtain ⟨column, inside, rfl⟩ := List.mem_map.1 member
    exact (lowered column inside).name
  case required =>
    rw [all, List.forall_mem_cons]
    refine ⟨by decide, ?_⟩
    intro column member
    simp [others column member, (lowered column member).nullable]
  case numbered =>
    rw [all, List.forall_mem_cons]
    refine ⟨by decide, ?_⟩
    intro column member
    simp [others column member, (lowered column member).autoIncrement]
  case definitions =>
    intro dialect
    have keyText : columnText dialect table Column.key =
        dialect.rowNumber primaryKey := by
      simp [columnText, Column.key, key]
    have rest : (columns.map (columnText dialect table)).filter
        (Carries "PRIMARY KEY" ·) = [] := by
      rw [List.filter_eq_nil_iff]
      intro text member
      obtain ⟨column, inside, rfl⟩ := List.mem_map.1 member
      have other : column.name ≠ table.primaryKey := key ▸ others column inside
      simpa using (lowered column inside).not_carries other dialect
    rw [all, List.map_cons, keyText, List.filter_cons_of_pos, rest]
    simpa using Sql.carries_rowNumber dialect primaryKey

/-- All tables of a schema are keyed, whatever stands in the catalog. -/
theorem synthesize_keyed {graph : TypeGraph} {tablePrefix : String}
    {catalog : List String} {synthesis : Synthesis}
    (made : synthesize graph (TableNames.allocate graph tablePrefix catalog) =
      .ok synthesis) :
    ∀ table ∈ synthesis.schema.tables, Keyed table := by
  intro table member
  obtain ⟨layouts, relations, synthesized⟩ := exists_synthesized made
  have bare : table.bare ∈ layouts.flatMap Layout.tables := by
    rw [← synthesized.tables_bare]
    exact List.mem_map_of_mem member
  obtain ⟨layout, present, inside⟩ := List.mem_flatMap.1 bare
  have laid := synthesized.laid layout present
  obtain ⟨columns, same, lowered⟩ := laid.table_columns inside
  have key : table.primaryKey = primaryKey := congrArg Table.primaryKey same
  have all : table.columns = Column.key :: columns := congrArg Table.columns same
  have distinct := laid.table_columnNames_nodup inside
  rw [Table.bare_columnNames] at distinct
  exact Keyed.of_lowered key all lowered distinct

/-- A type whose columns compete for names, with a property that has the name of
the primary key and a map of objects of the type itself. -/
def atlas : TypeGraph where
  types := [⟨"Place", [⟨"fooBar", .scalar .string, none⟩,
      ⟨"foo_bar", .scalar .string, none⟩,
      ⟨"foo_bar_1", .scalar .string, none⟩,
      ⟨"id", .scalar .integer, none⟩,
      ⟨"location_id", .scalar .integer, none⟩,
      ⟨"near", .collection .map (.type "Place"), none⟩,
      ⟨"site", .object "Location", none⟩]⟩,
    ⟨"Location", []⟩]
  names_nodup := by decide

theorem atlas_keyed :
    ∃ synthesis,
      synthesize atlas (TableNames.allocate atlas "app" []) = .ok synthesis ∧
      synthesis.schema.tables.map Table.columnNames =
        [["id", "foo_bar", "foo_bar_1", "foo_bar_1_1", "id_1", "location_id",
          "location_id_1"],
        ["id", "place_id", "name", "place_id_1"], ["id"]] ∧
      ∀ table ∈ synthesis.schema.tables, Keyed table := by
  have succeeds : ∃ synthesis,
      synthesize atlas (TableNames.allocate atlas "app" []) = .ok synthesis ∧
      synthesis.schema.tables.map Table.columnNames =
        [["id", "foo_bar", "foo_bar_1", "foo_bar_1_1", "id_1", "location_id",
          "location_id_1"],
        ["id", "place_id", "name", "place_id_1"], ["id"]] := by
    refine ⟨_, rfl, ?_⟩
    decide +kernel
  obtain ⟨synthesis, made, columns⟩ := succeeds
  exact ⟨synthesis, made, columns, synthesize_keyed made⟩

end Storage

end GraphSchema
