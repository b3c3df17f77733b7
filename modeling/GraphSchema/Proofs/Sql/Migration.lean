import GraphSchema.Proofs.Compilation.DistinctTables
import GraphSchema.Proofs.Sql.Execution
import GraphSchema.Proofs.Storage.ForeignKeys

/-!
# Migrations

A migration creates the tables of a desired schema that a database does not have
yet. Executed in order on that database, all of its statements are accepted, each
foreign key of a new table is declared once, and afterwards nothing is left to be
done. A schema that was compiled for the database is created as a whole.
-/

namespace GraphSchema.Sql

open Relational (ForeignKey Schema Table)
open Storage (TableNames exists_synthesized household synthesize)

/-- The tables of a desired schema whose names the current one does not have. -/
def missing (current desired : Schema) : List Table :=
  desired.tables.filter (·.name ∉ current.tableNames)

/-- The foreign keys of some tables, each with the name of its table. -/
def keyEntries (tables : List Table) : List (String × ForeignKey) :=
  tables.flatMap fun table => table.foreignKeys.map fun key => (table.name, key)

/-- Where the foreign keys of new tables are declared: after the last table is
created if the dialect can add them, and otherwise with their tables. -/
def Placed (dialect : Dialect) (tables : List Table) (statement : Statement)
    (entry : String × ForeignKey) (after : List Statement) : Prop :=
  match dialect with
  | .postgres =>
      statement = .addForeignKey entry.1 entry.2 ∧
        ∀ table, .createTable table ∉ after
  | .sqlite =>
      ∃ table ∈ tables, statement = .createTable table ∧ table.name = entry.1

/-- What a migration does to a database that has the tables of the current schema. -/
structure Migrates (dialect : Dialect) (current desired : Schema) : Prop where
  safe : Safe dialect current.tables (migrate dialect current desired)
  result : run dialect current.tables (migrate dialect current desired) =
    current.tables ++ missing current desired
  names : ∀ name,
    name ∈ (run dialect current.tables
        (migrate dialect current desired)).map Table.name ↔
      name ∈ current.tableNames ∨ name ∈ desired.tableNames
  declared : (migrate dialect current desired).flatMap
      (Statement.declares dialect) =
    keyEntries (missing current desired)
  written : ∀ table ∈ missing current desired,
    tableParts dialect table = table.columns.map (columnText dialect table) ++
      ((Statement.createTable table).declares dialect).map fun entry =>
        foreignKeyText entry.2
  placed : ∀ before statement after,
    migrate dialect current desired = before ++ statement :: after →
      ∀ entry ∈ statement.declares dialect,
        Placed dialect (missing current desired) statement entry after
  settled : migrate dialect
    ((missing current desired).foldl Schema.addTable current) desired = []

variable {dialect : Dialect} {current desired : Schema}

theorem table?_isNone {schema : Schema} {name : String} :
    (schema.table? name).isNone = true ↔ name ∉ schema.tableNames := by
  simp [Schema.table?, Schema.tableNames]

theorem migrate_eq (dialect : Dialect) (current desired : Schema) :
    migrate dialect current desired =
      createTables dialect (missing current desired) := by
  rw [migrate, missing]
  apply congrArg (createTables dialect)
  apply List.filter_congr
  intro table _
  rw [Bool.eq_iff_iff, table?_isNone, decide_eq_true_iff]

theorem mem_missing {table : Table} :
    table ∈ missing current desired ↔
      table ∈ desired.tables ∧ table.name ∉ current.tableNames := by
  simp [missing]

/-- Between them, the current tables and the missing ones have all names. -/
theorem mem_names_append_missing (current desired : Schema) (name : String) :
    name ∈ (current.tables ++ missing current desired).map Table.name ↔
      name ∈ current.tableNames ∨ name ∈ desired.tableNames := by
  rw [List.map_append, List.mem_append]
  constructor
  · intro member
    cases member with
    | inl old => exact Or.inl old
    | inr new =>
        obtain ⟨table, inside, rfl⟩ := List.mem_map.1 new
        exact Or.inr (List.mem_map_of_mem (mem_missing.1 inside).1)
  · intro wanted
    by_cases old : name ∈ current.tableNames
    · exact Or.inl old
    · have new : name ∈ desired.tableNames := wanted.resolve_left old
      obtain ⟨table, inside, rfl⟩ := List.mem_map.1 new
      exact Or.inr (List.mem_map_of_mem (mem_missing.2 ⟨inside, old⟩))

theorem created_names (dialect : Dialect) (tables : List Table) :
    (tables.map (created dialect)).map Table.name = tables.map Table.name := by
  simp [Function.comp_def]

/-! ## Statements by dialect -/

theorem createTables_sqlite (tables : List Table) :
    createTables .sqlite tables = tables.map .createTable := by
  simp [createTables, foreignKeyStatements, Dialect.addsForeignKeys]

theorem createTables_postgres (tables : List Table) :
    createTables .postgres tables = tables.map .createTable ++
      (keyEntries tables).map fun entry => .addForeignKey entry.1 entry.2 := by
  rw [createTables, keyEntries, List.map_flatMap]
  apply congrArg (tables.map Statement.createTable ++ ·)
  apply List.flatMap_congr
  intro table _
  rw [List.map_map]
  rfl

/-- Nothing is declared by the creation of a table to which keys are added later. -/
theorem declares_postgres {statement : Statement} {tables : List Table}
    (member : statement ∈ tables.map Statement.createTable) :
    statement.declares .postgres = [] := by
  obtain ⟨table, _, rfl⟩ := List.mem_map.1 member
  rfl

/-- Each foreign key of some tables is declared once when the tables are created. -/
theorem declares_createTables (dialect : Dialect) (tables : List Table) :
    (createTables dialect tables).flatMap (Statement.declares dialect) =
      keyEntries tables := by
  cases dialect with
  | sqlite =>
      rw [createTables_sqlite, List.flatMap_map]
      rfl
  | postgres =>
      have none : (tables.map Statement.createTable).flatMap
          (Statement.declares .postgres) = [] :=
        List.flatMap_eq_nil_iff.2 fun _ => declares_postgres
      rw [createTables_postgres, List.flatMap_append, none, List.flatMap_map]
      simp [Statement.declares]

/-- What stands behind an item of two lists stands in the second one, unless the
item is in the first. -/
theorem mem_or_forall_mem {α : Type} {first second before after : List α} {item : α}
    (split : first ++ second = before ++ item :: after) :
    item ∈ first ∨ ∀ other ∈ after, other ∈ second := by
  induction before generalizing first with
  | nil =>
      cases first with
      | nil =>
          right
          intro other member
          rw [List.nil_append, List.nil_append] at split
          rw [split]
          exact List.mem_cons_of_mem _ member
      | cons head rest =>
          left
          rw [List.cons_append, List.nil_append, List.cons.injEq] at split
          rw [split.1]
          exact List.mem_cons_self
  | cons other before ih =>
      cases first with
      | nil =>
          right
          intro later member
          rw [List.nil_append] at split
          rw [split]
          simp [member]
      | cons head rest =>
          rw [List.cons_append, List.cons_append, List.cons.injEq] at split
          cases ih split.2 with
          | inl inside => exact Or.inl (List.mem_cons_of_mem _ inside)
          | inr behind => exact Or.inr behind

theorem placed_createTables {tables : List Table} {statement : Statement}
    {before after : List Statement}
    (split : createTables dialect tables = before ++ statement :: after)
    {entry : String × ForeignKey} (declared : entry ∈ statement.declares dialect) :
    Placed dialect tables statement entry after := by
  cases dialect with
  | sqlite =>
      have member : statement ∈ createTables .sqlite tables := by simp [split]
      rw [createTables_sqlite] at member
      obtain ⟨table, inside, rfl⟩ := List.mem_map.1 member
      obtain ⟨key, _, rfl⟩ := List.mem_map.1 declared
      exact ⟨table, inside, rfl, rfl⟩
  | postgres =>
      have member : statement ∈ createTables .postgres tables := by simp [split]
      rw [createTables_postgres] at member split
      have unmade : statement ∉ tables.map Statement.createTable := by
        intro made
        rw [declares_postgres made] at declared
        cases declared
      constructor
      · have added := (List.mem_append.1 member).resolve_left unmade
        obtain ⟨other, _, rfl⟩ := List.mem_map.1 added
        rw [List.mem_singleton.1 declared]
      · intro table made
        have behind := (mem_or_forall_mem split).resolve_left unmade _ made
        simp at behind

/-! ## Migrations of schemas -/

theorem safe_migrate (distinct : desired.tableNames.Nodup)
    (closed : ∀ table ∈ desired.tables, ∀ key ∈ table.foreignKeys,
      key.referencedTable ∈ desired.tableNames) :
    Safe dialect current.tables (migrate dialect current desired) := by
  have free : ∀ table ∈ missing current desired,
      table.name ∉ current.tables.map Table.name :=
    fun table member => (mem_missing.1 member).2
  have creations : Safe dialect current.tables
      ((missing current desired).map .createTable) := by
    apply safe_createTables _ free
    exact distinct.sublist (List.filter_sublist.map Table.name)
  rw [migrate_eq]
  cases dialect with
  | sqlite =>
      rw [createTables_sqlite]
      exact creations
  | postgres =>
      rw [createTables_postgres, safe_append, run_createTables]
      refine ⟨creations, safe_addForeignKeys ?_⟩
      intro entry member
      obtain ⟨table, inside, keyed⟩ := List.mem_flatMap.1 member
      obtain ⟨key, owned, rfl⟩ := List.mem_map.1 keyed
      have wanted := (mem_missing.1 inside).1
      have names := mem_names_append_missing current desired
      rw [List.map_append] at names
      rw [List.map_append, created_names]
      constructor
      · exact (names _).2 (Or.inr (List.mem_map_of_mem wanted))
      · exact (names _).2 (Or.inr (closed table wanted key owned))

theorem run_migrate (distinct : desired.tableNames.Nodup) :
    run dialect current.tables (migrate dialect current desired) =
      current.tables ++ missing current desired := by
  rw [migrate_eq, createTables, run_append, run_createTables]
  apply run_flatMap_foreignKeyStatements
  · exact distinct.sublist (List.filter_sublist.map Table.name)
  · intro table member
    exact (mem_missing.1 member).2

/-- Once the missing tables are there, none is missing. -/
theorem migrate_settled (dialect : Dialect) (current desired : Schema) :
    migrate dialect ((missing current desired).foldl Schema.addTable current)
      desired = [] := by
  have nothing : missing
      ((missing current desired).foldl Schema.addTable current) desired = [] := by
    rw [missing, List.filter_eq_nil_iff, Schema.foldl_addTable]
    intro table member
    have present := (mem_names_append_missing current desired table.name).2
      (Or.inr (List.mem_map_of_mem member))
    rw [Schema.tableNames]
    simpa only [decide_eq_true_iff, not_not] using present
  rw [migrate_eq, nothing]
  rfl

/-- Where no name is in use, no table is skipped. -/
theorem migrate_eq_create (fresh : ∀ name ∈ desired.tableNames,
      name ∉ current.tableNames) :
    migrate dialect current desired = create dialect desired := by
  have all : missing current desired = desired.tables := by
    rw [missing, List.filter_eq_self]
    intro table member
    exact decide_eq_true (fresh _ (List.mem_map_of_mem member))
  rw [migrate_eq, all, create]

/-- A migration to a schema with distinct tables, whose foreign keys stay in it, is
executed without a refusal and completely. The statements that create a schema are
its migration in an empty database, and a schema that was compiled for the current
tables is created as a whole. -/
theorem migrate_complete (dialect : Dialect) (current desired : Schema) :
    (desired.tableNames.Nodup →
      (∀ table ∈ desired.tables, ∀ key ∈ table.foreignKeys,
        key.referencedTable ∈ desired.tableNames) →
      Migrates dialect current desired) ∧
    create dialect desired = migrate dialect .empty desired ∧
    ∀ graph, SchemaOf graph current.tableNames desired →
      migrate dialect current desired = create dialect desired := by
  refine ⟨?_, ?_, ?_⟩
  · intro distinct closed
    constructor
    · exact safe_migrate distinct closed
    · exact run_migrate distinct
    · intro name
      rw [run_migrate distinct]
      exact mem_names_append_missing current desired name
    · rw [migrate_eq]
      exact declares_createTables dialect _
    · intro table _
      rw [tableParts_eq, Statement.declares, List.map_map]
      rfl
    · intro before statement after split entry declared
      rw [migrate_eq] at split
      exact placed_createTables split declared
    · exact migrate_settled dialect current desired
  · apply Eq.symm
    apply migrate_eq_create
    intro name _ present
    cases present
  · intro graph made
    obtain ⟨tablePrefix, synthesis, succeeded, rfl⟩ := made.exists_synthesis
    obtain ⟨layouts, relations, synthesized⟩ := exists_synthesized succeeded
    have allocated := TableNames.allocate_allocated graph tablePrefix
      current.tableNames
    exact migrate_eq_create fun name => synthesized.tableNames_fresh allocated

/-- A database that has a table of houses already. -/
def town : Schema := ⟨[.numbered "app_house" []], []⟩

/-- Only the tables of the persons are missing, and they refer to the houses. For a
schema that was compiled for the town, the houses get a table of another name. -/
theorem town_migrates :
    ∃ synthesis fresh,
      synthesize household (TableNames.allocate household "app" []) =
        .ok synthesis ∧
      synthesize household
          (TableNames.allocate household "app" town.tableNames) = .ok fresh ∧
      (missing town synthesis.schema).map Table.name =
        ["app_person", "app_person_person"] ∧
      Migrates .postgres town synthesis.schema ∧
      Migrates .sqlite town synthesis.schema ∧
      migrate .postgres town fresh.schema = create .postgres fresh.schema := by
  have succeeds : ∃ synthesis,
      synthesize household (TableNames.allocate household "app" []) =
        .ok synthesis ∧
      synthesis.schema.tableNames.Nodup ∧
      (∀ table ∈ synthesis.schema.tables, ∀ key ∈ table.foreignKeys,
        key.referencedTable ∈ synthesis.schema.tableNames) ∧
      (missing town synthesis.schema).map Table.name =
        ["app_person", "app_person_person"] := by
    refine ⟨_, rfl, ?_, ?_, ?_⟩
    · decide +kernel
    · decide +kernel
    · decide +kernel
  have again : ∃ fresh, synthesize household
      (TableNames.allocate household "app" town.tableNames) = .ok fresh :=
    ⟨_, rfl⟩
  obtain ⟨synthesis, made, distinct, closed, names⟩ := succeeds
  obtain ⟨fresh, freshMade⟩ := again
  refine ⟨synthesis, fresh, made, freshMade, names, ?_, ?_, ?_⟩
  · exact (migrate_complete .postgres town synthesis.schema).1 distinct closed
  · exact (migrate_complete .sqlite town synthesis.schema).1 distinct closed
  · exact (migrate_complete .postgres town fresh.schema).2.2 household
      (.synthesized freshMade)

end GraphSchema.Sql
