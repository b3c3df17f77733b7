import GraphSchema.Proofs.Relational.Relations
import GraphSchema.Sql.Statement

/-!
# Execution of statements

What statements do to the tables of a database, and which of them a database
refuses. A table needs a free name, a foreign key needs both of its tables, and a
table stays as long as another one refers to it. Statements are executed one
after the other, so each of them meets the tables that the earlier ones left.
-/

namespace GraphSchema.Sql

open Relational (ForeignKey Schema Table attach)

/-- A table as it is right after its creation. -/
def created (dialect : Dialect) (table : Table) : Table :=
  if dialect.addsForeignKeys then table.bare else table

namespace Statement

/-- The tables after a statement. -/
def apply (dialect : Dialect) (database : List Table) : Statement → List Table
  | .createTable table => database ++ [created dialect table]
  | .addForeignKey table key => (attach table key database).getD database
  | .dropTable name => database.filter (·.name ≠ name)

/-- Whether a database does what a statement says. -/
def Accepted (database : List Table) : Statement → Prop
  | .createTable table => table.name ∉ database.map Table.name
  | .addForeignKey table key =>
      table ∈ database.map Table.name ∧
        key.referencedTable ∈ database.map Table.name
  | .dropTable name =>
      ∀ table ∈ database, table.name ≠ name →
        ∀ key ∈ table.foreignKeys, key.referencedTable ≠ name

instance (database : List Table) :
    (statement : Statement) → Decidable (statement.Accepted database)
  | .createTable table =>
      inferInstanceAs (Decidable (table.name ∉ database.map Table.name))
  | .addForeignKey table key =>
      inferInstanceAs (Decidable (table ∈ database.map Table.name ∧
        key.referencedTable ∈ database.map Table.name))
  | .dropTable name =>
      inferInstanceAs (Decidable (∀ table ∈ database, table.name ≠ name →
        ∀ key ∈ table.foreignKeys, key.referencedTable ≠ name))

/-- The foreign keys that a statement declares, each with its table. -/
def declares (dialect : Dialect) : Statement → List (String × ForeignKey)
  | .createTable table =>
      (created dialect table).foreignKeys.map fun key => (table.name, key)
  | .addForeignKey table key => [(table, key)]
  | .dropTable _ => []

end Statement

/-- The tables after some statements. -/
def run (dialect : Dialect) (database : List Table)
    (statements : List Statement) : List Table :=
  statements.foldl (Statement.apply dialect) database

/-- Whether each of some statements is accepted when its turn comes. -/
def Safe (dialect : Dialect) : List Table → List Statement → Prop
  | _, [] => True
  | database, statement :: rest =>
      statement.Accepted database ∧
        Safe dialect (statement.apply dialect database) rest

instance decidableSafe (dialect : Dialect) : (database : List Table) →
    (statements : List Statement) → Decidable (Safe dialect database statements)
  | _, [] => inferInstanceAs (Decidable True)
  | database, statement :: rest =>
      have := decidableSafe dialect (statement.apply dialect database) rest
      inferInstanceAs (Decidable (_ ∧ _))

variable {dialect : Dialect} {database : List Table}

@[simp] theorem created_name (dialect : Dialect) (table : Table) :
    (created dialect table).name = table.name := by
  rw [created]
  split <;> rfl

/-- A definition lists the columns and the foreign keys that a table has from its
creation on. -/
theorem tableParts_eq (dialect : Dialect) (table : Table) :
    tableParts dialect table =
      table.columns.map (columnText dialect table) ++
        (created dialect table).foreignKeys.map foreignKeyText := by
  cases dialect <;> rfl

/-! ## Runs -/

@[simp] theorem run_nil (dialect : Dialect) (database : List Table) :
    run dialect database [] = database := rfl

theorem run_cons (dialect : Dialect) (database : List Table)
    (statement : Statement) (rest : List Statement) :
    run dialect database (statement :: rest) =
      run dialect (statement.apply dialect database) rest := rfl

theorem run_append (dialect : Dialect) (database : List Table)
    (first second : List Statement) :
    run dialect database (first ++ second) =
      run dialect (run dialect database first) second :=
  List.foldl_append

theorem safe_append {first second : List Statement} :
    Safe dialect database (first ++ second) ↔
      Safe dialect database first ∧
        Safe dialect (run dialect database first) second := by
  induction first generalizing database with
  | nil => simp [Safe]
  | cons statement rest ih =>
      simp only [List.cons_append, Safe, run_cons, ih, and_assoc]

/-- A run is safe when every statement is accepted by what the statements before it
leave. -/
theorem safe_iff {statements : List Statement} :
    Safe dialect database statements ↔
      ∀ before statement after, statements = before ++ statement :: after →
        statement.Accepted (run dialect database before) := by
  constructor
  · intro safe before statement after split
    rw [split, safe_append] at safe
    exact safe.2.1
  · intro accepted
    induction statements generalizing database with
    | nil => trivial
    | cons statement rest ih =>
        constructor
        · exact accepted [] statement rest rfl
        · apply ih
          intro before other after split
          exact accepted (statement :: before) other after (by rw [split]; rfl)

/-! ## Creation of tables -/

theorem run_createTables (dialect : Dialect) (database tables : List Table) :
    run dialect database (tables.map .createTable) =
      database ++ tables.map (created dialect) := by
  induction tables generalizing database with
  | nil => simp
  | cons table rest ih =>
      rw [List.map_cons, run_cons, ih, Statement.apply, List.append_assoc]
      rfl

/-- Names that are free stay free when a table of another name is there. -/
theorem free_append {table : Table} {others : List Table}
    (distinct : table.name ∉ others.map Table.name)
    (free : ∀ other ∈ others, other.name ∉ database.map Table.name)
    {added : Table} (named : added.name = table.name) :
    ∀ other ∈ others, other.name ∉ (database ++ [added]).map Table.name := by
  intro other member taken
  rw [List.map_append, List.mem_append] at taken
  cases taken with
  | inl earlier => exact free other member earlier
  | inr same =>
      have sameName : other.name = table.name := by simpa [named] using same
      exact distinct (sameName ▸ List.mem_map_of_mem member)

/-- Tables with distinct free names can be created one after the other. -/
theorem safe_createTables {tables : List Table}
    (distinct : (tables.map Table.name).Nodup)
    (free : ∀ table ∈ tables, table.name ∉ database.map Table.name) :
    Safe dialect database (tables.map .createTable) := by
  induction tables generalizing database with
  | nil => trivial
  | cons table rest ih =>
      rw [List.map_cons, List.nodup_cons] at distinct
      rw [List.forall_mem_cons] at free
      refine ⟨free.1, ih distinct.2 ?_⟩
      exact free_append distinct.1 free.2 (created_name dialect table)

/-! ## Removal of tables -/

theorem run_dropTables (dialect : Dialect) (database : List Table)
    (names : List String) :
    run dialect database (names.map .dropTable) =
      database.filter (·.name ∉ names) := by
  induction names generalizing database with
  | nil =>
      rw [List.filter_eq_self.2 (by simp)]
      rfl
  | cons name rest ih =>
      rw [List.map_cons, run_cons, ih, Statement.apply, List.filter_filter]
      apply List.filter_congr
      intro table _
      simp [Bool.and_comm]

/-! ## Addition of foreign keys -/

/-- A foreign key leaves the names of the tables as they are. -/
theorem apply_addForeignKey_names (dialect : Dialect) (database : List Table)
    (table : String) (key : ForeignKey) :
    ((Statement.addForeignKey table key).apply dialect database).map Table.name =
      database.map Table.name := by
  rw [Statement.apply]
  cases accepted : attach table key database with
  | none => rfl
  | some attached =>
      have bare := congrArg (List.map Table.name) (Relational.attach_bare accepted)
      rw [List.map_map, List.map_map] at bare
      exact bare

/-- Foreign keys between tables that are there can be added in any order. -/
theorem safe_addForeignKeys {keys : List (String × ForeignKey)}
    (present : ∀ entry ∈ keys, entry.1 ∈ database.map Table.name ∧
      entry.2.referencedTable ∈ database.map Table.name) :
    Safe dialect database
      (keys.map fun entry => .addForeignKey entry.1 entry.2) := by
  induction keys generalizing database with
  | nil => trivial
  | cons entry rest ih =>
      rw [List.forall_mem_cons] at present
      refine ⟨present.1, ih ?_⟩
      rw [apply_addForeignKey_names]
      exact present.2

theorem attach_append {name : String} {key : ForeignKey} {before : List Table}
    (others : ∀ table ∈ before, table.name ≠ name) (table : Table)
    (same : table.name = name) (after : List Table) :
    attach name key (before ++ table :: after) =
      some (before ++ table.withKeys [key] :: after) := by
  induction before with
  | nil => simp [attach, same, Table.withKeys]
  | cons other rest ih =>
      rw [List.forall_mem_cons] at others
      rw [List.cons_append, attach, if_neg others.1, ih others.2]
      rfl

/-- All foreign keys of one table, which is the first one of its name. -/
theorem run_foreignKeys (dialect : Dialect) {before : List Table} (table : Table)
    (others : ∀ other ∈ before, other.name ≠ table.name) (after : List Table)
    (keys : List ForeignKey) :
    run dialect (before ++ table :: after)
        (keys.map (.addForeignKey table.name)) =
      before ++ table.withKeys keys :: after := by
  induction keys generalizing table with
  | nil => simp
  | cons key rest ih =>
      rw [List.map_cons, run_cons, Statement.apply,
        attach_append others table rfl after, Option.getD_some]
      have later := ih (table.withKeys [key]) others
      rw [Table.withKeys_append] at later
      exact later

/-- The statements for the foreign keys of a table that was just created make it
what it was meant to be. -/
theorem run_foreignKeyStatements (dialect : Dialect) {before : List Table}
    (table : Table) (others : ∀ other ∈ before, other.name ≠ table.name)
    (after : List Table) :
    run dialect (before ++ created dialect table :: after)
        (foreignKeyStatements dialect table) = before ++ table :: after := by
  cases dialect with
  | sqlite => rfl
  | postgres =>
      have complete : table.bare.withKeys table.foreignKeys = table := rfl
      have keys := run_foreignKeys .postgres table.bare others after
        table.foreignKeys
      rw [complete] at keys
      exact keys

/-- Once some tables are created, the statements for their foreign keys complete
all of them and change no other table. -/
theorem run_flatMap_foreignKeyStatements (dialect : Dialect)
    {database tables : List Table} (distinct : (tables.map Table.name).Nodup)
    (free : ∀ table ∈ tables, table.name ∉ database.map Table.name) :
    run dialect (database ++ tables.map (created dialect))
        (tables.flatMap (foreignKeyStatements dialect)) = database ++ tables := by
  induction tables generalizing database with
  | nil => simp
  | cons table rest ih =>
      rw [List.map_cons, List.nodup_cons] at distinct
      rw [List.forall_mem_cons] at free
      have others : ∀ other ∈ database, other.name ≠ table.name := by
        intro other member same
        exact free.1 (same ▸ List.mem_map_of_mem member)
      have later := ih distinct.2 (free_append distinct.1 free.2 rfl)
      rw [List.append_assoc, List.append_assoc] at later
      rw [List.map_cons, List.flatMap_cons, run_append,
        run_foreignKeyStatements dialect table others]
      exact later

end GraphSchema.Sql
