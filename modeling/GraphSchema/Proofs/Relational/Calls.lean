import GraphSchema.Proofs.Lists
import GraphSchema.Proofs.Relational.Relations

/-!
# Schemas made call by call

A schema is empty at first. Each call adds a table to it or asks for a relation to be
recorded, and a relation is refused where no table has the name of its owner. What is
recorded is kept twice, in the list of relations and as a foreign key of the first table
of the owner's name. The two stay in step whatever the calls are, and no call changes
anything but foreign keys of the tables that are there.
-/

namespace GraphSchema.Relational

/-- A call on a schema. -/
inductive Call where
  | addTable (table : Table)
  | addRelation (relation : Relation)
  deriving DecidableEq, Repr

def Call.table? : Call → Option Table
  | .addTable table => some table
  | .addRelation _ => none

/-- The tables that some calls add, in order. -/
def addedTables (calls : List Call) : List Table :=
  calls.filterMap Call.table?

theorem addedTables_cons (call : Call) (rest : List Call) :
    addedTables (call :: rest) = call.table?.toList ++ addedTables rest := by
  cases call <;> rfl

/-- Whether the first table of every name has the foreign keys of the relations that it
owns, in order, and no later table of a name has any. -/
def HoldsKeys (relations : List Relation) (tables : List Table) : Prop :=
  ∀ before table after, tables = before ++ table :: after →
    table.foreignKeys =
      if table.name ∈ before.map Table.name then []
      else Schema.keysOf relations table.name

/-! ## One relation -/

/-- The table that gets a key is the first one of the name. -/
theorem exists_of_attach {name : String} {key : ForeignKey}
    {tables attached : List Table}
    (accepted : attach name key tables = some attached) :
    ∃ before table after, tables = before ++ table :: after ∧ table.name = name ∧
      name ∉ before.map Table.name ∧
      attached = before ++ table.withKeys [key] :: after := by
  induction tables generalizing attached with
  | nil => cases accepted
  | cons first rest ih =>
      rw [attach] at accepted
      split at accepted
      next same =>
        cases accepted
        exact ⟨[], first, rest, rfl, same, by simp, rfl⟩
      next other =>
        obtain ⟨later, found, rfl⟩ := Option.map_eq_some_iff.1 accepted
        obtain ⟨before, table, after, rfl, same, fresh, rfl⟩ := ih found
        refine ⟨first :: before, table, after, rfl, same, ?_, rfl⟩
        simpa [Ne.symm other] using fresh

theorem Schema.keysOf_concat (relations : List Relation) (relation : Relation)
    (name : String) :
    keysOf (relations ++ [relation]) name =
      keysOf relations name ++
        if relation.ownerTable = name then [relation.foreignKey] else [] := by
  by_cases owner : relation.ownerTable = name <;> simp [keysOf, owner]

namespace HoldsKeys

variable {relations : List Relation} {tables : List Table}

/-- A new table starts without foreign keys. If it is the first one of its name, no
relation has been recorded for the name. -/
theorem addTable (holds : HoldsKeys relations tables)
    (owned : ∀ relation ∈ relations, relation.ownerTable ∈ tables.map Table.name)
    {table : Table} (bare : table.foreignKeys = []) :
    HoldsKeys relations (tables ++ [table]) := by
  intro before found after split
  cases List.eq_nil_or_concat after with
  | inl last =>
      subst last
      obtain ⟨rfl, same⟩ := List.append_inj' split rfl
      obtain rfl := List.singleton_inj.1 same
      rw [bare]
      split
      next => rfl
      next fresh =>
        refine (Schema.keysOf_eq_nil.2 ?_).symm
        intro relation member same
        exact fresh (same ▸ owned relation member)
  | inr longer =>
      obtain ⟨after, last, rfl⟩ := longer
      rw [List.concat_eq_append, ← List.cons_append, ← List.append_assoc] at split
      exact holds before found after (List.append_inj' split rfl).1

/-- A relation that is accepted gives its key to the first table of the owner's name.
All other tables have other names, or come later. -/
theorem attach (holds : HoldsKeys relations tables) {relation : Relation}
    {attached : List Table}
    (accepted : attach relation.ownerTable relation.foreignKey tables = some attached) :
    HoldsKeys (relations ++ [relation]) attached := by
  obtain ⟨first, owner, rest, rfl, same, fresh, rfl⟩ := exists_of_attach accepted
  intro before table after split
  rw [Schema.keysOf_concat]
  rcases append_cons_eq_append_cons split with
    ⟨between, rfl, rfl⟩ | ⟨rfl, rfl, rfl⟩ | ⟨between, rfl, rfl⟩
  case inl =>
    have other : relation.ownerTable ≠ table.name := by
      intro equal
      exact fresh (by simp [equal])
    rw [if_neg other, List.append_nil]
    exact holds before table (between ++ owner :: rest) (by simp)
  case inr.inl =>
    have old := holds first owner rest rfl
    rw [same, if_neg fresh] at old
    rw [Table.withKeys_name, same, if_neg fresh, if_pos rfl, ← old]
    rfl
  case inr.inr =>
    have old := holds (first ++ owner :: between) table after (by simp)
    simp only [List.map_append, List.map_cons, Table.withKeys_name] at old ⊢
    rw [old]
    split
    next => rfl
    next absent =>
      have other : relation.ownerTable ≠ table.name := by
        intro equal
        exact absent (by simp [same, equal])
      rw [if_neg other, List.append_nil]

end HoldsKeys

/-! ## Calls in sequence -/

namespace Schema

def apply (schema : Schema) : Call → Schema
  | .addTable table => schema.addTable table
  | .addRelation relation => schema.addRelation relation

/-- The schema after some calls. -/
def run (schema : Schema) (calls : List Call) : Schema :=
  calls.foldl apply schema

/-- The relations of those calls that a schema answers with yes. -/
def accepted (schema : Schema) : List Call → List Relation
  | [] => []
  | .addTable table :: rest => accepted (schema.addTable table) rest
  | .addRelation relation :: rest =>
      match schema.addRelation? relation with
      | some next => relation :: accepted next rest
      | none => accepted schema rest

variable {schema : Schema}

theorem addRelation?_isSome {relation : Relation} :
    (schema.addRelation? relation).isSome = true ↔
      relation.ownerTable ∈ schema.tableNames := by
  rw [addRelation?, Option.isSome_map, ← Option.ne_none_iff_isSome, Ne, attach_eq_none,
    tableNames, List.mem_map]
  push Not
  rfl

theorem addRelation_of_refused {relation : Relation}
    (refused : schema.addRelation? relation = none) :
    schema.addRelation relation = schema := by
  rw [addRelation, refused, Option.getD_none]

/-- A call adds its table at the end, if it has one. All other tables stay what they are,
apart from their foreign keys. -/
theorem apply_bare (schema : Schema) (call : Call) :
    (schema.apply call).tables.map Table.bare =
      schema.tables.map Table.bare ++ call.table?.toList.map Table.bare := by
  cases call with
  | addTable table => simp [apply, addTable, Call.table?]
  | addRelation relation => simp [apply, addRelation_bare, Call.table?]

theorem run_bare (schema : Schema) (calls : List Call) :
    (schema.run calls).tables.map Table.bare =
      schema.tables.map Table.bare ++ (addedTables calls).map Table.bare := by
  induction calls generalizing schema with
  | nil => simp [run, addedTables]
  | cons call rest ih =>
      have later := ih (schema.apply call)
      rw [apply_bare] at later
      rw [addedTables_cons, List.map_append, ← List.append_assoc]
      exact later

theorem run_tableNames (calls : List Call) :
    (empty.run calls).tableNames = (addedTables calls).map Table.name := by
  have names := congrArg (List.map Table.name) (empty.run_bare calls)
  simpa [empty, tableNames, Function.comp_def] using names

/-- The relations that were recorded are those that were accepted. -/
theorem run_relations (schema : Schema) (calls : List Call) :
    (schema.run calls).relations = schema.relations ++ schema.accepted calls := by
  induction calls generalizing schema with
  | nil => simp [run, accepted]
  | cons call rest ih =>
      cases call with
      | addTable table => exact ih (schema.addTable table)
      | addRelation relation =>
          have later := ih (schema.addRelation relation)
          cases answer : schema.addRelation? relation with
          | none =>
              rw [addRelation_of_refused answer] at later
              rw [accepted, answer]
              simpa [run, apply, addRelation_of_refused answer] using later
          | some next =>
              have reached : schema.addRelation relation = next := by
                rw [addRelation, answer, Option.getD_some]
              obtain ⟨tables, _, rfl⟩ := Option.map_eq_some_iff.1 answer
              rw [reached] at later
              rw [accepted, answer]
              simpa [run, apply, reached] using later

/-- Whether the foreign keys of the tables are the relations of a schema, each of which
has its owner among the tables. -/
structure InStep (schema : Schema) : Prop where
  owned : ∀ relation ∈ schema.relations, relation.ownerTable ∈ schema.tableNames
  keys : HoldsKeys schema.relations schema.tables

theorem inStep_empty : InStep empty where
  owned := by simp [empty]
  keys := by
    intro before table after split
    simp [empty] at split

theorem InStep.apply (inStep : schema.InStep) {call : Call}
    (bare : ∀ table ∈ call.table?, table.foreignKeys = []) :
    (schema.apply call).InStep := by
  cases call with
  | addTable table =>
      refine ⟨?_, inStep.keys.addTable inStep.owned (bare table rfl)⟩
      intro relation member
      rw [tableNames, Schema.apply, addTable, List.map_append]
      exact List.mem_append_left _ (inStep.owned relation member)
  | addRelation relation =>
      rw [Schema.apply]
      cases answer : schema.addRelation? relation with
      | none =>
          rw [addRelation_of_refused answer]
          exact inStep
      | some next =>
          have owner : relation.ownerTable ∈ schema.tableNames :=
            addRelation?_isSome.1 (by rw [answer, Option.isSome_some])
          have names := schema.addRelation_tableNames relation
          rw [addRelation, answer, Option.getD_some] at names ⊢
          obtain ⟨tables, accepted, rfl⟩ := Option.map_eq_some_iff.1 answer
          refine ⟨?_, inStep.keys.attach accepted⟩
          intro other member
          rw [names]
          cases List.mem_append.1 member with
          | inl old => exact inStep.owned other old
          | inr new => exact List.mem_singleton.1 new ▸ owner

theorem InStep.run (inStep : schema.InStep) {calls : List Call}
    (bare : ∀ table ∈ addedTables calls, table.foreignKeys = []) :
    (schema.run calls).InStep := by
  induction calls generalizing schema with
  | nil => exact inStep
  | cons call rest ih =>
      rw [addedTables_cons, List.forall_mem_append] at bare
      refine ih (inStep.apply ?_) bare.2
      intro table given
      exact bare.1 table (Option.mem_toList.2 given)

/-- What a schema that was empty at first tells of the calls that were made on it. -/
structure MadeBy (calls : List Call) (schema : Schema) : Prop where
  /-- A relation is accepted exactly if a table of its owner's name was added before. -/
  accepts : ∀ relation, (schema.addRelation? relation).isSome = true ↔
    ∃ table ∈ addedTables calls, table.name = relation.ownerTable
  refuses : ∀ relation, (schema.addRelation? relation).isSome = false →
    schema.apply (.addRelation relation) = schema
  relations : schema.relations = empty.accepted calls
  keys : HoldsKeys (empty.accepted calls) schema.tables
  tables : schema.tables.map Table.bare = addedTables calls
  /-- No further call changes a table but for its foreign keys. -/
  lasting : ∀ call,
    schema.tables.map Table.bare <+: (schema.apply call).tables.map Table.bare

/-- After calls that add tables without foreign keys, the relations of a schema are those
that were accepted, and the foreign keys of its tables are the same relations. -/
theorem run_madeBy {calls : List Call}
    (bare : ∀ table ∈ addedTables calls, table.foreignKeys = []) :
    (empty.run calls).MadeBy calls := by
  have relations : (empty.run calls).relations = empty.accepted calls :=
    empty.run_relations calls
  have inStep := inStep_empty.run bare
  refine ⟨?accepts, ?refuses, relations, relations ▸ inStep.keys, ?tables, ?lasting⟩
  case accepts =>
    intro relation
    rw [addRelation?_isSome, run_tableNames, List.mem_map]
  case refuses =>
    intro relation refused
    exact addRelation_of_refused (Option.not_isSome_iff_eq_none.1 (by simp [refused]))
  case tables =>
    have unchanged : (addedTables calls).map Table.bare = addedTables calls := by
      conv_rhs => rw [← List.map_id (addedTables calls)]
      apply List.map_congr_left
      intro table member
      rw [Table.bare, ← bare table member, id]
    rw [run_bare, unchanged]
    rfl
  case lasting =>
    intro call
    rw [apply_bare]
    exact List.prefix_append _ _

/-- Two tables of one name, and relations that come before and after them. -/
def loans : List Call :=
  [.addRelation (.toRows "loan" "book_id" "book"),
    .addTable (.numbered "loan" [.plain "book_id" .integer]),
    .addRelation (.toRows "loan" "book_id" "book"),
    .addTable (.numbered "loan" [.plain "reader_id" .integer]),
    .addRelation (.toRows "reader" "loan_id" "loan"),
    .addRelation (.toRows "loan" "reader_id" "reader")]

theorem loans_madeBy :
    (∀ table ∈ addedTables loans, table.foreignKeys = []) ∧
      (empty.run loans).MadeBy loans ∧
      empty.accepted loans =
        [.toRows "loan" "book_id" "book", .toRows "loan" "reader_id" "reader"] ∧
      (empty.run loans).tables.map (fun table => table.foreignKeys.length) = [2, 0] :=
  ⟨by decide, run_madeBy (by decide), by decide, by decide⟩

end Schema

end GraphSchema.Relational
