import GraphSchema.Relational.Basic
import Mathlib.Logic.Basic

/-!
# Relations of a schema

Recording a relation gives one table one more foreign key. Nothing else changes:
all tables keep their names, columns and places. So the foreign keys that the
first table of a name has in the end are those of the relations it owns, in the
order in which these were recorded.
-/

namespace GraphSchema.Relational

namespace Table

/-- A table without its foreign keys. -/
def bare (table : Table) : Table :=
  { table with foreignKeys := [] }

/-- A table with some more foreign keys. -/
def withKeys (table : Table) (keys : List ForeignKey) : Table :=
  { table with foreignKeys := table.foreignKeys ++ keys }

@[simp] theorem bare_name (table : Table) : table.bare.name = table.name := rfl

@[simp] theorem bare_columnNames (table : Table) :
    table.bare.columnNames = table.columnNames := rfl

@[simp] theorem withKeys_name (table : Table) (keys : List ForeignKey) :
    (table.withKeys keys).name = table.name := rfl

@[simp] theorem withKeys_nil (table : Table) : table.withKeys [] = table := by
  simp [withKeys]

theorem withKeys_append (table : Table) (first second : List ForeignKey) :
    (table.withKeys first).withKeys second =
      table.withKeys (first ++ second) := by
  simp [withKeys]

end Table

theorem attach_bare {name : String} {key : ForeignKey}
    {tables attached : List Table}
    (accepted : attach name key tables = some attached) :
    attached.map Table.bare = tables.map Table.bare := by
  induction tables generalizing attached with
  | nil => simp [attach] at accepted
  | cons table rest ih =>
      rw [attach] at accepted
      split at accepted
      · cases accepted
        rfl
      · obtain ⟨later, found, rfl⟩ := Option.map_eq_some_iff.1 accepted
        simp [ih found]

/-- A key is refused only where no table has the name. -/
theorem attach_eq_none {name : String} {key : ForeignKey}
    {tables : List Table} :
    attach name key tables = none ↔ ∀ table ∈ tables, table.name ≠ name := by
  induction tables with
  | nil => simp [attach]
  | cons table rest ih =>
      rw [attach]
      split
      next same => simp [same]
      next different => simp [ih, different]

/-- The key goes to the first table of the name, and no other name finds a
changed table. -/
theorem find?_attach {name : String} {key : ForeignKey}
    {tables attached : List Table}
    (accepted : attach name key tables = some attached) (wanted : String) :
    attached.find? (·.name = wanted) =
      (tables.find? (·.name = wanted)).map fun table =>
        if name = wanted then table.withKeys [key] else table := by
  induction tables generalizing attached with
  | nil => simp [attach] at accepted
  | cons table rest ih =>
      rw [attach] at accepted
      split at accepted
      next same =>
        cases accepted
        by_cases here : table.name = wanted
        · simp [here, ← same, Table.withKeys]
        · have other : name ≠ wanted := same ▸ here
          simp [here, other]
      next different =>
        obtain ⟨later, found, rfl⟩ := Option.map_eq_some_iff.1 accepted
        by_cases here : table.name = wanted
        · have other : name ≠ wanted := by
            rintro rfl
            exact different here
          simp [here, other]
        · simp [here, ih found]

namespace Schema

theorem addRelation_bare (schema : Schema) (relation : Relation) :
    (schema.addRelation relation).tables.map Table.bare =
      schema.tables.map Table.bare := by
  simp only [addRelation, addRelation?]
  cases accepted : attach relation.ownerTable relation.foreignKey schema.tables with
  | none => rfl
  | some attached => exact attach_bare accepted

/-- The foreign keys that some relations give a table of a name. -/
def keysOf (relations : List Relation) (name : String) : List ForeignKey :=
  (relations.filter (·.ownerTable = name)).map Relation.foreignKey

theorem keysOf_flatMap {α : Type} (items : List α) (image : α → List Relation)
    (name : String) :
    keysOf (items.flatMap image) name =
      items.flatMap fun item => keysOf (image item) name := by
  simp only [keysOf, List.filter_flatMap, List.map_flatMap]

theorem keysOf_eq_nil {relations : List Relation} {name : String} :
    keysOf relations name = [] ↔
      ∀ relation ∈ relations, relation.ownerTable ≠ name := by
  simp [keysOf, List.filter_eq_nil_iff]

theorem addRelation_table? (schema : Schema) (relation : Relation)
    (name : String) :
    (schema.addRelation relation).table? name =
      (schema.table? name).map (·.withKeys (keysOf [relation] name)) := by
  simp only [addRelation, addRelation?, table?]
  cases accepted : attach relation.ownerTable relation.foreignKey schema.tables with
  | none =>
      have absent := attach_eq_none.1 accepted
      by_cases owner : relation.ownerTable = name
      · have missing : schema.tables.find? (·.name = name) = none := by
          simpa [List.find?_eq_none, ← owner] using absent
        simp [missing]
      · simp [keysOf, owner]
  | some attached =>
      have found := find?_attach accepted name
      by_cases owner : relation.ownerTable = name
      · simpa [keysOf, owner] using found
      · simpa [keysOf, owner] using found

theorem addRelation_tableNames (schema : Schema) (relation : Relation) :
    (schema.addRelation relation).tableNames = schema.tableNames := by
  have bare := congrArg (List.map Table.name) (schema.addRelation_bare relation)
  rw [List.map_map, List.map_map] at bare
  exact bare

/-- A relation whose owner has a table is recorded. -/
theorem addRelation?_eq_some {schema : Schema} {relation : Relation}
    (owned : relation.ownerTable ∈ schema.tableNames) :
    schema.addRelation? relation = some (schema.addRelation relation) := by
  cases accepted : schema.addRelation? relation with
  | some recorded => simp [addRelation, accepted]
  | none =>
      rw [addRelation?, Option.map_eq_none_iff, attach_eq_none] at accepted
      obtain ⟨table, member, same⟩ := List.mem_map.1 owned
      exact absurd same (accepted table member)

/-- Where every owner has a table, no relation of a run is refused. -/
theorem foldlM_addRelation? {schema : Schema} {relations : List Relation}
    (owned : ∀ relation ∈ relations, relation.ownerTable ∈ schema.tableNames) :
    relations.foldlM addRelation? schema =
      some (relations.foldl addRelation schema) := by
  induction relations generalizing schema with
  | nil => rfl
  | cons relation rest ih =>
      rw [List.forall_mem_cons] at owned
      rw [List.foldlM_cons, addRelation?_eq_some owned.1]
      apply ih
      intro later member
      rw [addRelation_tableNames]
      exact owned.2 later member

/-- A run in which no relation is refused records all of them, in order. -/
theorem foldlM_addRelation?_relations {schema built : Schema}
    {relations : List Relation}
    (accepted : relations.foldlM addRelation? schema = some built) :
    built.relations = schema.relations ++ relations := by
  induction relations generalizing schema with
  | nil =>
      cases accepted
      rw [List.append_nil]
  | cons relation rest ih =>
      rw [List.foldlM_cons, Option.bind_eq_bind, Option.bind_eq_some_iff] at accepted
      obtain ⟨next, recorded, later⟩ := accepted
      obtain ⟨tables, _, rfl⟩ := Option.map_eq_some_iff.1 recorded
      rw [ih later, List.append_assoc, List.singleton_append]

@[simp] theorem foldl_addTable (tables : List Table) (schema : Schema) :
    tables.foldl addTable schema =
      ⟨schema.tables ++ tables, schema.relations⟩ := by
  induction tables generalizing schema with
  | nil => simp
  | cons table rest ih => simp [ih, addTable]

/-- Relations leave everything but the foreign keys as it was. -/
theorem build_bare (tables : List Table) (relations : List Relation) :
    (build tables relations).tables.map Table.bare = tables.map Table.bare := by
  have step : ∀ schema : Schema,
      (relations.foldl addRelation schema).tables.map Table.bare =
        schema.tables.map Table.bare := by
    induction relations with
    | nil => simp
    | cons relation rest ih =>
        intro schema
        rw [List.foldl_cons, ih, addRelation_bare]
  rw [build, step]
  simp [empty]

/-- The first table of a name has the foreign keys of the relations it owns. -/
theorem build_table? (tables : List Table) (relations : List Relation)
    (name : String) :
    (build tables relations).table? name =
      (tables.find? (·.name = name)).map
        (·.withKeys (keysOf relations name)) := by
  have step : ∀ schema : Schema,
      (relations.foldl addRelation schema).table? name =
        (schema.table? name).map (·.withKeys (keysOf relations name)) := by
    induction relations with
    | nil => simp [keysOf]
    | cons relation rest ih =>
        intro schema
        have split : keysOf (relation :: rest) name =
            keysOf [relation] name ++ keysOf rest name := by
          simp only [keysOf, List.filter_cons]
          split <;> rfl
        rw [List.foldl_cons, ih, addRelation_table?, Option.map_map, split]
        simp [Function.comp_def, Table.withKeys_append]
  rw [build, step]
  simp [empty, table?]

/-! ## Foreign keys and relations -/

theorem mem_attach {name : String} {added key : ForeignKey}
    {tables attached : List Table}
    (accepted : attach name added tables = some attached) {table : Table}
    (member : table ∈ attached) (owned : key ∈ table.foreignKeys) :
    (∃ other ∈ tables, other.name = table.name ∧ key ∈ other.foreignKeys) ∨
      name = table.name ∧ added = key := by
  induction tables generalizing attached with
  | nil => simp [attach] at accepted
  | cons first rest ih =>
      rw [attach] at accepted
      split at accepted
      next same =>
        cases accepted
        cases List.mem_cons.1 member with
        | inl here =>
            subst here
            cases List.mem_append.1 owned with
            | inl old => exact Or.inl ⟨first, List.mem_cons_self, rfl, old⟩
            | inr new => exact Or.inr ⟨same.symm, (List.mem_singleton.1 new).symm⟩
        | inr later =>
            exact Or.inl ⟨table, List.mem_cons_of_mem _ later, rfl, owned⟩
      next different =>
        obtain ⟨later, found, rfl⟩ := Option.map_eq_some_iff.1 accepted
        cases List.mem_cons.1 member with
        | inl here =>
            subst here
            exact Or.inl ⟨table, List.mem_cons_self, rfl, owned⟩
        | inr behind =>
            refine (ih found behind).imp_left ?_
            intro old
            obtain ⟨other, inside, kept⟩ := old
            exact ⟨other, List.mem_cons_of_mem _ inside, kept⟩

/-- A foreign key was there before a relation was recorded, or is that of the
relation. -/
theorem mem_addRelation {schema : Schema} {relation : Relation} {table : Table}
    (member : table ∈ (schema.addRelation relation).tables) {key : ForeignKey}
    (owned : key ∈ table.foreignKeys) :
    (∃ other ∈ schema.tables, other.name = table.name ∧
        key ∈ other.foreignKeys) ∨
      relation.ownerTable = table.name ∧ relation.foreignKey = key := by
  simp only [addRelation, addRelation?] at member
  cases accepted : attach relation.ownerTable relation.foreignKey schema.tables with
  | none =>
      rw [accepted] at member
      exact Or.inl ⟨table, member, rfl, owned⟩
  | some attached =>
      rw [accepted] at member
      exact mem_attach accepted member owned

theorem mem_foldl_addRelation {relations : List Relation} {schema : Schema}
    {table : Table} (member : table ∈ (relations.foldl addRelation schema).tables)
    {key : ForeignKey} (owned : key ∈ table.foreignKeys) :
    (∃ other ∈ schema.tables, other.name = table.name ∧
        key ∈ other.foreignKeys) ∨
      ∃ relation ∈ relations, relation.ownerTable = table.name ∧
        relation.foreignKey = key := by
  induction relations generalizing schema with
  | nil => exact Or.inl ⟨table, member, rfl, owned⟩
  | cons relation rest ih =>
      cases ih member with
      | inr later =>
          obtain ⟨other, inside, made⟩ := later
          exact Or.inr ⟨other, List.mem_cons_of_mem _ inside, made⟩
      | inl earlier =>
          obtain ⟨other, inside, sameName, kept⟩ := earlier
          rw [← sameName]
          refine (mem_addRelation inside kept).imp_right ?_
          intro made
          exact ⟨relation, List.mem_cons_self, made⟩

/-- Where tables start without foreign keys, each key comes from a relation. -/
theorem exists_relation_of_build {tables : List Table}
    (bare : ∀ table ∈ tables, table.bare = table) {relations : List Relation}
    {table : Table} (member : table ∈ (build tables relations).tables)
    {key : ForeignKey} (owned : key ∈ table.foreignKeys) :
    ∃ relation ∈ relations, relation.ownerTable = table.name ∧
      relation.foreignKey = key := by
  rw [build, foldl_addTable] at member
  refine (mem_foldl_addRelation member owned).resolve_left ?_
  intro early
  obtain ⟨other, inside, _, kept⟩ := early
  rw [← bare other inside] at kept
  cases kept

/-- The relation of an owner that has a table is a foreign key of such a table. -/
theorem exists_table_of_relation {tables : List Table} {relations : List Relation}
    {relation : Relation} (member : relation ∈ relations)
    (owned : relation.ownerTable ∈ tables.map Table.name) :
    ∃ table ∈ (build tables relations).tables,
      table.name = relation.ownerTable ∧
        relation.foreignKey ∈ table.foreignKeys := by
  have found := build_table? tables relations relation.ownerTable
  cases first : tables.find? (·.name = relation.ownerTable) with
  | none =>
      obtain ⟨table, inside, same⟩ := List.mem_map.1 owned
      have refused := List.find?_eq_none.1 first table inside
      exact absurd (decide_eq_true same) refused
  | some table =>
      rw [first] at found
      refine ⟨_, List.mem_of_find?_eq_some found, ?_, ?_⟩
      · simpa using List.find?_some first
      · apply List.mem_append_right
        exact List.mem_map_of_mem
          (List.mem_filter.2 ⟨member, decide_eq_true rfl⟩)

end Schema

end GraphSchema.Relational
