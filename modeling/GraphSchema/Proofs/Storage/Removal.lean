import GraphSchema.Proofs.Sql.Execution
import GraphSchema.Proofs.Storage.ForeignKeys

/-!
# Removal of a schema

The tables of a schema are dropped in the reverse of the order in which they were
created, which is the order of the graph and not that of the references. All of
them are dropped. A table is dropped while another one still refers to it exactly
when it holds the objects of a type that an earlier type of the graph refers to:
references to the own type or to an earlier one are never in the way.
-/

namespace GraphSchema

open Relational (ForeignKey Relation Schema Table)
open Sql (Dialect Safe Statement)

/-- Whether objects of a type refer to objects of a type of some name, one by one
or in a collection. -/
def RecordType.Holds (type : RecordType) (target : String) : Prop :=
  ∃ property ∈ type.properties, property.kind = .object target ∨
    ∃ collection, property.kind = .collection collection (.type target)

/-- Whether the type of a name is in a graph and an earlier type refers to it. -/
def TypeGraph.HeldEarlier (graph : TypeGraph) (name : String) : Prop :=
  ∃ before type after, graph.types = before ++ type :: after ∧
    type.name = name ∧ ∃ owner ∈ before, owner.Holds name

namespace Storage

variable {graph : TypeGraph} {catalog : List String} {names : TableNames}
variable {layout : Layout} {slot : Slot}

/-! ## Where foreign keys lead -/

/-- A relation of a slot leads to the table of its owner, if the slot has a table of
its own, or to that of the type that the slot refers to. -/
theorem LaidOut.recorded_target (laid : LaidOut graph names layout)
    (member : slot ∈ layout.slots) {relation : Relation}
    (recorded : relation ∈ slot.recorded names layout.table) :
    relation.targetTable = layout.table ∨
      ∃ target, layout.type.Holds target ∧
        names.table? target = some relation.targetTable := by
  simp only [Slot.recorded, Slot.relations] at recorded
  cases placement : slot.placement with
  | column name type => simp [placement] at recorded
  | dropped reason => simp [placement] at recorded
  | foreignKey column target =>
      simp only [placement] at recorded
      cases resolved : names.table target with
      | error problem => simp [resolved, bind, Except.bind] at recorded
      | ok found =>
          have same : relation = .toRows layout.table column found := by
            simpa [resolved, bind, Except.bind, pure, Except.pure] using recorded
          subst same
          right
          refine ⟨target, ⟨slot.property, laid.property_mem member, ?_⟩, ?_⟩
          · exact Or.inl (laid.foreignKey_refers member placement)
          · exact TableNames.table_eq_ok.1 resolved
  | junction junction =>
      simp only [placement] at recorded
      cases resolved : names.table junction.target with
      | error problem => simp [resolved, bind, Except.bind] at recorded
      | ok found =>
          have either : relation =
                .toRows junction.table junction.ownerColumn layout.table ∨
              relation =
                .toRows junction.table junction.targetColumn found := by
            simpa [resolved, bind, Except.bind, pure, Except.pure] using recorded
          cases either with
          | inl owner =>
              subst owner
              exact Or.inl rfl
          | inr held =>
              subst held
              right
              refine ⟨junction.target,
                ⟨slot.property, laid.property_mem member, ?_⟩, ?_⟩
              · exact Or.inr ⟨_, laid.junction_refers member placement⟩
              · exact TableNames.table_eq_ok.1 resolved

/-- A slot that refers to a type of the graph has a relation to the table of the
type. -/
theorem LaidOut.exists_recorded (allocated : names.Allocated graph catalog)
    (laid : LaidOut graph names layout) {target table : String}
    (holds : layout.type.Holds target)
    (found : names.table? target = some table) :
    ∃ slot ∈ layout.slots, ∃ relation ∈ slot.recorded names layout.table,
      relation.targetTable = table := by
  obtain ⟨property, owned, kind⟩ := holds
  obtain ⟨slot, member, rfl⟩ := laid.exists_slot owned
  have known := allocated.table_isOk.1 ⟨table, TableNames.table_eq_ok.2 found⟩
  refine ⟨slot, member, ?_⟩
  cases kind with
  | inl object =>
      obtain ⟨column, placement⟩ := laid.exists_foreignKey member object known
      rw [Slot.recorded_reference placement found]
      exact ⟨_, List.mem_singleton_self _, rfl⟩
  | inr collection =>
      obtain ⟨junction, placement, rfl⟩ := laid.exists_junction allocated member
        (heldType?_eq_some.2 collection) known
      rw [Slot.recorded_junction placement found]
      exact ⟨_, List.mem_cons_of_mem _ (List.mem_singleton_self _), rfl⟩

theorem LaidOut.table_not_mem_junctions (allocated : names.Allocated graph catalog)
    (laid : LaidOut graph names layout) :
    layout.table ∉ (layout.slots.filterMap Slot.junctionTable?).map Table.name := by
  intro member
  obtain ⟨table, inside, same⟩ := List.mem_map.1 member
  obtain ⟨slot, present, found⟩ := List.mem_filterMap.1 inside
  simp only [Slot.junctionTable?] at found
  cases placement : slot.placement with
  | junction junction =>
      have stored := laid.junction_table present placement
      have named : junction.table = layout.table := by
        rw [placement] at found
        rw [← same, ← Option.some.inj found]
        rfl
      exact allocated.table_ne_junction laid.table stored named.symm
  | column | foreignKey | dropped => simp [placement] at found

/-- The table that has the relations of a slot is one of the tables of its type. -/
theorem Slot.recorded_owner_mem (member : slot ∈ layout.slots)
    {relation : Relation}
    (recorded : relation ∈ slot.recorded names layout.table) :
    relation.ownerTable ∈ layout.tables.map Table.name := by
  cases Slot.recorded_owner recorded with
  | inl reference =>
      rw [reference.2]
      exact List.mem_map_of_mem (mem_layout_tables.2 (Or.inl rfl))
  | inr stored =>
      obtain ⟨junction, placement, owner⟩ := stored
      rw [owner]
      exact List.mem_map.2 ⟨junction.toTable,
        mem_layout_tables.2 (Or.inr ⟨slot, member, junction, placement, rfl⟩), rfl⟩

namespace Synthesized

variable {synthesis : Synthesis} {layouts : List Layout}
variable {relations : List (List Relation)}

/-- A foreign key belongs to a table of some type, and it leads to the table of this
type or of one that the type refers to. -/
theorem foreignKey_target (synthesized :
      Synthesized graph names synthesis layouts relations)
    {table : Table} (member : table ∈ synthesis.schema.tables)
    {key : ForeignKey} (owned : key ∈ table.foreignKeys) :
    ∃ layout ∈ layouts, table.name ∈ layout.tables.map Table.name ∧
      (key.referencedTable = layout.table ∨
        ∃ target, layout.type.Holds target ∧
          names.table? target = some key.referencedTable) := by
  have bare : ∀ table ∈ layouts.flatMap Layout.tables, table.bare = table := by
    intro table inside
    obtain ⟨layout, _, inLayout⟩ := List.mem_flatMap.1 inside
    exact layout_tables_bare inLayout
  rw [synthesized.schema] at member
  obtain ⟨relation, related, owner, rfl⟩ :=
    Schema.exists_relation_of_build bare member owned
  rw [synthesized.relations_eq] at related
  obtain ⟨layout, present, inLayout⟩ := List.mem_flatMap.1 related
  obtain ⟨slot, inside, recorded⟩ := List.mem_flatMap.1 inLayout
  refine ⟨layout, present, ?_, ?_⟩
  · rw [← owner]
    exact Slot.recorded_owner_mem inside recorded
  · exact (synthesized.laid layout present).recorded_target inside recorded

/-- A type that refers to another one has a table with a foreign key to the table
of the other. -/
theorem exists_foreignKey (allocated : names.Allocated graph catalog)
    (synthesized : Synthesized graph names synthesis layouts relations)
    (laid : LaidOut graph names layout) {target found : String}
    (holds : layout.type.Holds target)
    (known : names.table? target = some found) :
    ∃ table ∈ synthesis.schema.tables,
      table.name ∈ layout.tables.map Table.name ∧
        ∃ key ∈ table.foreignKeys, key.referencedTable = found := by
  obtain ⟨slot, member, relation, recorded, leads⟩ :=
    laid.exists_recorded allocated holds known
  have present := synthesized.mem_layouts.2 laid
  have owner := Slot.recorded_owner_mem member recorded
  have related : relation ∈ relations.flatten := by
    rw [synthesized.relations_eq]
    exact List.mem_flatMap.2
      ⟨layout, present, List.mem_flatMap.2 ⟨slot, member, recorded⟩⟩
  have owned : relation.ownerTable ∈
      (layouts.flatMap Layout.tables).map Table.name := by
    rw [List.map_flatMap]
    exact List.mem_flatMap.2 ⟨layout, present, owner⟩
  obtain ⟨table, inside, named, keyed⟩ :=
    Schema.exists_table_of_relation related owned
  rw [← synthesized.schema] at inside
  exact ⟨table, inside, named ▸ owner, relation.foreignKey, keyed, leads⟩

/-! ## The order of the tables -/

/-- Types in different places have different names. -/
theorem name_ne (synthesized :
      Synthesized graph names synthesis layouts relations)
    {earlier later : List Layout} (order : layouts = earlier ++ layout :: later)
    {other : Layout} (elsewhere : other ∈ earlier ++ later) :
    other.type.name ≠ layout.type.name := by
  have distinct := synthesized.layouts_nodup
  rw [order, List.map_append, List.map_cons, List.nodup_middle,
    List.nodup_cons, ← List.map_append] at distinct
  intro same
  exact distinct.1 (same ▸ List.mem_map_of_mem elsewhere)

/-- Types in different places have different tables. -/
theorem tables_disjoint (allocated : names.Allocated graph catalog)
    (synthesized : Synthesized graph names synthesis layouts relations)
    {earlier later : List Layout} (order : layouts = earlier ++ layout :: later)
    {other : Layout} (elsewhere : other ∈ earlier ++ later) :
    (other.tables.map Table.name).Disjoint (layout.tables.map Table.name) := by
  have present : other ∈ layouts := by
    rw [order]
    cases List.mem_append.1 elsewhere with
    | inl before => exact List.mem_append_left _ before
    | inr behind =>
        exact List.mem_append_right _ (List.mem_cons_of_mem _ behind)
  have own : layout ∈ layouts := by simp [order]
  exact layout_tables_disjoint allocated (synthesized.laid other present)
    (synthesized.laid layout own) (synthesized.name_ne order elsewhere)

/-- What comes after the table of a type: its other tables, and the tables of the
types behind it. -/
theorem names_after (allocated : names.Allocated graph catalog)
    (synthesized : Synthesized graph names synthesis layouts relations)
    {earlier later : List Layout} (order : layouts = earlier ++ layout :: later)
    {before after : List Table} {table : Table}
    (split : synthesis.schema.tables = before ++ table :: after)
    (named : table.name = layout.table) :
    after.map Table.name =
      (layout.slots.filterMap Slot.junctionTable?).map Table.name ++
        later.flatMap fun other => other.tables.map Table.name := by
  have all := synthesized.tableNames_eq
  rw [Schema.tableNames, split, order, List.map_append, List.map_cons,
    List.flatMap_append, List.flatMap_cons, Layout.tables, List.map_cons,
    List.cons_append, named] at all
  have own : layout.table ∈ layout.tables.map Table.name :=
    List.mem_map_of_mem (mem_layout_tables.2 (Or.inl rfl))
  have elsewhere : ∀ other ∈ earlier ++ later,
      layout.table ∉ other.tables.map Table.name := by
    intro other member inside
    exact synthesized.tables_disjoint allocated order member inside own
  have notBefore : layout.table ∉
      earlier.flatMap fun other => other.tables.map Table.name := by
    intro member
    obtain ⟨other, inside, there⟩ := List.mem_flatMap.1 member
    exact elsewhere other (List.mem_append_left _ inside) there
  have notAfter : layout.table ∉
      (layout.slots.filterMap Slot.junctionTable?).map Table.name ++
        later.flatMap fun other => other.tables.map Table.name := by
    intro member
    cases List.mem_append.1 member with
    | inl junction =>
        have laid := synthesized.laid layout (by simp [order])
        exact laid.table_not_mem_junctions allocated junction
    | inr behind =>
        obtain ⟨other, inside, there⟩ := List.mem_flatMap.1 behind
        exact elsewhere other (List.mem_append_right _ inside) there
  exact ((List.append_cons_inj_of_notMem notBefore notAfter).1 all.symm).2.2.symm

/-- The tables of an earlier type are apart from those of a type and of the types
behind it. -/
theorem not_mem_later (allocated : names.Allocated graph catalog)
    (synthesized : Synthesized graph names synthesis layouts relations)
    {earlier later : List Layout} (order : layouts = earlier ++ layout :: later)
    {owner : Layout} (before : owner ∈ earlier) {name : String}
    (owned : name ∈ owner.tables.map Table.name) :
    ∀ other ∈ layout :: later, name ∉ other.tables.map Table.name := by
  intro other behind inside
  obtain ⟨first, second, rfl⟩ := List.append_of_mem before
  rw [List.append_assoc, List.cons_append] at order
  have elsewhere : other ∈ first ++ (second ++ layout :: later) :=
    List.mem_append_right _ (List.mem_append_right _ behind)
  exact synthesized.tables_disjoint allocated order elsewhere inside owned

/-- The order of the graph is that of the layouts. -/
theorem heldEarlier_iff (synthesized :
      Synthesized graph names synthesis layouts relations) {name : String} :
    graph.HeldEarlier name ↔
      ∃ earlier layout later, layouts = earlier ++ layout :: later ∧
        layout.type.name = name ∧ ∃ owner ∈ earlier, owner.type.Holds name := by
  constructor
  · intro held
    obtain ⟨before, type, after, order, named, owner, member, holds⟩ := held
    rw [← synthesized.types, List.map_eq_append_iff] at order
    obtain ⟨earlier, rest, rfl, rfl, tail⟩ := order
    obtain ⟨layout, later, rfl, rfl, _⟩ := List.map_eq_cons_iff.1 tail
    obtain ⟨other, inside, rfl⟩ := List.mem_map.1 member
    exact ⟨earlier, layout, later, rfl, named, other, inside, holds⟩
  · intro held
    obtain ⟨earlier, layout, later, order, named, owner, member, holds⟩ := held
    refine ⟨earlier.map Layout.type, layout.type, later.map Layout.type, ?_, named,
      owner.type, List.mem_map_of_mem member, holds⟩
    rw [← synthesized.types, order, List.map_append, List.map_cons]

/-- The table of a type to which an earlier type refers is not dropped after those
behind it, because a table of the earlier type is still there. -/
theorem not_accepted (allocated : names.Allocated graph catalog)
    (synthesized : Synthesized graph names synthesis layouts relations)
    {before after : List Table} {table : Table}
    (split : synthesis.schema.tables = before ++ table :: after) {type : String}
    (found : names.table? type = some table.name) (held : graph.HeldEarlier type) :
    ¬ (Statement.dropTable table.name).Accepted
      (synthesis.schema.tables.filter (·.name ∉ after.map Table.name)) := by
  intro accepted
  obtain ⟨earlier, layout, later, order, rfl, owner, member, holds⟩ :=
    synthesized.heldEarlier_iff.1 held
  have laid := synthesized.laid layout (by simp [order])
  have named : table.name = layout.table :=
    Option.some.inj (found.symm.trans laid.table)
  have ownerLaid := synthesized.laid owner (by simp [order, member])
  obtain ⟨holder, present, owned, key, keyed, leads⟩ :=
    synthesized.exists_foreignKey allocated ownerLaid holds found
  have apart := synthesized.not_mem_later allocated order member owned
  have different : holder.name ≠ table.name := by
    intro same
    apply apart layout List.mem_cons_self
    rw [same, named]
    exact List.mem_map_of_mem (mem_layout_tables.2 (Or.inl rfl))
  have early : holder.name ∉ after.map Table.name := by
    rw [synthesized.names_after allocated order split named, List.mem_append,
      not_or]
    constructor
    · intro junction
      exact apart layout List.mem_cons_self (List.mem_cons_of_mem _ junction)
    · intro behind
      obtain ⟨other, inside, there⟩ := List.mem_flatMap.1 behind
      exact apart other (List.mem_cons_of_mem _ inside) there
  have kept : holder ∈ synthesis.schema.tables.filter
      (·.name ∉ after.map Table.name) :=
    List.mem_filter.2 ⟨present, decide_eq_true early⟩
  exact accepted holder kept different key keyed leads

/-- A foreign key leads to the table of a type, namely that of the type which its
own table was made for or one that this type refers to. -/
theorem foreignKey_layout (allocated : names.Allocated graph catalog)
    (synthesized : Synthesized graph names synthesis layouts relations)
    {table : Table} (member : table ∈ synthesis.schema.tables)
    {key : ForeignKey} (owned : key ∈ table.foreignKeys) :
    ∃ owner ∈ layouts, ∃ layout ∈ layouts,
      table.name ∈ owner.tables.map Table.name ∧
        key.referencedTable = layout.table ∧
        (layout = owner ∨ owner.type.Holds layout.type.name) := by
  obtain ⟨owner, inside, named, target⟩ :=
    synthesized.foreignKey_target member owned
  refine ⟨owner, inside, ?_⟩
  cases target with
  | inl own => exact ⟨owner, inside, named, own, Or.inl rfl⟩
  | inr held =>
      obtain ⟨type, holds, found⟩ := held
      obtain ⟨layout, laid, rfl⟩ := allocated.exists_layout_named
        (allocated.table_isOk.1 ⟨_, TableNames.table_eq_ok.2 found⟩)
      have same : key.referencedTable = layout.table :=
        Option.some.inj (found.symm.trans laid.table)
      exact ⟨layout, synthesized.mem_layouts.2 laid, named, same, Or.inr holds⟩

/-- A table is dropped after those behind it unless it is that of a type to which an
earlier type refers. -/
theorem accepted (allocated : names.Allocated graph catalog)
    (synthesized : Synthesized graph names synthesis layouts relations)
    {before after : List Table} {table : Table}
    (split : synthesis.schema.tables = before ++ table :: after)
    (unheld : ∀ type, names.table? type = some table.name →
      ¬ graph.HeldEarlier type) :
    (Statement.dropTable table.name).Accepted
      (synthesis.schema.tables.filter (·.name ∉ after.map Table.name)) := by
  intro holder kept different key keyed leads
  obtain ⟨present, early⟩ := List.mem_filter.1 kept
  obtain ⟨owner, inside, layout, member, owned, target, reason⟩ :=
    synthesized.foreignKey_layout allocated present keyed
  have named : table.name = layout.table := leads.symm.trans target
  obtain ⟨earlier, later, order⟩ := List.append_of_mem member
  have apart : holder.name ∉ after.map Table.name := of_decide_eq_true early
  rw [synthesized.names_after allocated order split named, List.mem_append,
    not_or] at apart
  rw [order, List.mem_append, List.mem_cons] at inside
  cases inside with
  | inl before =>
      cases reason with
      | inl same =>
          have elsewhere := List.mem_append_left later before
          exact synthesized.name_ne order elsewhere (by rw [same])
      | inr holds =>
          have laid := synthesized.laid layout member
          apply unheld layout.type.name (named ▸ laid.table)
          exact synthesized.heldEarlier_iff.2
            ⟨earlier, layout, later, order, rfl, owner, before, holds⟩
  | inr notBefore =>
      cases notBefore with
      | inl own =>
          rw [own, Layout.tables, List.map_cons, List.mem_cons] at owned
          cases owned with
          | inl first => exact different (first.trans named.symm)
          | inr junction => exact apart.1 junction
      | inr behind => exact apart.2 (List.mem_flatMap.2 ⟨owner, behind, owned⟩)

end Synthesized

/-! ## Statements -/

/-- What is left of a schema when it is the turn of a table to be dropped. -/
theorem run_drop_prefix {schema : Schema} {first second : List Statement}
    {name : String} (split : Sql.drop schema = first ++ .dropTable name :: second)
    (dialect : Dialect) :
    ∃ before table after, schema.tables = before ++ table :: after ∧
      table.name = name ∧
      Sql.run dialect schema.tables first =
        schema.tables.filter (·.name ∉ after.map Table.name) := by
  rw [Sql.drop, List.map_reverse, List.reverse_eq_iff, List.reverse_append,
    List.reverse_cons, List.append_assoc, List.singleton_append,
    List.map_eq_append_iff] at split
  obtain ⟨before, rest, order, _, tail⟩ := split
  obtain ⟨table, after, rfl, here, behind⟩ := List.map_eq_cons_iff.1 tail
  refine ⟨before, table, after, order, Statement.dropTable.inj here, ?_⟩
  have dropped : first =
      ((after.map Table.name).reverse).map Statement.dropTable := by
    rw [← List.map_reverse, List.map_map, List.map_reverse]
    exact (List.reverse_eq_iff.2 behind).symm
  rw [dropped, Sql.run_dropTables]
  simp only [List.mem_reverse]

/-- Each table of a schema has its turn. -/
theorem exists_drop {schema : Schema} {name : String}
    (member : name ∈ schema.tableNames) :
    ∃ first second, Sql.drop schema = first ++ .dropTable name :: second := by
  obtain ⟨table, inside, rfl⟩ := List.mem_map.1 member
  apply List.append_of_mem
  exact List.mem_map.2 ⟨table, List.mem_reverse.2 inside, rfl⟩

theorem run_drop (dialect : Dialect) (schema : Schema) :
    Sql.run dialect schema.tables (Sql.drop schema) = [] := by
  have names : Sql.drop schema =
      (schema.tables.reverse.map Table.name).map Statement.dropTable := by
    rw [Sql.drop, List.map_map]
    rfl
  rw [names, Sql.run_dropTables, List.filter_eq_nil_iff]
  intro table member
  simpa using ⟨table, member, rfl⟩

/-- The statements that drop the schema of a graph drop all tables. A statement is
accepted exactly when its table is not that of a type to which an earlier type of the
graph refers. So all of them are accepted exactly when every type refers only to
itself and to earlier types. -/
theorem synthesize_drop {tablePrefix : String} {synthesis : Synthesis}
    (made : synthesize graph (TableNames.allocate graph tablePrefix catalog) =
      .ok synthesis) (dialect : Dialect) :
    Sql.run dialect synthesis.schema.tables (Sql.drop synthesis.schema) = [] ∧
    (∀ first name second,
      Sql.drop synthesis.schema = first ++ .dropTable name :: second →
        ((Statement.dropTable name).Accepted
            (Sql.run dialect synthesis.schema.tables first) ↔
          ∀ type, (TableNames.allocate graph tablePrefix catalog).table? type =
            some name → ¬ graph.HeldEarlier type)) ∧
    (Safe dialect synthesis.schema.tables (Sql.drop synthesis.schema) ↔
      ∀ type, ¬ graph.HeldEarlier type) := by
  have allocated := TableNames.allocate_allocated graph tablePrefix catalog
  obtain ⟨layouts, relations, synthesized⟩ := exists_synthesized made
  have each : ∀ first name second,
      Sql.drop synthesis.schema = first ++ .dropTable name :: second →
        ((Statement.dropTable name).Accepted
            (Sql.run dialect synthesis.schema.tables first) ↔
          ∀ type, (TableNames.allocate graph tablePrefix catalog).table? type =
            some name → ¬ graph.HeldEarlier type) := by
    intro first name second split
    obtain ⟨before, table, after, order, rfl, left⟩ := run_drop_prefix split dialect
    rw [left]
    constructor
    · intro accepted type found held
      exact synthesized.not_accepted allocated order found held accepted
    · exact synthesized.accepted allocated order
  refine ⟨run_drop dialect synthesis.schema, each, ?_⟩
  rw [Sql.safe_iff]
  constructor
  · intro safe type held
    obtain ⟨earlier, layout, later, order, rfl, _⟩ :=
      synthesized.heldEarlier_iff.1 held
    have laid := synthesized.laid layout (by simp [order])
    have stored : layout.table ∈ synthesis.schema.tableNames :=
      List.mem_map_of_mem (List.mem_of_find?_eq_some
        (synthesized.table?_type allocated laid))
    obtain ⟨first, second, split⟩ := exists_drop stored
    exact (each first layout.table second split).1 (safe _ _ _ split)
      layout.type.name laid.table held
  · intro unheld first statement second split
    have member : statement ∈ Sql.drop synthesis.schema := by simp [split]
    obtain ⟨table, _, rfl⟩ := List.mem_map.1 member
    exact (each first table.name second split).2 fun type _ => unheld type

/-- Types that refer to themselves and to an earlier one. -/
def tenancy : TypeGraph where
  types := [⟨"Person", [⟨"friends", .collection .array (.type "Person"), none⟩]⟩,
    ⟨"House", [⟨"owner", .object "Person", none⟩,
      ⟨"annex", .object "House", none⟩,
      ⟨"tenants", .collection .map (.type "Person"), none⟩]⟩]
  names_nodup := by decide

theorem tenancy_drop :
    ∃ synthesis,
      synthesize tenancy (TableNames.allocate tenancy "app" []) = .ok synthesis ∧
      Sql.drop synthesis.schema =
        [.dropTable "app_house_person", .dropTable "app_house",
          .dropTable "app_person_person", .dropTable "app_person"] ∧
      Sql.run .postgres synthesis.schema.tables (Sql.drop synthesis.schema) = [] ∧
      Safe .postgres synthesis.schema.tables (Sql.drop synthesis.schema) ∧
      ∀ type, ¬ tenancy.HeldEarlier type := by
  have succeeds : ∃ synthesis,
      synthesize tenancy (TableNames.allocate tenancy "app" []) = .ok synthesis ∧
      Sql.drop synthesis.schema =
        [.dropTable "app_house_person", .dropTable "app_house",
          .dropTable "app_person_person", .dropTable "app_person"] ∧
      Safe .postgres synthesis.schema.tables (Sql.drop synthesis.schema) := by
    refine ⟨_, rfl, ?_, ?_⟩
    · decide +kernel
    · decide +kernel
  obtain ⟨synthesis, made, statements, safe⟩ := succeeds
  obtain ⟨dropped, _, ordered⟩ := synthesize_drop made .postgres
  exact ⟨synthesis, made, statements, dropped, safe, ordered.1 safe⟩

/-- A type that refers to the one behind it. -/
def forward : TypeGraph where
  types := [⟨"A", [⟨"b", .object "B", none⟩]⟩, ⟨"B", []⟩]
  names_nodup := by decide

/-- The table of the second type is dropped first, while the other one refers to
it. -/
theorem forward_refused :
    ∃ synthesis,
      synthesize forward (TableNames.allocate forward "app" []) = .ok synthesis ∧
      Sql.drop synthesis.schema = [.dropTable "app_b", .dropTable "app_a"] ∧
      ¬ Safe .postgres synthesis.schema.tables (Sql.drop synthesis.schema) := by
  refine ⟨_, rfl, ?_, ?_⟩
  · decide +kernel
  · decide +kernel

end Storage

end GraphSchema
