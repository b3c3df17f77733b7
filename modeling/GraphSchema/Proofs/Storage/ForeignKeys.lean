import GraphSchema.Proofs.Lists
import GraphSchema.Proofs.Storage.Columns
import GraphSchema.Proofs.Storage.Namesakes

/-!
# Foreign keys of a schema

The relations of a graph are collected over all of its types and attached to
tables by name. Where the tables of a schema have distinct names, none of them
is lost and none goes astray: the table of a type has a foreign key for each
slot that holds the number of a row, and the table of a junction has two.
-/

namespace GraphSchema.Storage

open Relational (Column ForeignKey Relation Schema Table primaryKey)

variable {graph : TypeGraph} {catalog : List String} {names : TableNames}
variable {layout : Layout} {slot : Slot}

/-- The foreign key from a column of a table to the rows of another table. -/
def rowKey (table column target : String) : ForeignKey where
  name := "fk_" ++ table ++ "_" ++ column
  columns := [column]
  referencedTable := target
  referencedColumns := [primaryKey]

theorem toRows_foreignKey (table column target : String) :
    (Relation.toRows table column target).foreignKey =
      rowKey table column target := rfl

/-- Keys of one table that start from different columns have different names. -/
theorem nodup_names_of_columns (table : String) {keys : List ForeignKey}
    (each : ∀ key ∈ keys, ∃ column target, key = rowKey table column target)
    (distinct : (keys.map ForeignKey.columns).Nodup) :
    (keys.map ForeignKey.name).Nodup := by
  refine List.Nodup.map_on ?_ distinct.of_map
  intro left leftMember right rightMember sameName
  obtain ⟨leftColumn, leftTarget, rfl⟩ := each left leftMember
  obtain ⟨rightColumn, rightTarget, rfl⟩ := each right rightMember
  apply List.inj_on_of_nodup_map distinct leftMember rightMember
  have sameColumn : leftColumn = rightColumn := by
    simpa [rowKey] using sameName
  rw [rowKey, rowKey, sameColumn]

namespace Slot

theorem junctionTable?_of_junction {junction : Junction}
    (placement : slot.placement = .junction junction) :
    slot.junctionTable?.map Table.name = some junction.table := by
  simp [junctionTable?, placement, Junction.toTable, Table.numbered]

/-- Whether a slot holds the number of an object's row. -/
def isReference (slot : Slot) : Bool :=
  match slot.placement with
  | .foreignKey _ _ => true
  | _ => false

/-- The foreign key of a slot that holds the number of an object's row, given the
table of its owner. -/
def rowKey? (names : TableNames) (table : String) (slot : Slot) :
    Option ForeignKey :=
  match slot.placement with
  | .foreignKey column target =>
      (names.table? target).map (rowKey table column)
  | _ => none

theorem rowKey?_eq_some {table : String} {key : ForeignKey} :
    slot.rowKey? names table = some key ↔
      ∃ column type target, slot.placement = .foreignKey column type ∧
        names.table? type = some target ∧
        key = GraphSchema.Storage.rowKey table column target := by
  simp only [rowKey?]
  cases slot.placement with
  | column name type | junction junction | dropped reason => simp
  | foreignKey column type =>
      simp only [Option.map_eq_some_iff, Placement.foreignKey.injEq]
      constructor
      · rintro ⟨target, found, same⟩
        exact ⟨column, type, target, ⟨rfl, rfl⟩, found, same.symm⟩
      · rintro ⟨_, _, target, ⟨rfl, rfl⟩, found, same⟩
        exact ⟨target, found, same.symm⟩

/-- The relations of a slot, if they can be made. -/
def recorded (names : TableNames) (table : String) (slot : Slot) :
    List Relation :=
  match slot.relations names table with
  | .ok relations => relations
  | .error _ => []

theorem recorded_reference {table column target found : String}
    (placement : slot.placement = .foreignKey column target)
    (known : names.table? target = some found) :
    slot.recorded names table = [.toRows table column found] := by
  have resolved := TableNames.table_eq_ok.2 known
  simp [recorded, relations, placement, resolved, bind, Except.bind, pure,
    Except.pure]

theorem recorded_junction {table found : String} {junction : Junction}
    (placement : slot.placement = .junction junction)
    (known : names.table? junction.target = some found) :
    slot.recorded names table =
      [.toRows junction.table junction.ownerColumn table,
        .toRows junction.table junction.targetColumn found] := by
  have resolved := TableNames.table_eq_ok.2 known
  simp [recorded, relations, placement, resolved, bind, Except.bind, pure,
    Except.pure]

/-- The relations of a slot belong to the table of its owner or to that of its
junction. -/
theorem recorded_owner {table : String} {relation : Relation}
    (member : relation ∈ slot.recorded names table) :
    (slot.isReference = true ∧ relation.ownerTable = table) ∨
      ∃ junction, slot.placement = .junction junction ∧
        relation.ownerTable = junction.table := by
  simp only [recorded, relations] at member
  simp only [isReference]
  cases placement : slot.placement with
  | column name type => simp [placement] at member
  | dropped reason => simp [placement] at member
  | foreignKey column target =>
      simp only [placement] at member
      cases resolved : names.table target with
      | error problem => simp [resolved, bind, Except.bind] at member
      | ok found =>
          left
          simp only [resolved, ok_bind, pure, Except.pure,
            List.mem_singleton] at member
          rw [member]
          exact ⟨rfl, rfl⟩
  | junction junction =>
      simp only [placement] at member
      cases resolved : names.table junction.target with
      | error problem => simp [resolved, bind, Except.bind] at member
      | ok found =>
          right
          simp only [resolved, ok_bind, pure, Except.pure, List.mem_cons,
            List.not_mem_nil, or_false] at member
          refine ⟨junction, rfl, ?_⟩
          rcases member with rfl | rfl
          · rfl
          · rfl

end Slot

/-- The relations of a layout are those of its slots, in order. -/
theorem Layout.relations_recorded {found : List Relation}
    (made : layout.relations names = .ok found) :
    found = layout.slots.flatMap (Slot.recorded names layout.table) := by
  simp only [Layout.relations, bind_eq_ok, pure_eq_ok, mapM_eq_ok] at made
  obtain ⟨each, related, rfl⟩ := made
  generalize layout.slots = slots at related
  induction related with
  | nil => rfl
  | cons here _ ih => simp [ih, Slot.recorded, here]

/-! ## The foreign keys of each table -/

/-- The type of an object that is stored has a table. -/
theorem LaidOut.reference_table (allocated : names.Allocated graph catalog)
    (laid : LaidOut graph names layout) (member : slot ∈ layout.slots)
    {column target : String}
    (placement : slot.placement = .foreignKey column target) :
    ∃ found, names.table? target = some found := by
  have placed := laid.placed member
  rw [placement] at placed
  cases placed with
  | object kind known column =>
      obtain ⟨found, resolved⟩ := allocated.table_isOk.2 known
      exact ⟨found, TableNames.table_eq_ok.1 resolved⟩

/-- A slot has a foreign key exactly when it holds the number of a row. -/
theorem LaidOut.isReference_iff (allocated : names.Allocated graph catalog)
    (laid : LaidOut graph names layout) (member : slot ∈ layout.slots) :
    slot.isReference = true ↔
      ∃ key, slot.rowKey? names layout.table = some key := by
  simp only [Slot.isReference, Slot.rowKey?]
  cases placement : slot.placement with
  | column name type | junction junction | dropped reason => simp
  | foreignKey column target =>
      obtain ⟨found, known⟩ := laid.reference_table allocated member placement
      simp [known]

/-- What a slot adds to the foreign keys of the table of its type. -/
theorem keysOf_recorded_type (allocated : names.Allocated graph catalog)
    (laid : LaidOut graph names layout) (member : slot ∈ layout.slots) :
    Schema.keysOf (slot.recorded names layout.table) layout.table =
      (slot.rowKey? names layout.table).toList := by
  cases placement : slot.placement with
  | column name type | dropped reason =>
      simp [Slot.recorded, Slot.relations, Slot.rowKey?, placement,
        Schema.keysOf]
  | foreignKey column target =>
      obtain ⟨found, known⟩ := laid.reference_table allocated member placement
      rw [Slot.recorded_reference placement known]
      simp [Schema.keysOf, Slot.rowKey?, placement, known, Relation.toRows,
        ← toRows_foreignKey]
  | junction junction =>
      have none : slot.rowKey? names layout.table = none := by
        simp [Slot.rowKey?, placement]
      rw [none, Option.toList_none, Schema.keysOf_eq_nil]
      intro relation inside same
      rcases Slot.recorded_owner inside with
        ⟨reference, _⟩ | ⟨other, otherPlacement, owner⟩
      · simp [Slot.isReference, placement] at reference
      · have found := laid.junction_table member otherPlacement
        exact allocated.table_ne_junction laid.table found
          (same.symm.trans owner)

/-- The foreign keys of a slot that holds the number of a row start from
different columns, and none of them is the primary key. -/
theorem LaidOut.rowKey_columns (laid : LaidOut graph names layout) :
    ([primaryKey] :: (layout.slots.filterMap (Slot.rowKey? names layout.table)).map
      ForeignKey.columns).Nodup := by
  have singles : ((primaryKey :: layout.slots.filterMap
      (·.placement.claimed?)).map fun column => [column]).Nodup := by
    apply laid.claimed_nodup.map
    intro left right same
    simpa using same
  refine singles.sublist ?_
  rw [List.map_cons, List.map_filterMap, List.map_filterMap]
  apply List.Sublist.cons_cons
  apply filterMap_sublist
  intro slot _ columns
  simp only [Slot.rowKey?]
  cases slot.placement with
  | column name type | junction junction | dropped reason => simp
  | foreignKey column target =>
      cases names.table? target <;> simp [rowKey, Placement.claimed?]

namespace Synthesized

variable {synthesis : Synthesis} {layouts : List Layout}
variable {relations : List (List Relation)}

/-- The relations of a synthesis, slot by slot. -/
theorem relations_eq (synthesized :
      Synthesized graph names synthesis layouts relations) :
    relations.flatten = layouts.flatMap fun layout =>
      layout.slots.flatMap (Slot.recorded names layout.table) := by
  have related := synthesized.related
  clear synthesized
  induction related with
  | nil => rfl
  | cons here _ ih =>
      rw [List.flatten_cons, List.flatMap_cons, ih,
        Layout.relations_recorded here]

/-- The foreign keys of the table of a type are those of its slots. -/
theorem keysOf_type (allocated : names.Allocated graph catalog)
    (synthesized : Synthesized graph names synthesis layouts relations)
    (laid : LaidOut graph names layout) :
    Schema.keysOf relations.flatten layout.table =
      layout.slots.filterMap (Slot.rowKey? names layout.table) := by
  rw [synthesized.relations_eq, Schema.keysOf_flatMap,
    flatMap_eq_of_unique synthesized.layouts_nodup.of_map
      (synthesized.mem_layouts.2 laid)]
  · rw [Schema.keysOf_flatMap, List.filterMap_eq_flatMap_toList]
    exact List.flatMap_congr fun slot member =>
      keysOf_recorded_type allocated laid member
  · intro other present different
    have otherLaid := synthesized.laid other present
    rw [Schema.keysOf_eq_nil]
    intro relation member same
    obtain ⟨slot, inside, recorded⟩ := List.mem_flatMap.1 member
    rcases Slot.recorded_owner recorded with
      ⟨_, owner⟩ | ⟨junction, placement, owner⟩
    · have sameType := allocated.table_inj otherLaid.table
        (laid.table.trans (congrArg some (same.symm.trans owner)))
      exact different (otherLaid.eq_of_name_eq laid sameType)
    · have found := otherLaid.junction_table inside placement
      exact allocated.table_ne_junction laid.table found
        (same.symm.trans owner)

/-- Where tables have distinct names, a junction belongs to one slot. -/
theorem eq_of_junction_table (allocated : names.Allocated graph catalog)
    (synthesized : Synthesized graph names synthesis layouts relations)
    (distinct : synthesis.schema.tableNames.Nodup)
    (laid : LaidOut graph names layout) (member : slot ∈ layout.slots)
    {junction : Junction} (placement : slot.placement = .junction junction)
    {other : Layout} (otherLaid : LaidOut graph names other) {otherSlot : Slot}
    (otherMember : otherSlot ∈ other.slots) {otherJunction : Junction}
    (otherPlacement : otherSlot.placement = .junction otherJunction)
    (sameTable : otherJunction.table = junction.table) :
    other = layout ∧ otherSlot = slot := by
  have found := laid.junction_table member placement
  have otherFound := otherLaid.junction_table otherMember otherPlacement
  rw [sameTable] at otherFound
  have sameType := (allocated.junction_inj otherFound found).1
  obtain rfl := otherLaid.eq_of_name_eq laid sameType
  refine ⟨rfl, ?_⟩
  rw [synthesized.tableNames_eq] at distinct
  have own := (List.nodup_flatMap.1 distinct).1 other
    (synthesized.mem_layouts.2 laid)
  rw [Layout.tables, List.map_cons, List.nodup_cons, List.map_filterMap] at own
  apply eq_of_nodup_filterMap own.2 otherMember member
  · exact Slot.junctionTable?_of_junction otherPlacement
  · rw [sameTable]
    exact Slot.junctionTable?_of_junction placement

/-- The foreign keys of the table of a junction are those of its slot. -/
theorem keysOf_junction (allocated : names.Allocated graph catalog)
    (synthesized : Synthesized graph names synthesis layouts relations)
    (distinct : synthesis.schema.tableNames.Nodup)
    (laid : LaidOut graph names layout) (member : slot ∈ layout.slots)
    {junction : Junction} (placement : slot.placement = .junction junction)
    {target : String} (known : names.table? junction.target = some target) :
    Schema.keysOf relations.flatten junction.table =
      [rowKey junction.table junction.ownerColumn layout.table,
        rowKey junction.table junction.targetColumn target] := by
  have found := laid.junction_table member placement
  rw [synthesized.relations_eq, Schema.keysOf_flatMap,
    flatMap_eq_of_unique synthesized.layouts_nodup.of_map
      (synthesized.mem_layouts.2 laid),
    Schema.keysOf_flatMap,
    flatMap_eq_of_unique laid.fields_nodup.of_map member]
  · rw [Slot.recorded_junction placement known]
    simp [Schema.keysOf, Relation.toRows, ← toRows_foreignKey]
  · intro other inside different
    rw [Schema.keysOf_eq_nil]
    intro relation recorded same
    rcases Slot.recorded_owner recorded with
      ⟨_, owner⟩ | ⟨otherJunction, otherPlacement, owner⟩
    · exact allocated.table_ne_junction laid.table found
        (owner.symm.trans same)
    · exact different (synthesized.eq_of_junction_table allocated distinct laid
        member placement laid inside otherPlacement (owner.symm.trans same)).2
  · intro other present different
    have otherLaid := synthesized.laid other present
    rw [Schema.keysOf_eq_nil]
    intro relation related same
    obtain ⟨otherSlot, inside, recorded⟩ := List.mem_flatMap.1 related
    rcases Slot.recorded_owner recorded with
      ⟨_, owner⟩ | ⟨otherJunction, otherPlacement, owner⟩
    · exact allocated.table_ne_junction otherLaid.table found
        (owner.symm.trans same)
    · exact different (synthesized.eq_of_junction_table allocated distinct laid
        member placement otherLaid inside otherPlacement
        (owner.symm.trans same)).1

/-- Where tables have distinct names, each of them is found by its name, with the
foreign keys of the relations that it owns. -/
theorem table?_of_mem (synthesized :
      Synthesized graph names synthesis layouts relations)
    (distinct : synthesis.schema.tableNames.Nodup)
    (laid : LaidOut graph names layout) {table : Table}
    (member : table ∈ layout.tables) :
    synthesis.schema.table? table.name =
      some (table.withKeys (Schema.keysOf relations.flatten table.name)) := by
  have found : (layouts.flatMap Layout.tables).find?
      (fun other => other.name = table.name) = some table := by
    have inside : table ∈ layouts.flatMap Layout.tables :=
      List.mem_flatMap.2 ⟨layout, synthesized.mem_layouts.2 laid, member⟩
    apply find?_eq_some_of_unique inside (by simp)
    intro other present sameName
    rw [synthesized.tableNames_eq, ← List.map_flatMap] at distinct
    exact List.inj_on_of_nodup_map distinct present inside (by simpa using sameName)
  rw [synthesized.schema, Schema.build_table?, found]
  rfl

/-- Where tables have distinct names, each table of the schema is one of a layout,
with the foreign keys of the relations that it owns. -/
theorem mem_tables (synthesized :
      Synthesized graph names synthesis layouts relations)
    (distinct : synthesis.schema.tableNames.Nodup) {built : Table}
    (member : built ∈ synthesis.schema.tables) :
    ∃ layout ∈ layouts, ∃ table ∈ layout.tables,
      built = table.withKeys (Schema.keysOf relations.flatten table.name) := by
  have bare : built.bare ∈ layouts.flatMap Layout.tables := by
    rw [← synthesized.tables_bare]
    exact List.mem_map_of_mem member
  obtain ⟨layout, present, inside⟩ := List.mem_flatMap.1 bare
  refine ⟨layout, present, built.bare, inside, ?_⟩
  have found := synthesized.table?_of_mem distinct
    (synthesized.laid layout present) inside
  have itself : synthesis.schema.table? built.bare.name = some built := by
    apply find?_eq_some_of_unique member (by simp)
    intro other otherMember sameName
    exact List.inj_on_of_nodup_map distinct otherMember member
      (of_decide_eq_true sameName)
  exact Option.some.inj (itself.symm.trans found)

/-- No relation of a synthesis is refused. -/
theorem relations_accepted (synthesized :
      Synthesized graph names synthesis layouts relations) :
    relations.flatten.foldlM Schema.addRelation?
        ⟨layouts.flatMap Layout.tables, []⟩ =
      some synthesis.schema := by
  rw [Schema.foldlM_addRelation?]
  · rw [synthesized.schema, Schema.build, Schema.foldl_addTable]
    rfl
  · intro relation member
    rw [synthesized.relations_eq] at member
    obtain ⟨layout, present, related⟩ := List.mem_flatMap.1 member
    obtain ⟨slot, inside, recorded⟩ := List.mem_flatMap.1 related
    rw [Schema.tableNames, List.map_flatMap]
    refine List.mem_flatMap.2 ⟨layout, present, List.mem_map.2 ?_⟩
    rcases Slot.recorded_owner recorded with
      ⟨_, owner⟩ | ⟨junction, placement, owner⟩
    · exact ⟨_, mem_layout_tables.2 (Or.inl rfl), owner.symm⟩
    · exact ⟨_, mem_layout_tables.2
        (Or.inr ⟨slot, inside, junction, placement, rfl⟩), owner.symm⟩

/-- The table of a type is in the schema, and its rows are numbered. -/
theorem exists_rows (allocated : names.Allocated graph catalog)
    (synthesized : Synthesized graph names synthesis layouts relations)
    {type target : String} (found : names.table? type = some target) :
    ∃ table ∈ synthesis.schema.tables, table.name = target ∧
      table.primaryKey = primaryKey ∧ primaryKey ∈ table.columnNames := by
  have known := allocated.table_isOk.1 ⟨target, TableNames.table_eq_ok.2 found⟩
  obtain ⟨layout, laid, rfl⟩ := allocated.exists_layout_named known
  obtain rfl := Option.some.inj (laid.table.symm.trans found)
  obtain ⟨table, present, bare⟩ := synthesized.exists_table laid
    (mem_layout_tables.2 (Or.inl rfl))
  refine ⟨table, present, ?_, ?_, ?_⟩
  · exact congrArg Table.name bare
  · exact congrArg Table.primaryKey bare
  · have columns := congrArg Table.columnNames bare
    rw [Table.bare_columnNames] at columns
    rw [columns]
    exact List.mem_cons_self

end Synthesized

/-! ## Well-formed foreign keys -/

/-- Whether a foreign key leads from an integer column of a table, which is not its
primary key, to the primary key of a table of a schema. -/
structure SoundKey (schema : Schema) (table : Table) (key : ForeignKey) :
    Prop where
  column : ∃ column ∈ table.columns, key.columns = [column.name] ∧
    column.type = .integer ∧ column.name ≠ table.primaryKey
  referenced : ∃ referenced ∈ schema.tables,
    key.referencedTable = referenced.name ∧
    key.referencedColumns = [referenced.primaryKey] ∧
    referenced.primaryKey ∈ referenced.columnNames

/-- Whether the columns and the foreign keys of a table have distinct names, and
all foreign keys are sound. -/
structure SoundKeys (schema : Schema) (table : Table) : Prop where
  columns : table.columnNames.Nodup
  each : ∀ key ∈ table.foreignKeys, SoundKey schema table key
  names : (table.foreignKeys.map ForeignKey.name).Nodup

namespace Synthesized

variable {synthesis : Synthesis} {layouts : List Layout}
variable {relations : List (List Relation)}

/-- Keys that lead from different integer columns to the tables of types are
sound. -/
theorem soundKeys (allocated : names.Allocated graph catalog)
    (synthesized : Synthesized graph names synthesis layouts relations)
    {table : Table} {keys : List ForeignKey} (bare : table.foreignKeys = [])
    (numbered : table.primaryKey = primaryKey)
    (columns : table.columnNames.Nodup)
    (each : ∀ key ∈ keys, ∃ column type target,
      key = rowKey table.name column target ∧ column ≠ primaryKey ∧
      Column.plain column .integer ∈ table.columns ∧
      names.table? type = some target)
    (distinct : (keys.map ForeignKey.columns).Nodup) :
    SoundKeys synthesis.schema (table.withKeys keys) := by
  have all : (table.withKeys keys).foreignKeys = keys := by
    rw [Table.withKeys, bare, List.nil_append]
  constructor
  · exact columns
  · rw [all]
    intro key member
    obtain ⟨column, type, target, rfl, different, inside, found⟩ :=
      each key member
    obtain ⟨referenced, present, named, rows, first⟩ :=
      synthesized.exists_rows allocated found
    constructor
    · exact ⟨_, inside, rfl, rfl, numbered ▸ different⟩
    · exact ⟨referenced, present, named.symm, by rw [rows]; rfl, rows ▸ first⟩
  · rw [all]
    apply nodup_names_of_columns table.name _ distinct
    intro key member
    obtain ⟨column, _, target, same, _⟩ := each key member
    exact ⟨column, target, same⟩

theorem soundKeys_type (allocated : names.Allocated graph catalog)
    (synthesized : Synthesized graph names synthesis layouts relations)
    (laid : LaidOut graph names layout) :
    SoundKeys synthesis.schema
      ((Table.numbered layout.table layout.columns).withKeys
        (layout.slots.filterMap (Slot.rowKey? names layout.table))) := by
  have columns := List.nodup_cons.1 laid.rowKey_columns
  have unique := laid.table_columnNames_nodup (mem_layout_tables.2 (Or.inl rfl))
  apply synthesized.soundKeys allocated rfl rfl unique _ columns.2
  intro key member
  obtain ⟨slot, inside, found⟩ := List.mem_filterMap.1 member
  obtain ⟨column, type, target, placement, resolved, rfl⟩ :=
    Slot.rowKey?_eq_some.1 found
  refine ⟨column, type, target, rfl, ?_, ?_, resolved⟩
  · rintro rfl
    exact columns.1 (List.mem_map.2 ⟨_, member, rfl⟩)
  · refine List.mem_cons_of_mem _ (List.mem_filterMap.2 ⟨slot, inside, ?_⟩)
    rw [placement]
    rfl

theorem soundKeys_junction (allocated : names.Allocated graph catalog)
    (synthesized : Synthesized graph names synthesis layouts relations)
    (laid : LaidOut graph names layout) (member : slot ∈ layout.slots)
    {junction : Junction} (placement : slot.placement = .junction junction)
    {target : String} (known : names.table? junction.target = some target) :
    SoundKeys synthesis.schema (junction.toTable.withKeys
      [rowKey junction.table junction.ownerColumn layout.table,
        rowKey junction.table junction.targetColumn target]) := by
  have columns := laid.table_columnNames_nodup (mem_layout_tables.2
    (Or.inr ⟨slot, member, junction, placement, rfl⟩))
  have apart := columns
  simp only [junction.toTable_columnNames, List.nodup_cons, List.mem_cons,
    List.mem_append, List.not_mem_nil, or_false, not_or] at apart
  apply synthesized.soundKeys allocated rfl rfl columns
  · intro key inside
    rw [List.mem_pair] at inside
    rcases inside with rfl | rfl
    · refine ⟨_, _, _, rfl, Ne.symm apart.1.1, ?_, laid.table⟩
      simp [Junction.toTable, Table.numbered]
    · refine ⟨_, _, _, rfl, Ne.symm apart.1.2.2, ?_, known⟩
      simp [Junction.toTable, Table.numbered]
  · simpa [rowKey] using apart.2.1.2

end Synthesized

/-! ## Synthesis -/

/-- Whether the table of a type has a foreign key for each slot that holds the
number of a row, in the order of the slots, and no other. -/
def HasTypeKeys (schema : Schema) (names : TableNames) (layout : Layout) :
    Prop :=
  ∃ table, schema.table? layout.table = some table ∧
    List.Forall₂ (fun slot key => ∃ column type target,
        slot.placement = .foreignKey column type ∧
        names.table? type = some target ∧
        key = rowKey layout.table column target)
      (layout.slots.filter Slot.isReference) table.foreignKeys

/-- Whether the table of a junction has two foreign keys, to the table of its owner
and to that of its target. -/
def HasJunctionKeys (schema : Schema) (names : TableNames) (owner : String)
    (junction : Junction) : Prop :=
  ∃ table target, schema.table? junction.table = some table ∧
    names.table? junction.target = some target ∧
    table.foreignKeys = [rowKey junction.table junction.ownerColumn owner,
      rowKey junction.table junction.targetColumn target]

namespace Synthesized

variable {synthesis : Synthesis} {layouts : List Layout}
variable {relations : List (List Relation)}

theorem hasTypeKeys (allocated : names.Allocated graph catalog)
    (synthesized : Synthesized graph names synthesis layouts relations)
    (laid : LaidOut graph names layout) :
    HasTypeKeys synthesis.schema names layout := by
  refine ⟨_, synthesized.table?_type allocated laid, ?_⟩
  rw [synthesized.keysOf_type allocated laid]
  have each := forall₂_filter_filterMap fun slot member =>
    laid.isReference_iff allocated member
  exact each.imp fun slot key => Slot.rowKey?_eq_some.1

theorem hasJunctionKeys (allocated : names.Allocated graph catalog)
    (synthesized : Synthesized graph names synthesis layouts relations)
    (distinct : synthesis.schema.tableNames.Nodup)
    (laid : LaidOut graph names layout) (member : slot ∈ layout.slots)
    {junction : Junction} (placement : slot.placement = .junction junction) :
    HasJunctionKeys synthesis.schema names layout.table junction := by
  obtain ⟨target, resolved⟩ := allocated.table_isOk.2
    (synthesized.known allocated laid slot member junction placement)
  have known := TableNames.table_eq_ok.1 resolved
  have found := synthesized.table?_of_mem distinct laid
    (mem_layout_tables.2 (Or.inr ⟨slot, member, junction, placement, rfl⟩))
  refine ⟨_, target, found, known, ?_⟩
  exact synthesized.keysOf_junction allocated distinct laid member placement known

theorem allSoundKeys (allocated : names.Allocated graph catalog)
    (synthesized : Synthesized graph names synthesis layouts relations)
    (distinct : synthesis.schema.tableNames.Nodup) {table : Table}
    (member : table ∈ synthesis.schema.tables) :
    SoundKeys synthesis.schema table := by
  obtain ⟨layout, present, bare, inside, rfl⟩ :=
    synthesized.mem_tables distinct member
  have laid := synthesized.laid layout present
  rcases mem_layout_tables.1 inside with
    rfl | ⟨slot, owned, junction, placement, rfl⟩
  · have keys := synthesized.keysOf_type allocated laid
    simp only [Table.numbered] at keys ⊢
    rw [keys]
    exact synthesized.soundKeys_type allocated laid
  · obtain ⟨target, resolved⟩ := allocated.table_isOk.2
      (synthesized.known allocated laid slot owned junction placement)
    have known := TableNames.table_eq_ok.1 resolved
    have keys := synthesized.keysOf_junction allocated distinct laid owned
      placement known
    have named : junction.toTable.name = junction.table := rfl
    rw [named, keys]
    exact synthesized.soundKeys_junction allocated laid owned placement known

end Synthesized

/-- Where the tables of a schema have distinct names, its foreign keys are exactly
the relations of the graph, and all of them are sound. -/
theorem synthesize_foreignKeys {tablePrefix : String} {synthesis : Synthesis}
    (made : synthesize graph (TableNames.allocate graph tablePrefix catalog) =
      .ok synthesis)
    (distinct : synthesis.schema.tableNames.Nodup) :
    ∃ layouts relations,
      Synthesized graph (TableNames.allocate graph tablePrefix catalog) synthesis
        layouts relations ∧
      relations.flatten.foldlM Schema.addRelation?
        ⟨layouts.flatMap Layout.tables, []⟩ = some synthesis.schema ∧
      (∀ layout ∈ layouts, HasTypeKeys synthesis.schema
        (TableNames.allocate graph tablePrefix catalog) layout) ∧
      (∀ layout ∈ layouts, ∀ slot ∈ layout.slots, ∀ junction,
        slot.placement = .junction junction →
          HasJunctionKeys synthesis.schema
            (TableNames.allocate graph tablePrefix catalog) layout.table
            junction) ∧
      ∀ table ∈ synthesis.schema.tables, SoundKeys synthesis.schema table := by
  have allocated := TableNames.allocate_allocated graph tablePrefix catalog
  obtain ⟨layouts, relations, synthesized⟩ := exists_synthesized made
  refine ⟨layouts, relations, synthesized, synthesized.relations_accepted,
    ?_, ?_, ?_⟩
  · intro layout member
    exact synthesized.hasTypeKeys allocated (synthesized.laid layout member)
  · intro layout member slot inside junction placement
    exact synthesized.hasJunctionKeys allocated distinct
      (synthesized.laid layout member) inside placement
  · intro table member
    exact synthesized.allSoundKeys allocated distinct member

/-- A type with two references to another one and a list of its own objects. -/
def household : TypeGraph where
  types := [⟨"Person", [⟨"home", .object "House", none⟩,
      ⟨"office", .object "House", none⟩,
      ⟨"friends", .collection .array (.type "Person"), none⟩]⟩,
    ⟨"House", [⟨"owner", .object "Person", none⟩]⟩]
  names_nodup := by decide

theorem household_foreignKeys :
    ∃ synthesis,
      synthesize household (TableNames.allocate household "app" ["app_house"]) =
        .ok synthesis ∧
      synthesis.schema.tableNames =
        ["app_person", "app_person_person", "app_house_1"] ∧
      synthesis.schema.tables.map (·.foreignKeys) =
        [[rowKey "app_person" "house_id" "app_house_1",
          rowKey "app_person" "house_id_1" "app_house_1"],
        [rowKey "app_person_person" "person_id" "app_person",
          rowKey "app_person_person" "person_id_1" "app_person"],
        [rowKey "app_house_1" "person_id" "app_person"]] ∧
      ∀ table ∈ synthesis.schema.tables, SoundKeys synthesis.schema table := by
  have succeeds : ∃ synthesis,
      synthesize household (TableNames.allocate household "app" ["app_house"]) =
        .ok synthesis ∧
      synthesis.schema.tableNames =
        ["app_person", "app_person_person", "app_house_1"] ∧
      synthesis.schema.tables.map (·.foreignKeys) =
        [[rowKey "app_person" "house_id" "app_house_1",
          rowKey "app_person" "house_id_1" "app_house_1"],
        [rowKey "app_person_person" "person_id" "app_person",
          rowKey "app_person_person" "person_id_1" "app_person"],
        [rowKey "app_house_1" "person_id" "app_person"]] := by
    refine ⟨_, rfl, ?_, ?_⟩
    · decide +kernel
    · decide +kernel
  obtain ⟨synthesis, made, tables, keys⟩ := succeeds
  have distinct : synthesis.schema.tableNames.Nodup := by
    rw [tables]
    decide
  obtain ⟨_, _, _, _, _, _, sound⟩ := synthesize_foreignKeys made distinct
  exact ⟨synthesis, made, tables, keys, sound⟩

end GraphSchema.Storage
