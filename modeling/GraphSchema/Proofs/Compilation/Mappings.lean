import GraphSchema.Proofs.Compilation.Artifacts
import GraphSchema.Proofs.Storage.Entries
import GraphSchema.Proofs.Storage.MappingTables

/-!
# Mapping tables of a compilation

The entries of all mapping tables are read back from their texts exactly when the
names of the graph can stand in entries. Every property that is stored gives its
own name to its entry. The entry of a collection also holds the names of its
junction, and these are made from the prefix of the tables, the name of the owner
and the name of the type that is held.
-/

namespace GraphSchema

open Storage
open Storage.Entry (PlainField)

/-- The names of a graph that can stand in the entries of mapping tables. -/
structure PlainNames (graph : TypeGraph) (tablePrefix : String) : Prop where
  properties : ∀ type ∈ graph.types, ∀ property ∈ type.properties,
    Stored graph property → PlainField property.name
  collections : ∀ type ∈ graph.types, ∀ property ∈ type.properties,
    ∀ target ∈ graph.names, heldType? property = some target →
      ':' ∉ tablePrefix.toList ∧ ':' ∉ type.name.toList ∧ ':' ∉ target.toList

section

variable {settings : Settings} {graph : TypeGraph} {catalog : List String}
variable {tablePrefix : String} {compilation : Compilation} {layout : Layout}
variable {slot : Slot}

/-- The table of a collection is plain when the prefix, the owner and what one of
its namesakes holds have no colons. -/
theorem plainField_junction? {type : RecordType} (member : type ∈ graph.types)
    {property table : String}
    (found : (TableNames.allocate graph tablePrefix catalog).junction? type.name
      property = some table) :
    ∃ namesake ∈ type.properties, ∃ target ∈ graph.names,
      heldType? namesake = some target ∧
        (PlainField table ↔ ':' ∉ tablePrefix.toList ∧ ':' ∉ type.name.toList ∧
          ':' ∉ target.toList) := by
  obtain ⟨namesake, owned, _, target, known, held, first, second, rfl⟩ :=
    TableNames.junction?_claims member found
  refine ⟨namesake, owned, target, known, held, ?_⟩
  rw [plainField_claim]
  · simp [Name.mem_claim colon_sign, wantedTable, Name.mem_snake colon_sign,
      and_assoc]
  · rw [ne_eq, ← String.toList_inj]
    simp

/-- The names of a junction are plain if the names of the graph are. -/
theorem PlainNames.junction (plain : PlainNames graph tablePrefix)
    (laid : LaidOut graph (TableNames.allocate graph tablePrefix catalog) layout)
    (member : slot ∈ layout.slots) (known : slot.Known graph)
    {junction : Junction} (placement : slot.placement = .junction junction) :
    PlainField junction.table ∧ PlainField junction.ownerColumn ∧
      PlainField junction.targetColumn := by
  have kind := laid.junction_refers member placement
  have owned := laid.property_mem member
  have held : heldType? slot.property = some junction.target :=
    heldType?_eq_some.2 ⟨_, kind⟩
  obtain ⟨_, owner, target⟩ := plain.collections layout.type laid.member
    slot.property owned junction.target (known _ placement) held
  obtain ⟨pool, targetColumn⟩ := laid.junction_targetColumn member placement
  refine ⟨?_, ?_, ?_⟩
  · obtain ⟨namesake, inside, other, present, holds, table⟩ :=
      plainField_junction? laid.member (laid.junction_table member placement)
    exact table.2
      (plain.collections layout.type laid.member namesake inside other present holds)
  · rw [laid.junction_ownerColumn member placement]
    exact plainField_rowColumn.2 owner
  · rw [targetColumn]
    exact plainField_rowColumn.2 target

/-- The names of a graph can stand in entries exactly when all slots of properties
that are stored are plain. -/
theorem plainNames_iff
    (known : ∀ layout,
      LaidOut graph (TableNames.allocate graph tablePrefix catalog) layout →
        ∀ slot ∈ layout.slots, slot.Known graph) :
    PlainNames graph tablePrefix ↔
      ∀ layout,
        LaidOut graph (TableNames.allocate graph tablePrefix catalog) layout →
        ∀ slot ∈ layout.slots, Stored graph slot.property → slot.Plain := by
  have allocated := TableNames.allocate_allocated graph tablePrefix catalog
  constructor
  · intro plain layout laid slot member stored
    constructor
    · exact plain.properties layout.type laid.member slot.property
        (laid.property_mem member) stored
    · intro junction placement
      exact plain.junction laid member (known layout laid slot member) placement
  · intro plain
    constructor
    · intro type member property owned stored
      obtain ⟨layout, laid, rfl⟩ := allocated.exists_layout member
      obtain ⟨slot, inside, rfl⟩ := laid.exists_slot owned
      exact (plain layout laid slot inside stored).1
    · intro type member property owned target present held
      obtain ⟨layout, laid, rfl⟩ := allocated.exists_layout member
      obtain ⟨slot, inside, rfl⟩ := laid.exists_slot owned
      obtain ⟨junction, placement, rfl⟩ :=
        laid.exists_junction allocated inside held present
      have stored : Stored graph slot.property := by
        rw [Stored, laid.junction_refers inside placement]
        exact present
      obtain ⟨table, _, column⟩ :=
        (plain layout laid slot inside stored).2 junction placement
      obtain ⟨namesake, _, other, _, _, named⟩ :=
        plainField_junction? laid.member (laid.junction_table inside placement)
      obtain ⟨pool, targetColumn⟩ := laid.junction_targetColumn inside placement
      rw [targetColumn] at column
      exact ⟨(named.1 table).1, (named.1 table).2.1, plainField_rowColumn.1 column⟩

/-- The entries of the mapping tables are those of the slots. -/
theorem Compiled.mem_mapping {names : TableNames} {layouts : List Layout}
    {relations : List (List Relational.Relation)} (compiled :
      Compiled settings graph catalog names compilation layouts relations)
    {key : String} {entry : Entry} :
    (∃ artifacts ∈ compilation.types, (key, entry) ∈ artifacts.mapping) ↔
      ∃ layout, LaidOut graph names layout ∧
        ∃ slot ∈ layout.slots, slot.entry? = some (key, entry) := by
  constructor
  · rintro ⟨artifacts, member, inside⟩
    obtain ⟨type, _, layout, parts, _, made⟩ :=
      exists_item_of_forall₂ compiled.types member
    rw [made.mapping, made.expanded.laid.mapping_eq] at inside
    exact ⟨layout, made.expanded.laid, List.mem_filterMap.1 inside⟩
  · rintro ⟨layout, laid, inside⟩
    obtain ⟨artifacts, parts, found, made⟩ := compiled.exists_made laid
    refine ⟨artifacts, List.mem_of_find?_eq_some found, ?_⟩
    rw [made.mapping, made.expanded.laid.mapping_eq]
    exact List.mem_filterMap.2 inside

/-- Every entry of every mapping table is read back from its text exactly when the
names of the graph can stand in entries. -/
theorem mapping_parse_iff
    (compiled : compile settings graph catalog = .ok compilation) :
    (∀ artifacts ∈ compilation.types, ∀ key entry,
        (key, entry) ∈ artifacts.mapping → Entry.parse entry.encode = .ok entry) ↔
      PlainNames graph settings.tablePrefix := by
  obtain ⟨layouts, relations, compiled⟩ := exists_compiled compiled
  rw [plainNames_iff fun layout => compiled.known]
  constructor
  · intro parsed layout laid slot member stored
    have known := compiled.known laid slot member
    obtain ⟨key, entry, found⟩ :=
      (laid.stored_iff compiled.allocated member known).1 stored
    obtain ⟨artifacts, present, inside⟩ :=
      compiled.mem_mapping.2 ⟨layout, laid, slot, member, found⟩
    exact (Slot.entry?_parse found).1 (parsed artifacts present key entry inside)
  · intro plain artifacts member key entry inside
    obtain ⟨layout, laid, slot, present, found⟩ :=
      compiled.mem_mapping.1 ⟨artifacts, member, inside⟩
    have known := compiled.known laid slot present
    have stored :=
      (laid.stored_iff compiled.allocated present known).2 ⟨key, entry, found⟩
    exact (Slot.entry?_parse found).2 (plain layout laid slot present stored)

end

/-- A library whose names have spaces, capitals and signs, but no colons. -/
def shelves : TypeGraph where
  types := [⟨"Book Shelf", [⟨"on loan/to", .object "Reader", none⟩,
      ⟨"Books", .collection .map (.type "Book Shelf"), none⟩]⟩,
    ⟨"Reader", [⟨"name\x7b1\x7d", .scalar .string, none⟩]⟩]
  names_nodup := by decide

theorem shelves_parse :
    ∃ compilation, compile {} shelves [] = .ok compilation ∧
      ∀ artifacts ∈ compilation.types, ∀ key entry,
        (key, entry) ∈ artifacts.mapping →
          Entry.parse entry.encode = .ok entry := by
  have made : ∃ compilation, compile {} shelves [] = .ok compilation := ⟨_, rfl⟩
  obtain ⟨compilation, compiled⟩ := made
  have plain : PlainNames shelves ({} : Settings).tablePrefix := by
    constructor
    · decide
    · decide
  exact ⟨compilation, compiled, (mapping_parse_iff compiled).2 plain⟩

/-- A property whose name looks like two fields of an entry. -/
def colon : TypeGraph where
  types := [⟨"A", [⟨"a:b", .scalar .string, none⟩]⟩]
  names_nodup := by decide

theorem colon_unread :
    ∃ compilation artifacts key entry,
      compile {} colon [] = .ok compilation ∧ artifacts ∈ compilation.types ∧
        (key, entry) ∈ artifacts.mapping ∧
        Entry.parse entry.encode =
          .error (.invalidEntry "a:b" (.unknownKind "b")) := by
  refine ⟨_, _, "a:b", .scalar "a:b", rfl, List.mem_cons_self, ?_, by decide⟩
  exact List.mem_cons_self

end GraphSchema
