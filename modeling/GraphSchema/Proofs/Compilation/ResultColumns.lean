import GraphSchema.Proofs.Compilation.Artifacts
import GraphSchema.Proofs.Name.Spelling
import GraphSchema.Proofs.Query.Texts
import GraphSchema.Proofs.Storage.Columns

/-!
# Results of the queries of a compilation

The columns of a type have distinct names, so a query that selects only these has
a result whose columns have distinct names. The query for a map also selects the
keys, and always under the same name. So the columns of all results have distinct
names exactly when no map holds objects of a type with a column of this name.
-/

namespace GraphSchema

open Query (Item Node Part Runs Select mapKeyAlias)
open Relational (Column)
open Storage

/-! ## Columns of the lowest level -/

/-- No column with the number of a row has the name under which keys are
returned. -/
theorem claim_rowColumn_ne_mapKeyAlias (pool : Name.Pool) (type : String) :
    (pool.claim (rowColumn type)).1 ≠ mapKeyAlias := by
  have ends : mapKeyAlias.toList.getLast? = some 'y' := by decide
  exact claim_rowColumn_ne ends (by decide) (by decide) pool type

section

variable {graph : TypeGraph} {names : TableNames} {layout : Layout}

/-- The columns of a type that have the name under which keys are returned are
selected at the lowest level, too. -/
theorem mapKeyAlias_mem_flat (laid : LaidOut graph names layout) :
    mapKeyAlias ∈ (Query.flat layout).columns ↔
      mapKeyAlias ∈ layout.columnNames := by
  constructor
  · intro member
    exact (Query.flat_columns_sublist layout).subset member
  · intro member
    rcases List.mem_cons.1 member with first | later
    · exact absurd first (by decide)
    · rw [Layout.columns, List.map_filterMap] at later
      obtain ⟨slot, present, found⟩ := List.mem_filterMap.1 later
      apply List.mem_cons_of_mem
      apply List.mem_filterMap.2
      refine ⟨slot, present, ?_⟩
      cases placement : slot.placement with
      | column name type =>
          simpa [Query.flatColumn?, Placement.column?, Column.plain, placement]
            using found
      | foreignKey name target =>
          obtain ⟨pool, rfl⟩ := laid.foreignKey_claims present placement
          have same : (pool.claim (rowColumn target)).1 = mapKeyAlias := by
            simpa [Placement.column?, Column.plain, placement] using found
          exact absurd same (claim_rowColumn_ne_mapKeyAlias pool target)
      | junction junction | dropped reason =>
          simp [Placement.column?, placement] at found

end

/-! ## Results -/

/-- Whether no map of a graph holds objects whose table has a column with the name
under which keys are returned. -/
def KeysDistinct (graph : TypeGraph) (compilation : Compilation) : Prop :=
  ∀ type ∈ graph.types, ∀ property ∈ type.properties, ∀ target ∈ graph.names,
    property.kind = .collection .map (.type target) →
    ∀ table, compilation.storage? target = some table →
      mapKeyAlias ∉ table.columnNames

section

variable {settings : Settings} {graph : TypeGraph} {catalog : List String}
variable {names : TableNames} {compilation : Compilation}
variable {layout other : Layout} {parts : List Part} {context : Query.Context}
variable {slot : Slot} {junction : Junction} {node : Node} {query : Select}

theorem flatColumns_nodup (laid : LaidOut graph names layout) :
    (Query.flat layout).columns.Nodup :=
  laid.columnNames_nodup.sublist (Query.flat_columns_sublist layout)

/-- The columns that the query for a collection returns have distinct names unless
the collection is a map and its objects have a column of the name of the keys. -/
theorem resultColumns_collectionNode (laid : LaidOut graph names layout)
    (member : slot ∈ layout.slots) (placement : slot.placement = .junction junction)
    (otherLaid : LaidOut graph names other) (pageSize : UInt32)
    (found : (Query.collectionNode pageSize junction
      (Query.flatExpansion other)).query? = some query) :
    query.resultColumns.Nodup ↔
      (junction.collection = .map → mapKeyAlias ∉ other.columnNames) := by
  have keyed := laid.junction_keyColumn member placement
  have nodup := flatColumns_nodup otherLaid
  cases found
  rw [← keyed, ← mapKeyAlias_mem_flat otherLaid]
  cases key : junction.keyColumn <;>
    simp [Select.resultColumns, Query.flatExpansion, nodup]

/-- The queries for a type return columns with distinct names if none of its maps
holds objects that have a column of the name of the keys. -/
theorem Query.Runs.resultColumns_nodup
    (expanded : Query.Expanded context layout parts)
    (runs : Runs context layout parts node)
    (found : node.query? = some query)
    (maps : ∀ slot ∈ layout.slots, ∀ junction other,
      slot.placement = .junction junction → junction.collection = .map →
        LaidOut context.graph context.names other →
        other.type.name = junction.target → mapKeyAlias ∉ other.columnNames) :
    query.resultColumns.Nodup := by
  cases runs with
  | row | page =>
      cases found
      change (Query.ofParts parts).columns.Nodup
      rw [expanded.columns_eq]
      exact expanded.laid.columnNames_nodup
  | count =>
      cases found
      exact List.nodup_singleton _
  | object member placement laid named =>
      cases found
      exact flatColumns_nodup laid
  | @collection slot junction other member placement laid named =>
      rw [resultColumns_collectionNode expanded.laid member placement laid _ found]
      intro map
      exact maps slot member junction other placement map laid named

/-- What the tables say about the objects in maps, the layouts say, too. -/
theorem keysDistinct_iff {layouts : List Layout}
    {relations : List (List Relational.Relation)} (compiled :
      Compiled settings graph catalog names compilation layouts relations) :
    KeysDistinct graph compilation ↔
      ∀ layout, LaidOut graph names layout → ∀ slot ∈ layout.slots,
        ∀ junction other, slot.placement = .junction junction →
          junction.collection = .map → LaidOut graph names other →
          other.type.name = junction.target →
            mapKeyAlias ∉ other.columnNames := by
  constructor
  · intro keys layout laid slot member junction other placement map otherLaid named
    have kind := laid.junction_refers member placement
    obtain ⟨table, stored, _, _, columns⟩ := compiled.storage?_eq otherLaid
    rw [map, ← named] at kind
    rw [← columns]
    exact keys layout.type laid.member slot.property (laid.property_mem member)
      other.type.name (List.mem_map_of_mem otherLaid.member) kind table stored
  · intro keys type member property owned target known kind table stored
    obtain ⟨layout, laid, rfl⟩ := compiled.allocated.exists_layout member
    obtain ⟨slot, inside, rfl⟩ := laid.exists_slot owned
    obtain ⟨junction, placement, named⟩ := laid.exists_junction compiled.allocated
      inside (heldType?_eq_some.2 ⟨.map, kind⟩) known
    obtain ⟨other, otherLaid, rfl⟩ :=
      compiled.allocated.exists_layout_named known
    have refers := laid.junction_refers inside placement
    rw [kind, Kind.collection.injEq] at refers
    obtain ⟨same, found, _, _, columns⟩ := compiled.storage?_eq otherLaid
    obtain rfl := Option.some.inj (found.symm.trans stored)
    rw [columns]
    exact keys layout laid slot inside junction other placement refers.1.symm
      otherLaid named.symm

/-- The columns of the results of all queries of a compilation have distinct names
exactly when no map holds objects that have a column of the name of the keys. The
names are those that the text of a query gives to what it selects. -/
theorem resultColumns_distinct_iff
    (compiled : compile settings graph catalog = .ok compilation) :
    ((∀ artifacts ∈ compilation.types, ∀ node query,
        (node, query) ∈ artifacts.queryNodes →
          (query.items.map Item.result).Nodup) ↔ KeysDistinct graph compilation) ∧
    ∀ artifacts ∈ compilation.types, ∀ node query,
      (node, query) ∈ artifacts.queryNodes →
        query.text = "SELECT " ++ Query.commaList (query.items.map Item.text) ++
          " FROM " ++ query.source ++ query.restriction := by
  obtain ⟨layouts, relations, compiled⟩ := exists_compiled compiled
  simp only [Select.items_result]
  rw [keysDistinct_iff compiled]
  refine ⟨⟨?_, ?_⟩, ?_⟩
  · intro distinct layout laid slot member junction other placement map otherLaid
      named
    obtain ⟨artifacts, present, parts, runsQuery⟩ :=
      compiled.mem_queryNodes_of_runs laid
    have runs : Runs ⟨graph, _, settings.pageSize⟩ layout parts
        (Query.collectionNode settings.pageSize junction
          (Query.flatExpansion other)) :=
      .collection member placement otherLaid named
    have nodup := distinct artifacts present _ _ (runsQuery _ _ runs rfl)
    exact (resultColumns_collectionNode laid member placement otherLaid
      settings.pageSize rfl).1 nodup map
  · intro keys artifacts member node query inside
    obtain ⟨layout, parts, expanded, runs, found⟩ :=
      compiled.runs_of_mem_queryNodes member inside
    exact runs.resultColumns_nodup expanded found (keys layout expanded.laid)
  · intro artifacts member node query inside
    rw [Select.items_text]
    exact query.text_eq

end

/-- Maps of objects that have a column for a name, and one whose objects have a
collection of the name of the keys. -/
def caches : TypeGraph where
  types := [⟨"Cache", [⟨"entries", .collection .map (.type "Entry"), none⟩,
      ⟨"hash_key", .collection .array (.type "Entry"), none⟩,
      ⟨"hashKey", .scalar .string, none⟩,
      ⟨"nested", .collection .map (.type "Cache"), none⟩]⟩,
    ⟨"Entry", [⟨"name", .scalar .string, none⟩]⟩]
  names_nodup := by decide

theorem caches_results :
    ∃ compilation, compile {} caches [] = .ok compilation ∧
      KeysDistinct caches compilation ∧
      ∀ artifacts ∈ compilation.types, ∀ node query,
        (node, query) ∈ artifacts.queryNodes →
          (query.items.map Item.result).Nodup := by
  have made : ∃ compilation, compile {} caches [] = .ok compilation ∧
      ∀ target ∈ caches.names, ∀ table ∈ compilation.storage? target,
        mapKeyAlias ∉ table.columnNames := ⟨_, rfl, by decide +kernel⟩
  obtain ⟨compilation, compiled, absent⟩ := made
  have keys : KeysDistinct caches compilation := by
    intro type _ property _ target known _ table stored
    exact absent target known table stored
  exact ⟨compilation, compiled, keys,
    (resultColumns_distinct_iff compiled).1.2 keys⟩

/-- A map of objects that have a property of the name of the keys. -/
def hashed : TypeGraph where
  types := [⟨"A", [⟨"items", .collection .map (.type "B"), none⟩]⟩,
    ⟨"B", [⟨"hash_key", .scalar .string, none⟩]⟩]
  names_nodup := by decide

theorem hashed_ambiguous :
    ∃ compilation artifacts node query,
      compile {} hashed [] = .ok compilation ∧ artifacts ∈ compilation.types ∧
        (node, query) ∈ artifacts.queryNodes ∧
        query.items.map Item.result = ["hash_key", "id", "hash_key"] ∧
        query.text = "SELECT rel.name AS hash_key, entity.id, entity.hash_key " ++
          "FROM app_a_b rel INNER JOIN app_b entity ON entity.id = rel.b_id " ++
          "WHERE rel.a_id = :id ORDER BY entity.id DESC LIMIT 16" := by
  let query : Select :=
    .linked ⟨["id", "hash_key"], "app_b", "app_a_b", "a_id", some "name", "b_id"⟩ 16
  let node : Node := .collection query [("id", .field "id")]
    [("id", .field "id" .integer), ("hash_key", .field "hash_key" .string)]
    (some "hash_key")
  refine ⟨_, _, node, query, rfl, List.mem_cons_self,
    List.mem_cons_of_mem _ List.mem_cons_self, rfl, ?_⟩
  decide +kernel

end GraphSchema
