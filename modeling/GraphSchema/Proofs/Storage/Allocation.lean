import GraphSchema.Proofs.Graph.Lookup
import GraphSchema.Proofs.Name.Claims
import GraphSchema.Storage.TableNames

/-!
# Allocated table names

What holds of the table names of a graph, whatever the graph and the catalog
are: every type has a table, so does every collection of objects of a known
type, and all tables are distinct and new to the catalog. A table therefore
tells what it was made for. Only properties of one type that share a name share a
table, because the tables of collections are found by type and property name.
-/

namespace GraphSchema.Storage

open Name (Pool)

/-- Whether a property is a collection of objects of a type of the graph. -/
def holdsKnown (graph : TypeGraph) (property : Property) : Bool :=
  (heldType? property).any graph.contains

theorem holdsKnown_iff {graph : TypeGraph} {property : Property} :
    holdsKnown graph property = true ↔
      ∃ target, heldType? property = some target ∧ target ∈ graph.names := by
  simp [holdsKnown, Option.any_eq_true, TypeGraph.contains]

/-- The collections of a type that need tables, by type and property name. -/
def junctionKeys (graph : TypeGraph) (type : RecordType) :
    List (String × String) :=
  (type.properties.filter (holdsKnown graph)).map fun property =>
    (type.name, property.name)

theorem junctionsOf_keys (graph : TypeGraph) (type : RecordType)
    (table : String) :
    (junctionsOf graph type table).map Prod.fst = junctionKeys graph type := by
  simp only [junctionsOf, junctionKeys]
  induction type.properties with
  | nil => rfl
  | cons property rest ih =>
      cases held : heldType? property with
      | none => simp_all [holdsKnown]
      | some target =>
          cases known : graph.contains target <;> simp_all [holdsKnown]

namespace TableNames

/-- The tables of the types and of the collections. -/
def tables (names : TableNames) : List String :=
  names.types.map Prod.snd ++ names.junctions.map Prod.snd

/-- The outcome of an allocation for a graph in a database that has the tables
of a catalog. -/
structure Allocated (graph : TypeGraph) (catalog : List String)
    (names : TableNames) : Prop where
  types : names.types.map Prod.fst = graph.names
  junctions : names.junctions.map Prod.fst =
    graph.types.flatMap (junctionKeys graph)
  distinct : names.tables.Nodup
  fresh : ∀ table ∈ names.tables, table ∉ catalog

theorem allocate_allocated (graph : TypeGraph) (tablePrefix : String)
    (catalog : List String) :
    Allocated graph catalog (allocate graph tablePrefix catalog) := by
  let first := Pool.claimAll ⟨catalog⟩ (graph.names.map (wantedTable tablePrefix))
  let wanted := (graph.types.zip first.1).flatMap fun entry =>
    junctionsOf graph entry.1 entry.2
  let second := first.2.claimAll (wanted.map Prod.snd)
  have names : allocate graph tablePrefix catalog =
      ⟨graph.names.zip first.1, (wanted.map Prod.fst).zip second.1⟩ := rfl
  have typeCount : first.1.length = graph.names.length := by
    simp [first]
  have junctionCount : second.1.length = wanted.length := by
    simp [second]
  have tables : (allocate graph tablePrefix catalog).tables =
      first.1 ++ second.1 := by
    simp [names, TableNames.tables, List.map_snd_zip, typeCount, junctionCount]
  constructor
  · simp [names, List.map_fst_zip, typeCount]
  · have keys : wanted.map Prod.fst =
        graph.types.flatMap (junctionKeys graph) := by
      have types : (graph.types.zip first.1).map Prod.fst = graph.types :=
        List.map_fst_zip (by simp [typeCount, TypeGraph.names])
      simp only [wanted, List.map_flatMap, junctionsOf_keys]
      conv => rhs; rw [← types, List.flatMap_map]
    rw [names]
    exact (List.map_fst_zip (by simp [junctionCount])).trans keys
  · rw [tables, List.nodup_append]
    refine ⟨Pool.nodup_claimAll _ _, Pool.nodup_claimAll _ _, ?_⟩
    rintro name early _ late rfl
    exact Pool.not_mem_used_of_mem_claimAll late
      (Pool.mem_used_claimAll.2 (Or.inl early))
  · rw [tables]
    intro table member
    rcases List.mem_append.1 member with early | late
    · exact Pool.not_mem_used_of_mem_claimAll early
    · intro existing
      exact Pool.not_mem_used_of_mem_claimAll late
        (Pool.mem_used_claimAll.2 (Or.inr existing))

/-! ## What a table was made for -/

section

variable {graph : TypeGraph} {catalog : List String} {names : TableNames}

theorem table_eq_ok {type table : String} :
    names.table type = .ok table ↔ names.table? type = some table := by
  simp only [TableNames.table]
  cases names.table? type <;> simp

/-- The only error is that the type has no table. -/
theorem table_eq_error {type : String} {error : CompileError}
    (failed : names.table type = .error error) : error = .unknownType type := by
  simp only [TableNames.table] at failed
  cases found : names.table? type with
  | none =>
      rw [found] at failed
      exact (Except.error.inj failed).symm
  | some table => simp [found] at failed

theorem mem_types_of_table? {type table : String}
    (found : names.table? type = some table) : (type, table) ∈ names.types := by
  obtain ⟨before, after, split, _⟩ := List.lookup_eq_some_iff.1 found
  simp [split]

theorem mem_junctions_of_junction? {type property table : String}
    (found : names.junction? type property = some table) :
    ((type, property), table) ∈ names.junctions := by
  obtain ⟨before, after, split, _⟩ := List.lookup_eq_some_iff.1 found
  rw [← List.mem_reverse, split]
  simp

namespace Allocated

/-- The types that have a table are those of the graph. -/
theorem table_isOk (allocated : Allocated graph catalog names)
    {type : String} :
    (∃ table, names.table type = .ok table) ↔ type ∈ graph.names := by
  simp only [table_eq_ok, ← Option.isSome_iff_exists, TableNames.table?,
    List.lookup_isSome_iff, beq_iff_eq, ← allocated.types, List.mem_map]
  simp only [eq_comm]

/-- The collections that have a table are those of objects of a known type, and
the collections that share a name with one of these. -/
theorem junction_isSome (allocated : Allocated graph catalog names)
    {type : RecordType} (member : type ∈ graph.types) {property : String} :
    (∃ table, names.junction? type.name property = some table) ↔
      ∃ namesake ∈ type.properties,
        namesake.name = property ∧ holdsKnown graph namesake = true := by
  have keys : (∃ table, names.junction? type.name property = some table) ↔
      (type.name, property) ∈ graph.types.flatMap (junctionKeys graph) := by
    simp only [← Option.isSome_iff_exists, TableNames.junction?,
      List.lookup_isSome_iff, beq_iff_eq, ← allocated.junctions, List.mem_map,
      List.mem_reverse]
    simp only [eq_comm]
  simp only [keys, List.mem_flatMap, junctionKeys, List.mem_map,
    List.mem_filter, Prod.mk.injEq]
  constructor
  · rintro ⟨owner, present, namesake, ⟨inside, holds⟩, sameType, sameName⟩
    obtain rfl := TypeGraph.eq_of_name_eq present member sameType
    exact ⟨namesake, inside, sameName, holds⟩
  · rintro ⟨namesake, inside, sameName, holds⟩
    exact ⟨type, member, namesake, ⟨inside, holds⟩, rfl, sameName⟩

theorem table_inj (allocated : Allocated graph catalog names)
    {left right table : String} (leftTable : names.table? left = some table)
    (rightTable : names.table? right = some table) : left = right := by
  have distinct := (List.nodup_append.1 allocated.distinct).1
  have same := List.inj_on_of_nodup_map distinct
    (mem_types_of_table? leftTable) (mem_types_of_table? rightTable) rfl
  exact congrArg Prod.fst same

theorem junction_inj (allocated : Allocated graph catalog names)
    {left right leftProperty rightProperty table : String}
    (leftTable : names.junction? left leftProperty = some table)
    (rightTable : names.junction? right rightProperty = some table) :
    left = right ∧ leftProperty = rightProperty := by
  have distinct := (List.nodup_append.1 allocated.distinct).2.1
  have same := List.inj_on_of_nodup_map distinct
    (mem_junctions_of_junction? leftTable)
    (mem_junctions_of_junction? rightTable) rfl
  simpa using same

theorem table_ne_junction (allocated : Allocated graph catalog names)
    {type owner property left right : String}
    (typeTable : names.table? type = some left)
    (junctionTable : names.junction? owner property = some right) :
    left ≠ right := by
  refine (List.nodup_append.1 allocated.distinct).2.2 left ?_ right ?_
  · exact List.mem_map_of_mem (mem_types_of_table? typeTable)
  · exact List.mem_map_of_mem (mem_junctions_of_junction? junctionTable)

theorem table_fresh (allocated : Allocated graph catalog names)
    {type table : String} (found : names.table? type = some table) :
    table ∉ catalog :=
  allocated.fresh table (List.mem_append_left _
    (List.mem_map_of_mem (mem_types_of_table? found)))

theorem junction_fresh (allocated : Allocated graph catalog names)
    {type property table : String}
    (found : names.junction? type property = some table) :
    table ∉ catalog :=
  allocated.fresh table (List.mem_append_right _
    (List.mem_map_of_mem (mem_junctions_of_junction? found)))

end Allocated

end

/-! ## How tables are named -/

section

variable {graph : TypeGraph} {tablePrefix : String} {catalog : List String}

/-- The tables of the types are claimed in graph order. -/
theorem typeTables_claims (graph : TypeGraph) (tablePrefix : String)
    (catalog : List String) :
    List.Forall₂ (fun (type : RecordType) table => ∃ pool : Pool,
        (pool.claim (wantedTable tablePrefix type.name)).1 = table)
      graph.types
      (Pool.claimAll ⟨catalog⟩ (graph.names.map (wantedTable tablePrefix))).1 := by
  have claims := Pool.claimAll_claims ⟨catalog⟩
    (graph.names.map (wantedTable tablePrefix))
  rwa [TypeGraph.names, List.forall₂_map_left_iff,
    List.forall₂_map_left_iff] at claims

/-- The table of a collection is named after the table of its owner and the type
of what it holds, or what the last namesake of the collection holds. -/
theorem junction?_claims {type : RecordType} (member : type ∈ graph.types)
    {property table : String}
    (found : (allocate graph tablePrefix catalog).junction? type.name property =
      some table) :
    ∃ namesake ∈ type.properties, namesake.name = property ∧
      ∃ target ∈ graph.names, heldType? namesake = some target ∧
        ∃ first second : Pool,
          (second.claim
            ((first.claim (wantedTable tablePrefix type.name)).1 ++ "_" ++
              Name.snake target)).1 = table := by
  let first := Pool.claimAll ⟨catalog⟩ (graph.names.map (wantedTable tablePrefix))
  let wanted := (graph.types.zip first.1).flatMap fun entry =>
    junctionsOf graph entry.1 entry.2
  let second := first.2.claimAll (wanted.map Prod.snd)
  have entry : ((type.name, property), table) ∈
      (wanted.map Prod.fst).zip second.1 := mem_junctions_of_junction? found
  have claims := first.2.claimAll_claims (wanted.map Prod.snd)
  rw [List.forall₂_map_left_iff] at claims
  rw [List.zip_map_left, List.mem_map] at entry
  obtain ⟨⟨⟨key, name⟩, claimed⟩, present, same⟩ := entry
  obtain ⟨rfl, rfl⟩ := Prod.mk.inj same
  obtain ⟨pool, claim⟩ := List.forall₂_zip claims present
  obtain ⟨⟨owner, ownerTable⟩, paired, inside⟩ :=
    List.mem_flatMap.1 (List.of_mem_zip present).1
  obtain ⟨ownerPool, rfl⟩ := List.forall₂_zip
    (typeTables_claims graph tablePrefix catalog) paired
  simp only [junctionsOf, List.mem_filterMap] at inside
  obtain ⟨namesake, owned, made⟩ := inside
  cases held : heldType? namesake with
  | none => simp [held] at made
  | some target =>
      simp only [held, Option.ite_none_right_eq_some, Option.some.injEq,
        Prod.mk.injEq] at made
      obtain ⟨known, ⟨sameType, sameName⟩, rfl⟩ := made
      obtain rfl := TypeGraph.eq_of_name_eq (List.of_mem_zip paired).1 member
        sameType
      exact ⟨namesake, owned, sameName, target, TypeGraph.contains_eq_true.1 known,
        held, ownerPool, pool, claim⟩

end

end TableNames

end GraphSchema.Storage
