import GraphSchema.Proofs.Name.Lowered
import GraphSchema.Proofs.Storage.Namesakes

/-!
# Unique tables

The allocated tables stay distinct where letter case is ignored, as some
databases do. All of them begin with the prefix as it was given, and what comes
after it has no capitals, be it the snake case of a name or the number that a
claim adds.
-/

namespace GraphSchema.Storage

open Name (Lowered Pool)

/-- What a table is for: the objects of a type, or a collection that is a property
of a type. -/
inductive TableUse where
  | objects (type : String)
  | collection (type property : String)
  deriving DecidableEq, Repr

namespace TableNames

/-- The table for a use. -/
def tableFor? (names : TableNames) : TableUse → Option String
  | .objects type => names.table? type
  | .collection type property => names.junction? type property

namespace Allocated

variable {graph : TypeGraph} {catalog : List String} {names : TableNames}

/-- The collections that have a table are those of objects of a known type, under
the names of their properties. -/
theorem exists_junction_iff (allocated : Allocated graph catalog names)
    {type property : String} :
    (∃ table, names.junction? type property = some table) ↔
      ∃ owner ∈ graph.types, owner.name = type ∧
        ∃ held ∈ owner.properties, held.name = property ∧
          holdsKnown graph held = true := by
  constructor
  · intro found
    obtain ⟨table, found⟩ := found
    have key : (type, property) ∈ names.junctions.map Prod.fst :=
      List.mem_map_of_mem (mem_junctions_of_junction? found)
    rw [allocated.junctions, List.mem_flatMap] at key
    obtain ⟨owner, member, inside⟩ := key
    obtain ⟨held, kept, same⟩ := List.mem_map.1 inside
    obtain ⟨present, known⟩ := List.mem_filter.1 kept
    obtain ⟨sameType, sameName⟩ := Prod.mk.inj same
    exact ⟨owner, member, sameType, held, present, sameName, known⟩
  · intro wanted
    obtain ⟨owner, member, rfl, held, present, sameName, known⟩ := wanted
    exact (allocated.junction_isSome member).2 ⟨held, present, sameName, known⟩

/-- A table tells what it is for. -/
theorem tableFor_inj (allocated : Allocated graph catalog names)
    {left right : TableUse} {table : String}
    (leftTable : names.tableFor? left = some table)
    (rightTable : names.tableFor? right = some table) : left = right := by
  cases left with
  | objects type =>
      cases right with
      | objects other =>
          rw [allocated.table_inj leftTable rightTable]
      | collection owner property =>
          exact absurd rfl (allocated.table_ne_junction leftTable rightTable)
  | collection owner property =>
      cases right with
      | objects type =>
          exact absurd rfl (allocated.table_ne_junction rightTable leftTable)
      | collection other namesake =>
          have same := allocated.junction_inj leftTable rightTable
          rw [same.1, same.2]

theorem tableFor_fresh (allocated : Allocated graph catalog names)
    {use : TableUse} {table : String}
    (found : names.tableFor? use = some table) : table ∉ catalog := by
  cases use with
  | objects type => exact allocated.table_fresh found
  | collection type property => exact allocated.junction_fresh found

/-- The tables of the types stand in graph order, each of them where the name of
its type finds it. -/
theorem types_in_order (allocated : Allocated graph catalog names) :
    List.Forall₂ (fun type entry =>
        entry.1 = type ∧ names.table? type = some entry.2)
      graph.names names.types := by
  have distinct : (names.types.map Prod.fst).Nodup := by
    rw [allocated.types]
    exact graph.names_nodup
  rw [← allocated.types, List.forall₂_map_left_iff, List.forall₂_same]
  intro entry member
  exact ⟨rfl, lookup_of_mem distinct member⟩

end Allocated

/-! ## Letter case -/

section

variable {graph : TypeGraph} {tablePrefix : String} {catalog : List String}

/-- The table of a type is a claim of the name that is wanted for it. -/
theorem table?_claims {type table : String}
    (found : (allocate graph tablePrefix catalog).table? type = some table) :
    ∃ pool : Pool, (pool.claim (wantedTable tablePrefix type)).1 = table := by
  have claims := Pool.claimAll_claims ⟨catalog⟩
    (graph.names.map (wantedTable tablePrefix))
  rw [List.forall₂_map_left_iff] at claims
  exact List.forall₂_zip claims (mem_types_of_table? found)

/-- A claim of a table of a type adds nothing but small letters and signs to the
prefix. -/
theorem exists_typeTable_eq_append (tablePrefix type : String) (pool : Pool) :
    ∃ rest, Lowered rest ∧
      (pool.claim (wantedTable tablePrefix type)).1 = tablePrefix ++ rest := by
  rw [wantedTable, String.append_assoc]
  apply Name.exists_claim_eq_append
  exact Lowered.append (by decide) (Name.lowered_snake type)

/-- Every table begins with the prefix and has no capitals after it. -/
theorem exists_tableFor_eq_append {use : TableUse} {table : String}
    (found : (allocate graph tablePrefix catalog).tableFor? use = some table) :
    ∃ rest, Lowered rest ∧ table = tablePrefix ++ rest := by
  cases use with
  | objects type =>
      obtain ⟨pool, rfl⟩ := table?_claims found
      exact exists_typeTable_eq_append tablePrefix type pool
  | collection type property =>
      have allocated := allocate_allocated graph tablePrefix catalog
      obtain ⟨owner, member, rfl, _⟩ :=
        allocated.exists_junction_iff.1 ⟨table, found⟩
      obtain ⟨_, _, _, target, _, _, first, second, rfl⟩ :=
        junction?_claims member found
      obtain ⟨rest, lowered, typeTable⟩ :=
        exists_typeTable_eq_append tablePrefix owner.name first
      rw [typeTable, String.append_assoc, String.append_assoc]
      apply Name.exists_claim_eq_append
      exact lowered.append (Lowered.append (by decide) (Name.lowered_snake target))

/-- Tables for different uses have different names, in whatever letter case. -/
theorem tableFor_toLower_inj {left right : TableUse}
    {leftTable rightTable : String}
    (leftFound : (allocate graph tablePrefix catalog).tableFor? left =
      some leftTable)
    (rightFound : (allocate graph tablePrefix catalog).tableFor? right =
      some rightTable)
    (same : leftTable.toLower = rightTable.toLower) : left = right := by
  obtain ⟨leftRest, leftLowered, rfl⟩ := exists_tableFor_eq_append leftFound
  obtain ⟨rightRest, rightLowered, rfl⟩ := exists_tableFor_eq_append rightFound
  obtain rfl := leftLowered.eq_of_toLower_eq rightLowered same
  have allocated := allocate_allocated graph tablePrefix catalog
  exact allocated.tableFor_inj leftFound rightFound

end

/-- The types that have a table are those of the graph, the collections that have
one are those that hold objects of a type of the graph, and all of these tables
are distinct in whatever letter case and new to the catalog. -/
theorem allocate_unique (graph : TypeGraph) (tablePrefix : String)
    (catalog : List String) :
    let names := allocate graph tablePrefix catalog
    (∀ type, (∃ table, names.table? type = some table) ↔ type ∈ graph.names) ∧
    (∀ type property, (∃ table, names.junction? type property = some table) ↔
      ∃ owner ∈ graph.types, owner.name = type ∧
        ∃ held ∈ owner.properties, held.name = property ∧
          ∃ collection, ∃ target ∈ graph.names,
            held.kind = .collection collection (.type target)) ∧
    (∀ left right leftTable rightTable,
      names.tableFor? left = some leftTable →
      names.tableFor? right = some rightTable →
      leftTable.toLower = rightTable.toLower → left = right) ∧
    (∀ use table, names.tableFor? use = some table → table ∉ catalog) ∧
    List.Forall₂ (fun type entry =>
        entry.1 = type ∧ names.table? type = some entry.2)
      graph.names names.types := by
  intro names
  have allocated : Allocated graph catalog names :=
    allocate_allocated graph tablePrefix catalog
  refine ⟨?_, ?_, ?_, ?_, allocated.types_in_order⟩
  · intro type
    rw [← allocated.table_isOk]
    simp only [table_eq_ok]
  · intro type property
    rw [allocated.exists_junction_iff]
    simp only [holdsKnown_iff, heldType?_eq_some]
    grind
  · intro left right leftTable rightTable leftFound rightFound same
    exact tableFor_toLower_inj leftFound rightFound same
  · intro use table found
    exact allocated.tableFor_fresh found

/-- The type `OrderItem` comes before the list of the items of an order, and the
name in the catalog is passed over. -/
example :
    let shop : TypeGraph := {
      types := [⟨"Order", [⟨"items", .collection .array (.type "Item"), none⟩,
          ⟨"returned", .collection .array (.type "Item"), none⟩]⟩,
        ⟨"Item", []⟩, ⟨"OrderItem", []⟩]
      names_nodup := by decide }
    (allocate shop "App" ["App_order_item_1"]).tables =
      ["App_order", "App_item", "App_order_item", "App_order_item_2",
        "App_order_item_3"] := by
  decide +kernel

end TableNames

end GraphSchema.Storage
