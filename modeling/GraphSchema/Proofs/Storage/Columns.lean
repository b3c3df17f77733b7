import GraphSchema.Proofs.Lists
import GraphSchema.Proofs.Name.Spelling
import GraphSchema.Proofs.Storage.Schemas

/-!
# Columns of tables

Every property that is stored asks for one name among the columns of its type: a
column of its own, or a name that stands for a collection. All these names are
claimed from one pool, in the order of the properties, and the columns of a
junction are claimed from a pool of their own. Both pools begin with the primary
key, so no table has two columns of one name.
-/

namespace GraphSchema.Storage

open Name (Pool snake)
open Relational (Column Table primaryKey)

/-- The name that a placement takes up among the columns of its owner. -/
def Placement.claimed? : Placement → Option String
  | .column name _ => some name
  | .foreignKey name _ => some name
  | .junction made => some made.mappingKey
  | .dropped _ => none

/-- The name that a property asks for among the columns of its owner. -/
def wantedName? (graph : TypeGraph) (names : TableNames) (owner : String)
    (property : Property) : Option String :=
  match property.kind with
  | .scalar _ => some (snake property.name)
  | .collection _ (.scalar _) => some (snake property.name)
  | .object target =>
      if graph.contains target then some (rowColumn target) else none
  | .collection _ (.type _) =>
      (names.junction? owner property.name).map fun _ => property.name
  | .composite _ _ => none

@[simp] theorem makeJunction_mappingKey (owner table mappingKey : String)
    (collection : Collection) (target : String) :
    (makeJunction owner table mappingKey collection target).mappingKey =
      mappingKey := by
  cases collection <;> rfl

section

variable (graph : TypeGraph) (names : TableNames) (owner : String)

/-- A placement takes up the claim of the wanted name. -/
theorem place_claimed? (columns : Pool) (property : Property) :
    (place graph names owner columns property).1.claimed? =
      (wantedName? graph names owner property).map fun wanted =>
        (columns.claim wanted).1 := by
  simp only [place, wantedName?]
  cases property.kind with
  | scalar basic => rfl
  | composite mode targets => rfl
  | object target =>
      by_cases known : graph.contains target = true <;>
        simp [known, Placement.claimed?]
  | collection ordering element =>
      cases element with
      | scalar basic => rfl
      | type target =>
          cases names.junction? owner property.name <;>
            simp [Placement.claimed?]

/-- A placement leaves the claim of the wanted name behind. -/
theorem place_pool (columns : Pool) (property : Property) :
    (place graph names owner columns property).2 =
      ((wantedName? graph names owner property).map fun wanted =>
        (columns.claim wanted).2).getD columns := by
  simp only [place, wantedName?]
  cases property.kind with
  | scalar basic => rfl
  | composite mode targets => rfl
  | object target =>
      by_cases known : graph.contains target = true <;> simp [known]
  | collection ordering element =>
      cases element with
      | scalar basic => rfl
      | type target => cases names.junction? owner property.name <;> rfl

/-- The slots of a type take up one run of claims, in the order of their
properties. -/
theorem slotsOf_claimed (columns fields : Pool) (properties : List Property) :
    (slotsOf graph names owner columns fields properties).filterMap
        (·.placement.claimed?) =
      (columns.claimAll
        (properties.filterMap (wantedName? graph names owner))).1 := by
  induction properties generalizing columns fields with
  | nil => rfl
  | cons property rest ih =>
      have claimed := place_claimed? graph names owner columns property
      have pool := place_pool graph names owner columns property
      simp only [slotsOf, List.filterMap_cons, claimed, ih, pool]
      cases wantedName? graph names owner property <;> rfl

/-- Each slot takes up a claim of what its property asks for. -/
theorem slotsOf_claims (columns fields : Pool) (properties : List Property) :
    ∀ slot ∈ slotsOf graph names owner columns fields properties,
      ∃ pool : Pool, slot.placement.claimed? =
        (wantedName? graph names owner slot.property).map fun wanted =>
          (pool.claim wanted).1 := by
  induction properties generalizing columns fields with
  | nil => simp [slotsOf]
  | cons property rest ih =>
      simp only [slotsOf, List.forall_mem_cons]
      exact ⟨⟨columns, place_claimed? graph names owner columns property⟩, ih _ _⟩

end

/-- A column with the number of a row has no name that ends with another letter
than `rowColumn` does. -/
theorem claim_rowColumn_ne {name : String} {last : Char}
    (ends : name.toList.getLast? = some last) (other : last ≠ 'd')
    (letter : last.isDigit = false) (pool : Pool) (type : String) :
    (pool.claim (rowColumn type)).1 ≠ name := by
  intro same
  have wanted : (rowColumn type).toList.getLast? = some 'd' := by
    simp [rowColumn, List.getLast?_append]
  rw [← same] at ends
  rcases pool.getLast?_claim (rowColumn type) with kept | ⟨digit, isDigit, added⟩
  · rw [ends, wanted] at kept
    exact other (Option.some.inj kept)
  · rw [ends] at added
    rw [Option.some.inj added, isDigit] at letter
    cases letter

/-- The columns of a junction after the primary key are a run of claims. -/
theorem makeJunction_columns (owner table mappingKey : String)
    (collection : Collection) (target : String) :
    ∃ wanted,
      (makeJunction owner table mappingKey collection target).toTable.columnNames =
        primaryKey :: (freshPool.claimAll wanted).1 := by
  cases collection with
  | array =>
      refine ⟨[rowColumn owner, rowColumn target], ?_⟩
      simp [Junction.toTable_columnNames, makeJunction]
  | map =>
      refine ⟨[rowColumn owner, mapKeyColumn, rowColumn target], ?_⟩
      simp [Junction.toTable_columnNames, makeJunction]

/-- What is claimed after the primary key makes distinct columns with it. -/
theorem nodup_freshPool_claimAll (wanted : List String) :
    (primaryKey :: (freshPool.claimAll wanted).1).Nodup := by
  rw [List.nodup_cons]
  constructor
  · intro member
    exact Pool.not_mem_used_of_mem_claimAll member (by simp [freshPool])
  · exact Pool.nodup_claimAll _ _

namespace LaidOut

variable {graph : TypeGraph} {names : TableNames} {layout : Layout}
variable {slot : Slot}

/-- The names that the slots of a layout take up are claimed after the primary
key. -/
theorem claimed_nodup (laid : LaidOut graph names layout) :
    (primaryKey :: layout.slots.filterMap (·.placement.claimed?)).Nodup := by
  rw [laid.slots, slotsOf_claimed]
  exact nodup_freshPool_claimAll _

theorem claims (laid : LaidOut graph names layout)
    (member : slot ∈ layout.slots) :
    ∃ pool : Pool, slot.placement.claimed? =
      (wantedName? graph names layout.type.name slot.property).map fun wanted =>
        (pool.claim wanted).1 := by
  rw [laid.slots] at member
  exact slotsOf_claims graph names _ _ _ _ slot member

/-- The columns of a layout are names that its slots take up. -/
theorem columns_sublist (layout : Layout) :
    (layout.columns.map Column.name).Sublist
      (layout.slots.filterMap (·.placement.claimed?)) := by
  rw [Layout.columns, List.map_filterMap]
  apply filterMap_sublist
  intro slot _ name
  cases slot.placement <;>
    simp [Placement.column?, Placement.claimed?, Column.plain]

theorem columnNames_nodup (laid : LaidOut graph names layout) :
    layout.columnNames.Nodup :=
  laid.claimed_nodup.sublist ((columns_sublist layout).cons_cons primaryKey)

/-- No table of a type has two columns of one name. -/
theorem table_columnNames_nodup (laid : LaidOut graph names layout)
    {table : Table} (member : table ∈ layout.tables) :
    table.columnNames.Nodup := by
  rcases mem_layout_tables.1 member with
    rfl | ⟨slot, inside, junction, placement, rfl⟩
  · exact laid.columnNames_nodup
  · have placed := laid.placed inside
    rw [placement] at placed
    cases placed with
    | collection kind found mappingKey =>
        obtain ⟨wanted, columns⟩ := makeJunction_columns _ _ _ _ _
        rw [columns]
        exact nodup_freshPool_claimAll wanted

/-- The column of an object is a claim of the name for the rows of its type. -/
theorem foreignKey_claims (laid : LaidOut graph names layout)
    (member : slot ∈ layout.slots) {column target : String}
    (placement : slot.placement = .foreignKey column target) :
    ∃ pool : Pool, column = (pool.claim (rowColumn target)).1 := by
  obtain ⟨pool, claimed⟩ := laid.claims member
  have kind := laid.foreignKey_refers member placement
  refine ⟨pool, ?_⟩
  simp only [placement, Placement.claimed?, wantedName?, kind] at claimed
  cases known : graph.contains target <;> simp_all

end LaidOut

end GraphSchema.Storage
