import GraphSchema.Proofs.Graph.Building
import GraphSchema.Proofs.Storage.Columns
import GraphSchema.Proofs.Storage.Namesakes

/-!
# Types added to a graph

A type that is put at the end of a graph gets its table after the types that were
there, so theirs stay what they were. It comes before all collections, so the tables
of these may get other numbers. But which collections have a table does not change
as long as no property refers to the new type. So in the layout of an older type
nothing changes but the tables of its collections.
-/

namespace GraphSchema

/-- Whether no property of a type refers to a name. -/
def RecordType.Avoids (extra : String) (type : RecordType) : Prop :=
  ∀ property ∈ type.properties, extra ∉ property.kind.references

instance (extra : String) (type : RecordType) : Decidable (type.Avoids extra) :=
  inferInstanceAs
    (Decidable (∀ property ∈ type.properties, extra ∉ property.kind.references))

namespace TypeGraph

variable {graph longer : TypeGraph} {extra : RecordType}

/-- Another name finds what it found before. -/
theorem find?_add (added : longer.types = graph.types ++ [extra]) {name : String}
    (other : name ≠ extra.name) : longer.find? name = graph.find? name := by
  have missed : [extra].find? (·.name = name) = none := by
    simp [other.symm]
  rw [find?, find?, added, List.find?_append, missed, Option.or_none]

theorem contains_add (added : longer.types = graph.types ++ [extra]) {name : String}
    (other : name ≠ extra.name) : longer.contains name = graph.contains name := by
  simp [contains, names_add added, other]

/-- The name of the new type is new. -/
theorem name_ne_of_add (added : longer.types = graph.types ++ [extra])
    {type : RecordType} (member : type ∈ graph.types) : type.name ≠ extra.name := by
  have distinct := longer.names_nodup
  rw [added, List.map_append, List.nodup_append] at distinct
  apply distinct.2.2 type.name (List.mem_map_of_mem member)
  simp

end TypeGraph

namespace Storage

open Name (Pool)

/-! ## Without the tables of collections -/

/-- A placement that does not tell the table of a collection. -/
def Placement.tableless : Placement → Placement
  | .junction made => .junction { made with table := "" }
  | placement => placement

/-- A slot that does not tell the table of a collection. -/
def Slot.tableless (slot : Slot) : Slot :=
  { slot with placement := slot.placement.tableless }

/-- A layout that does not tell the tables of collections. -/
def Layout.tableless (layout : Layout) : Layout :=
  { layout with slots := layout.slots.map Slot.tableless }

/-- What is read off the slots without the tables of collections is the same for layouts
that differ in these only. -/
theorem Layout.filterMap_slots {α : Type} {image : Slot → Option α}
    (blind : ∀ slot : Slot, image slot.tableless = image slot) {layout other : Layout}
    (same : other.tableless = layout.tableless) :
    other.slots.filterMap image = layout.slots.filterMap image := by
  have slots : other.slots.map Slot.tableless = layout.slots.map Slot.tableless :=
    congrArg Layout.slots same
  have images := congrArg (List.filterMap image) slots
  simpa only [List.filterMap_map, Function.comp_def, blind] using images

theorem Slot.tableless_column? (slot : Slot) :
    slot.tableless.placement.column? = slot.placement.column? := by
  rw [Slot.tableless]
  cases slot.placement <;> rfl

theorem Slot.tableless_claimed? (slot : Slot) :
    slot.tableless.placement.claimed? = slot.placement.claimed? := by
  rw [Slot.tableless]
  cases slot.placement <;> rfl

theorem Layout.columns_of_tableless {layout other : Layout}
    (same : other.tableless = layout.tableless) : other.columns = layout.columns :=
  Layout.filterMap_slots Slot.tableless_column? same

theorem makeJunction_tableless (owner left right mappingKey : String)
    (collection : Collection) (target : String) :
    (Placement.junction
      (makeJunction owner left mappingKey collection target)).tableless =
    (Placement.junction
      (makeJunction owner right mappingKey collection target)).tableless := by
  cases collection <;> rfl

/-! ## Tables -/

/-- Whether two graphs with their tables agree on all names but one, which no type of the
first graph has or refers to. They agree on which collections have a table, but not on
the name of the table. -/
structure Agree (extra : String) (graph : TypeGraph) (names : TableNames)
    (longer : TypeGraph) (longerNames : TableNames) : Prop where
  find : ∀ name, name ≠ extra → longer.find? name = graph.find? name
  contains : ∀ name, name ≠ extra → longer.contains name = graph.contains name
  table : ∀ name, name ≠ extra → longerNames.table? name = names.table? name
  junction : ∀ type ∈ graph.types, ∀ property,
    (longerNames.junction? type.name property).isSome =
      (names.junction? type.name property).isSome
  others : ∀ type ∈ graph.types, type.name ≠ extra
  avoided : ∀ type ∈ graph.types, type.Avoids extra

section

variable {graph longer : TypeGraph} {extra : RecordType}

/-- The table of a type does not depend on types that come later. -/
theorem TableNames.table?_add (added : longer.types = graph.types ++ [extra])
    (tablePrefix : String) (catalog : List String) {name : String}
    (other : name ≠ extra.name) :
    (allocate longer tablePrefix catalog).table? name =
      (allocate graph tablePrefix catalog).table? name := by
  have missed : ∀ tables : List String, ([extra.name].zip tables).lookup name = none := by
    intro tables
    cases tables with
    | nil => rfl
    | cons table rest => simp [other]
  simp only [allocate, TableNames.table?, TypeGraph.names_add added, List.map_append,
    Pool.claimAll_append]
  rw [List.zip_append (by simp), List.lookup_append, missed, Option.or_none]

/-- A collection that avoids the new type holds a known type as before. -/
theorem holdsKnown_add (added : longer.types = graph.types ++ [extra])
    {property : Property} (avoids : extra.name ∉ property.kind.references) :
    holdsKnown longer property = holdsKnown graph property := by
  cases held : heldType? property with
  | none => simp [holdsKnown, held]
  | some target =>
      obtain ⟨collection, kind⟩ := heldType?_eq_some.1 held
      have referred : target ∈ property.kind.references := by
        simp [kind, Kind.references]
      have other : target ≠ extra.name := ne_of_mem_of_not_mem referred avoids
      simp [holdsKnown, held, TypeGraph.contains_add added other]

theorem agree_add (added : longer.types = graph.types ++ [extra])
    (avoided : ∀ type ∈ graph.types, type.Avoids extra.name) (tablePrefix : String)
    (catalog : List String) :
    Agree extra.name graph (TableNames.allocate graph tablePrefix catalog)
      longer (TableNames.allocate longer tablePrefix catalog) where
  find _ := TypeGraph.find?_add added
  contains _ := TypeGraph.contains_add added
  table _ := TableNames.table?_add added tablePrefix catalog
  junction type member property := by
    have allocated := TableNames.allocate_allocated graph tablePrefix catalog
    have longerAllocated := TableNames.allocate_allocated longer tablePrefix catalog
    have present : type ∈ longer.types := by
      rw [added]
      exact List.mem_append_left _ member
    rw [Bool.eq_iff_iff, Option.isSome_iff_exists, Option.isSome_iff_exists,
      allocated.junction_isSome member, longerAllocated.junction_isSome present]
    -- A collection has a table if a namesake holds a known type, so it takes all
    -- properties of the type to avoid the new one.
    apply exists_congr
    intro namesake
    apply and_congr_right
    intro owned
    rw [holdsKnown_add added (avoided type member namesake owned)]
  others _ := TypeGraph.name_ne_of_add added
  avoided := avoided

end

namespace Agree

variable {extra : String} {graph longer : TypeGraph} {names longerNames : TableNames}
variable {type : RecordType}

/-- The older types are still there. -/
theorem mem (agree : Agree extra graph names longer longerNames)
    (member : type ∈ graph.types) : type ∈ longer.types := by
  have found := TypeGraph.find?_eq_some.2 ⟨member, rfl⟩
  rw [← agree.find _ (agree.others _ member)] at found
  exact (TypeGraph.find?_eq_some.1 found).1

/-! ## Layouts -/

/-- A property is placed as before, up to the table of a collection, and leaves the
same names in use. -/
theorem place_eq (agree : Agree extra graph names longer longerNames)
    (member : type ∈ graph.types) {property : Property}
    (owned : property ∈ type.properties) (columns : Pool) :
    (place longer longerNames type.name columns property).1.tableless =
        (place graph names type.name columns property).1.tableless ∧
      (place longer longerNames type.name columns property).2 =
        (place graph names type.name columns property).2 := by
  have avoids := agree.avoided type member property owned
  simp only [place]
  cases kind : property.kind with
  | scalar => simp
  | composite => simp
  | object target =>
      have referred : target ∈ property.kind.references := by
        simp [kind, Kind.references]
      have other : target ≠ extra := ne_of_mem_of_not_mem referred avoids
      simp [agree.contains target other]
  | collection collection element =>
      cases element with
      | scalar => simp
      | type target =>
          have known := agree.junction type member property.name
          cases found : names.junction? type.name property.name with
          | none =>
              rw [found] at known
              have missing : longerNames.junction? type.name property.name = none := by
                simpa using known
              simp [missing]
          | some table =>
              rw [found] at known
              obtain ⟨other, present⟩ := Option.isSome_iff_exists.1 known
              simp only [present, and_true]
              apply makeJunction_tableless

/-- The slots of some properties of a type are those from before, up to the tables of
collections. -/
theorem slotsOf_eq (agree : Agree extra graph names longer longerNames)
    (member : type ∈ graph.types) {properties : List Property}
    (owned : ∀ property ∈ properties, property ∈ type.properties)
    (columns fields : Pool) :
    (slotsOf longer longerNames type.name columns fields properties).map
        Slot.tableless =
      (slotsOf graph names type.name columns fields properties).map
        Slot.tableless := by
  induction properties generalizing columns fields with
  | nil => rfl
  | cons property rest ih =>
      obtain ⟨here, pool⟩ :=
        agree.place_eq member (owned property List.mem_cons_self) columns
      have later := ih fun other present =>
        owned other (List.mem_cons_of_mem property present)
      simp only [slotsOf, List.map_cons, pool, later, Slot.tableless, here]

/-- The layout of an older type is the one from before, up to the tables of
collections. -/
theorem exists_layout (agree : Agree extra graph names longer longerNames)
    {layout : Layout} (laid : LaidOut graph names layout) :
    ∃ other, Layout.of longer longerNames layout.type = .ok other ∧
      other.tableless = layout.tableless := by
  have table := laid.table
  rw [← agree.table _ (agree.others _ laid.member)] at table
  refine ⟨_, Layout.of_eq_ok.2 ⟨_, table, rfl⟩, ?_⟩
  have slots := agree.slotsOf_eq laid.member (fun _ owned => owned) freshPool freshPool
  rw [Layout.tableless, slots, ← laid.slots, Layout.tableless]

end Agree

end Storage

end GraphSchema
