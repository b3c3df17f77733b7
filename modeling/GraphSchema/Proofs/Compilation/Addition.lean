import GraphSchema.Proofs.Query.Definitions
import GraphSchema.Proofs.Shape.Fragments
import GraphSchema.Proofs.Storage.Addition
import GraphSchema.Proofs.Storage.MappingTables

/-!
# What a new type changes

A type that is put at the end of a graph and that no property refers to changes
nothing about the older types but the tables of their collections: their own tables,
their columns and fields, their fragments, the keys of their mapping tables and what
is fetched for their objects stay as they were.
-/

namespace GraphSchema

open Storage

/-- The type that a placement refers to. -/
def Storage.Placement.target? : Placement → Option String
  | .foreignKey _ target => some target
  | .junction made => some made.target
  | _ => none

/-! ## Definitions without the tables of collections -/

namespace Query

/-- A query that does not tell the table of a collection. -/
def Select.tableless : Select → Select
  | .linked link size => .linked { link with junction := "" } size
  | query => query

namespace Node

mutual

/-- A node whose queries do not tell the tables of collections. -/
def tableless : Node → Node
  | .collection query params definition key =>
      .collection query.tableless params (tablelessFields definition) key
  | .entity query params definition =>
      .entity query.tableless params (tablelessFields definition)
  | .value query params column => .value query.tableless params column
  | .object definition => .object (tablelessFields definition)
  | leaf => leaf

/-- The fields of a definition whose queries do not tell the tables of collections. -/
def tablelessFields : List (String × Node) → List (String × Node)
  | [] => []
  | (name, node) :: rest => (name, tableless node) :: tablelessFields rest

end

end Node

/-- A definition whose queries do not tell the tables of collections. -/
def Definition.tableless (definition : Definition) : Definition :=
  { definition with fields := Node.tablelessFields definition.fields }

/-- An expansion whose queries do not tell the tables of collections. -/
def Expansion.tableless (expansion : Expansion) : Expansion :=
  { expansion with definition := expansion.definition.tableless }

/-- A part whose queries do not tell the tables of collections. -/
def Part.tableless (part : Part) : Part :=
  { part with field := part.field.map fun field => (field.1, field.2.tableless) }

theorem Node.tablelessFields_eq_map (fields : List (String × Node)) :
    Node.tablelessFields fields =
      fields.map fun field => (field.1, field.2.tableless) := by
  induction fields with
  | nil => rfl
  | cons field rest ih => rw [Node.tablelessFields, ih, List.map_cons]

theorem ofParts_tableless (parts : List Part) :
    (ofParts parts).tableless = ofParts (parts.map Part.tableless) := by
  simp [Definition.tableless, ofParts, Node.tablelessFields_eq_map, Node.tableless,
    List.filterMap_map, List.map_filterMap, Part.tableless, Function.comp_def]

theorem objectNode_tableless (column : String) (target : Expansion) :
    (objectNode column target).tableless = objectNode column target.tableless := by
  simp [objectNode, Node.tableless, Select.tableless, Expansion.tableless,
    Definition.tableless]

theorem collectionNode_tableless (pageSize : UInt32) (junction : Junction)
    (target : Expansion) :
    (collectionNode pageSize junction target).tableless =
      collectionNode pageSize { junction with table := "" } target.tableless := by
  simp [collectionNode, Node.tableless, Select.tableless, Expansion.tableless,
    Definition.tableless]

/-- What a slot adds without the tables of collections is what it adds where these are
not told. -/
theorem slotPart_tableless (pageSize : UInt32)
    (expand : Option (String → Except CompileError Expansion)) (slot : Slot) :
    Part.tableless <$> slotPart pageSize expand slot =
      slotPart pageSize
        (expand.map fun expand target => Expansion.tableless <$> expand target)
        slot.tableless := by
  simp only [slotPart, Slot.tableless]
  cases slot.placement with
  | column column type => rfl
  | dropped reason => cases expand <;> rfl
  | foreignKey column target =>
      cases expand with
      | none => rfl
      | some expand =>
          simp only [Placement.tableless, Option.map_some, map_bind, bind_map_left,
            map_pure, Part.tableless, objectNode_tableless]
  | junction junction =>
      cases expand with
      | none => rfl
      | some expand =>
          simp only [Placement.tableless, Option.map_some, map_bind, bind_map_left,
            map_pure, Part.tableless, collectionNode_tableless]

theorem assemble_eq (pageSize : UInt32)
    (expand : Option (String → Except CompileError Expansion)) (layout : Layout) :
    assemble pageSize expand layout =
      ofParts <$> layout.slots.mapM (slotPart pageSize expand) := by
  rw [assemble, ← bind_pure_comp]
  rfl

/-- A definition without the tables of collections is that of the layout without
them. -/
theorem assemble_tableless (pageSize : UInt32)
    (expand : Option (String → Except CompileError Expansion)) (layout : Layout) :
    Definition.tableless <$> assemble pageSize expand layout =
      assemble pageSize
        (expand.map fun expand target => Expansion.tableless <$> expand target)
        layout.tableless := by
  have slots := map_mapM Part.tableless (slotPart pageSize expand) layout.slots
  simp only [slotPart_tableless] at slots
  rw [assemble_eq, assemble_eq, Layout.tableless, List.mapM_map]
  calc
    Definition.tableless <$> ofParts <$> layout.slots.mapM (slotPart pageSize expand)
    _ = ofParts <$> List.map Part.tableless <$>
        layout.slots.mapM (slotPart pageSize expand) := by
      simp only [Functor.map_map, ofParts_tableless]
    _ = _ := by rw [slots]; rfl

/-! ## Definitions of the older types -/

/-- How a referred type is expanded in a definition with some levels below it. -/
def expandTo (context : Context) (levels : Nat) (target : String) :
    Except CompileError Expansion := do
  let type ← context.graph.resolve target
  let table ← context.names.table target
  return ⟨table, ← define context levels type⟩

theorem define_succ (context : Context) (levels : Nat) {type : RecordType}
    {layout : Layout} (made : Layout.of context.graph context.names type = .ok layout) :
    define context (levels + 1) type =
      assemble context.pageSize (some (expandTo context levels)) layout := by
  rw [define, made, ok_bind]
  rfl

theorem define_zero (context : Context) {type : RecordType} {layout : Layout}
    (made : Layout.of context.graph context.names type = .ok layout) :
    define context 0 type = assemble context.pageSize none layout := by
  rw [define, made, ok_bind]

theorem expandTo_tableless (context : Context) (levels : Nat) (target : String) :
    Expansion.tableless <$> expandTo context levels target = (do
      let type ← context.graph.resolve target
      let table ← context.names.table target
      let definition ← Definition.tableless <$> define context levels type
      return ⟨table, definition⟩) := by
  simp only [expandTo, map_bind, map_pure, bind_map_left, Expansion.tableless]

theorem slotPart_congr {pageSize : UInt32}
    {expand other : String → Except CompileError Expansion} {slot : Slot}
    (same : ∀ target, slot.placement.target? = some target →
      expand target = other target) :
    slotPart pageSize (some expand) slot = slotPart pageSize (some other) slot := by
  simp only [slotPart]
  cases placement : slot.placement with
  | column column type => rfl
  | dropped reason => rfl
  | foreignKey column target =>
      rw [placement] at same
      simp only [same target rfl]
  | junction junction =>
      rw [placement] at same
      simp only [same junction.target rfl]

/-- A definition depends only on how the types that slots refer to are expanded. -/
theorem assemble_congr {pageSize : UInt32}
    {expand other : String → Except CompileError Expansion} {layout : Layout}
    (same : ∀ slot ∈ layout.slots, ∀ target, slot.placement.target? = some target →
      expand target = other target) :
    assemble pageSize (some expand) layout =
      assemble pageSize (some other) layout := by
  rw [assemble_eq, assemble_eq,
    mapM_congr fun slot member => slotPart_congr (same slot member)]

end Query

variable {extra : String} {graph longer : TypeGraph} {names longerNames : TableNames}

namespace Storage.Agree

/-- A slot of an older type does not refer to the new one. -/
theorem target_ne (agree : Agree extra graph names longer longerNames)
    {layout : Layout} (laid : LaidOut graph names layout) {slot : Slot}
    (member : slot ∈ layout.tableless.slots) {target : String}
    (refers : slot.placement.target? = some target) : target ≠ extra := by
  obtain ⟨original, present, rfl⟩ := List.mem_map.1 member
  have avoids := agree.avoided _ laid.member _ (laid.property_mem present)
  have referred : target ∈ original.property.kind.references := by
    rw [Slot.tableless] at refers
    cases placement : original.placement with
    | column | dropped =>
        rw [placement] at refers
        cases refers
    | foreignKey column other =>
        rw [placement] at refers
        cases refers
        simp [laid.foreignKey_refers present placement, Kind.references]
    | junction junction =>
        rw [placement] at refers
        cases refers
        simp [laid.junction_refers present placement, Kind.references]
  exact ne_of_mem_of_not_mem referred avoids

/-- What is fetched for an object of an older type stays as it was, or cannot be fetched
for the same reason. -/
theorem define_eq (agree : Agree extra graph names longer longerNames)
    {catalog : List String} (allocated : names.Allocated graph catalog)
    (pageSize : UInt32) (levels : Nat) {type : RecordType}
    (member : type ∈ graph.types) :
    Query.Definition.tableless <$>
        Query.define ⟨longer, longerNames, pageSize⟩ levels type =
      Query.Definition.tableless <$>
        Query.define ⟨graph, names, pageSize⟩ levels type := by
  -- One level down the same has to hold of every older type that a slot refers to.
  induction levels generalizing type with
  | zero =>
      obtain ⟨layout, laid, rfl⟩ := allocated.exists_layout member
      obtain ⟨other, made, same⟩ := agree.exists_layout laid
      rw [Query.define_zero _ made, Query.define_zero _ laid.made,
        Query.assemble_tableless, Query.assemble_tableless, same]
  | succ levels ih =>
      obtain ⟨layout, laid, rfl⟩ := allocated.exists_layout member
      obtain ⟨other, made, same⟩ := agree.exists_layout laid
      rw [Query.define_succ _ _ made, Query.define_succ _ _ laid.made,
        Query.assemble_tableless, Query.assemble_tableless, same]
      apply Query.assemble_congr
      intro slot member target refers
      have different := agree.target_ne laid member refers
      have resolved : longer.resolve target = graph.resolve target := by
        rw [TypeGraph.resolve, TypeGraph.resolve, agree.find target different]
      have table : longerNames.table target = names.table target := by
        rw [TableNames.table, TableNames.table, agree.table target different]
      simp only [Query.expandTo_tableless, resolved, table]
      cases found : graph.resolve target with
      | error => rfl
      | ok type =>
          obtain ⟨present, named⟩ := TypeGraph.resolve_eq_ok.1 found
          simp only [ok_bind, ih present]

/-! ## Fragments and mapping tables -/

theorem ofProperty?_eq (agree : Agree extra graph names longer longerNames)
    {property : Property} (avoids : extra ∉ property.kind.references) :
    Shape.ofProperty? longer property = Shape.ofProperty? graph property := by
  have reference : ∀ target ∈ property.kind.references,
      Shape.reference? longer target = Shape.reference? graph target := by
    intro target member
    have other : target ≠ extra := ne_of_mem_of_not_mem member avoids
    rw [Shape.reference?, Shape.reference?, agree.contains target other]
  simp only [Shape.ofProperty?]
  cases kind : property.kind with
  | scalar basic => cases basic <;> rfl
  | object target =>
      rw [kind] at reference
      exact reference target List.mem_cons_self
  | collection collection element =>
      cases element with
      | scalar => rfl
      | type target =>
          rw [kind] at reference
          simp only [reference target List.mem_cons_self]
  | composite mode targets =>
      rw [kind] at reference
      have parts : targets.filterMap (Shape.reference? longer) =
          targets.filterMap (Shape.reference? graph) :=
        List.filterMap_congr reference
      simp only [parts]

/-- The fragment of an older type stays as it was. -/
theorem fragment_eq (agree : Agree extra graph names longer longerNames)
    {layout other : Layout} (laid : LaidOut graph names layout)
    (same : other.tableless = layout.tableless) :
    Shape.fragment longer other = Shape.fragment graph layout := by
  rw [Shape.fragment, Layout.filterMap_slots (fun slot => rfl) same, Shape.fragment]
  apply congrArg Fragment.mk
  apply List.filterMap_congr
  intro slot member
  rw [agree.ofProperty?_eq (agree.avoided _ laid.member _ (laid.property_mem member))]

/-- The mapping table of an older type has the keys from before. -/
theorem mapping_keys_eq (agree : Agree extra graph names longer longerNames)
    {layout other : Layout} (laid : LaidOut graph names layout)
    (made : Layout.of longer longerNames layout.type = .ok other)
    (same : other.tableless = layout.tableless) :
    other.mapping.map Prod.fst = layout.mapping.map Prod.fst := by
  obtain ⟨otherLaid, _⟩ := LaidOut.of_eq_ok (agree.mem laid.member) made
  rw [otherLaid.mapping_eq, laid.mapping_eq, LaidOut.entry_keys, LaidOut.entry_keys]
  exact Layout.filterMap_slots Slot.tableless_claimed? same

end Storage.Agree

/-! ## Older types -/

/-- Whether what is made of a type in two contexts is the same, up to the tables of its
collections. -/
structure Undisturbed (context other : Query.Context) (type : RecordType) : Prop where
  table : ∃ table, context.names.table? type.name = some table ∧
    other.names.table? type.name = some table
  layout : ∃ before after,
    Layout.of context.graph context.names type = .ok before ∧
      Layout.of other.graph other.names type = .ok after ∧
      after.tableless = before.tableless ∧
      after.columns = before.columns ∧
      Shape.fragment other.graph after = Shape.fragment context.graph before ∧
      after.mapping.map Prod.fst = before.mapping.map Prod.fst
  definitions : ∀ levels,
    Query.Definition.tableless <$> Query.define other levels type =
      Query.Definition.tableless <$> Query.define context levels type

/-- A type that is put at the end of a graph and that no property of the graph refers
to disturbs none of the types that were there. -/
theorem add_undisturbed {graph longer : TypeGraph} {extra : RecordType}
    (added : graph.add extra = .ok longer)
    (avoided : ∀ type ∈ graph.types, type.Avoids extra.name) (tablePrefix : String)
    (catalog : List String) (pageSize : UInt32) {type : RecordType}
    (member : type ∈ graph.types) :
    Undisturbed
      ⟨graph, TableNames.allocate graph tablePrefix catalog, pageSize⟩
      ⟨longer, TableNames.allocate longer tablePrefix catalog, pageSize⟩ type := by
  have allocated := TableNames.allocate_allocated graph tablePrefix catalog
  have agree := agree_add (TypeGraph.add_eq_ok.1 added) avoided tablePrefix catalog
  obtain ⟨layout, laid, rfl⟩ := allocated.exists_layout member
  constructor
  case table =>
    refine ⟨layout.table, laid.table, ?_⟩
    rw [agree.table _ (agree.others _ member), laid.table]
  case layout =>
    obtain ⟨other, made, same⟩ := agree.exists_layout laid
    exact ⟨layout, other, laid.made, made, same, Layout.columns_of_tableless same,
      agree.fragment_eq laid same, agree.mapping_keys_eq laid made same⟩
  case definitions =>
    intro levels
    exact agree.define_eq allocated pageSize levels member

/-- Orders with items. -/
def sales : TypeGraph where
  types := [⟨"Order", [⟨"items", .collection .array (.type "Item"), none⟩,
      ⟨"next", .object "Order", none⟩, ⟨"lost", .object "Customer", none⟩]⟩,
    ⟨"Item", [⟨"label", .scalar .string, none⟩]⟩]
  names_nodup := by decide

/-- A type whose table has the name that the items of an order would have. -/
def orderItem : RecordType :=
  ⟨"OrderItem", [⟨"orders", .collection .map (.type "Order"), none⟩]⟩

theorem sales_undisturbed :
    ∃ type ∈ sales.types, ∃ longer, sales.add orderItem = .ok longer ∧
      (∀ older ∈ sales.types, older.Avoids orderItem.name) ∧
      (TableNames.allocate sales "app" []).junction? type.name "items" =
        some "app_order_item" ∧
      (TableNames.allocate longer "app" []).junction? type.name "items" =
        some "app_order_item_1" ∧
      Undisturbed ⟨sales, TableNames.allocate sales "app" [], 16⟩
        ⟨longer, TableNames.allocate longer "app" [], 16⟩ type := by
  have avoided : ∀ older ∈ sales.types, older.Avoids orderItem.name := by decide
  have member : sales.types.head (by decide) ∈ sales.types := by decide
  have added : sales.add orderItem = .ok _ := rfl
  exact ⟨_, member, _, added, avoided, by decide +kernel, by decide +kernel,
    add_undisturbed added avoided "app" [] 16 member⟩

end GraphSchema
