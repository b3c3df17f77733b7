import GraphSchema.Proofs.Compilation.FieldNames
import GraphSchema.Proofs.Storage.ForeignKeys

/-!
# Depth of documents

However types refer to each other, a document shows the objects right below its
own and nothing further down. At the root every property that is stored has its
field, and what is shown for an object or a collection is the definition of its type
one level deeper. There only the fields of columns are left, and nothing runs a query
any more. So the queries of a document can be counted: besides those at its top there
is one for each object and each collection that its type refers to.
-/

namespace GraphSchema

open Relational (primaryKey)
open Storage

namespace Storage.Slot

/-- Whether a slot holds a column that is shown as it is. -/
def isColumn (slot : Slot) : Bool :=
  match slot.placement with
  | .column _ _ => true
  | _ => false

/-- Whether a slot holds a collection of objects. -/
def isCollection (slot : Slot) : Bool :=
  match slot.placement with
  | .junction _ => true
  | _ => false

end Storage.Slot

namespace Query

/-- The definition of a type at a depth below the root of a document. -/
def defineAt (context : Context) (depth : Nat) (type : RecordType) :
    Except CompileError Definition :=
  define context (expansionLimit - depth) type

namespace Node

/-- Whether a node runs a query. -/
def runsQuery (node : Node) : Bool :=
  node.query?.isSome

@[simp] theorem runsQuery_field (column : String) (type : Relational.ColumnType) :
    (field column type).runsQuery = false := rfl

@[simp] theorem runsQuery_context (name : String) (default : Option Nat) :
    (context name default).runsQuery = false := rfl

@[simp] theorem runsQuery_literal (value : Nat) :
    (literal value).runsQuery = false := rfl

@[simp] theorem runsQuery_object (definition : List (String × Node)) :
    (object definition).runsQuery = false := rfl

@[simp] theorem runsQuery_value (query : Select) (params : List (String × Param))
    (column : String) : (value query params column).runsQuery = true := rfl

@[simp] theorem runsQuery_objectNode (column : String) (target : Expansion) :
    (objectNode column target).runsQuery = true := rfl

@[simp] theorem runsQuery_collectionNode (pageSize : UInt32) (junction : Junction)
    (target : Expansion) :
    (collectionNode pageSize junction target).runsQuery = true := rfl

/-- The nodes of a definition that run queries, at any depth, each with its path. -/
def queriesIn (start : String) (fields : List (String × Node)) :
    List (String × Node) :=
  (walkFields start fields).filter (·.2.runsQuery)

/-- The nodes that run queries, from a node downwards, each with its path. -/
def queries (node : Node) : List (String × Node) :=
  (node.walk "").filter (·.2.runsQuery)

/-- The fields of a definition whose own nodes run queries, each with its path. -/
def queryFields (start : String) (fields : List (String × Node)) :
    List (String × Node) :=
  (fields.filter (·.2.runsQuery)).map fun field =>
    (start ++ "/" ++ field.1, field.2)

end Node

/-- What the definition of a layout shows where nothing is expanded. -/
structure Cut (layout : Layout) (definition : Definition) : Prop where
  fields : definition.fields.map Prod.fst =
    primaryKey :: (layout.slots.filter Slot.isColumn).map Slot.field
  columns : definition.columns = primaryKey :: layout.slots.filterMap flatColumn?
  queryless : ∀ start, Node.queriesIn start definition.fields = []

/-- The nodes that show what a slot stores, with the types that it refers to as they
are shown at a depth. -/
inductive Shows (context : Context) (depth : Nat) (slot : Slot) : Node → Prop where
  | column {column : String} {type : Relational.ColumnType}
      (placement : slot.placement = .column column type) :
      Shows context depth slot (.field column type)
  | object {column target : String} {type : RecordType} {below : Definition}
      {query : Select} {params : List (String × Param)}
      (placement : slot.placement = .foreignKey column target)
      (resolved : context.graph.resolve target = .ok type)
      (made : defineAt context depth type = .ok below)
      (selected : query.columns = below.columns) :
      Shows context depth slot (.entity query params below.fields)
  | collection {junction : Junction} {type : RecordType} {below : Definition}
      {query : Select} {params : List (String × Param)} {key : Option String}
      (placement : slot.placement = .junction junction)
      (resolved : context.graph.resolve junction.target = .ok type)
      (made : defineAt context depth type = .ok below)
      (selected : query.columns = below.columns) :
      Shows context depth slot (.collection query params below.fields key)

/-- What the definition of a layout shows at the root. -/
structure Spread (context : Context) (layout : Layout)
    (definition : Definition) : Prop where
  fields : definition.fields.map Prod.fst =
    primaryKey :: (layout.slots.filter Slot.isStored).map Slot.field
  nodes : List.Forall₂ (Shows context 1) (layout.slots.filter Slot.isStored)
    (definition.fields.tail.map Prod.snd)

variable {context : Context} {layout : Layout} {parts : List Part}
variable {slot : Slot} {part : Part} {fields : List (String × Node)}

/-! ## The lowest level -/

theorem defineAt_deep {depth : Nat} (deep : 1 ≤ depth) (context : Context)
    (type : RecordType) : defineAt context depth type = define context 0 type := by
  have nothing : expansionLimit - depth = 0 := by
    rw [expansionLimit]
    omega
  rw [defineAt, nothing]

theorem queriesIn_flat (start : String) (layout : Layout) :
    Node.queriesIn start (flat layout).fields = [] := by
  apply List.filter_eq_nil_iff.2
  intro entry member
  rw [Node.runsQuery, query?_flat member]
  exact Bool.false_ne_true

theorem flat_cut (layout : Layout) : Cut layout (flat layout) where
  fields := by
    rw [flat, List.map_cons, List.map_filterMap]
    apply congrArg (primaryKey :: ·)
    apply filterMap_eq_map_filter
    intro slot
    cases placement : slot.placement <;>
      simp [flatField?, Slot.isColumn, placement]
  columns := rfl
  queryless start := queriesIn_flat start layout

/-! ## The root -/

/-- A type that is referred to is shown as it is one level below the root. -/
theorem defineAt_one (laid : LaidOut context.graph context.names layout) :
    defineAt context 1 layout.type = .ok (flat layout) :=
  define_zero_eq_ok.2 ⟨layout, laid.made, rfl⟩

/-- The part of a slot shows it. -/
theorem PartOf.shows (partOf : PartOf context slot part) {field : String}
    {node : Node} (found : part.field = some (field, node)) :
    Shows context 1 slot node := by
  cases partOf with
  | column placement =>
      cases found
      exact .column placement
  | object placement laid named =>
      cases found
      have resolved := TypeGraph.resolve_eq_ok.2 ⟨laid.member, named⟩
      exact .object placement resolved (defineAt_one laid) rfl
  | collection placement laid named =>
      cases found
      have resolved := TypeGraph.resolve_eq_ok.2 ⟨laid.member, named⟩
      exact .collection placement resolved (defineAt_one laid) rfl
  | dropped => cases found

theorem Expanded.spread (expanded : Expanded context layout parts) :
    Spread context layout (ofParts parts) where
  fields := by
    rw [expanded.fields_eq]
    apply congrArg (primaryKey :: ·)
    apply filterMap_eq_map_filter
    intro slot
    cases placement : slot.placement <;>
      simp [shownField?, Slot.isStored, placement]
  nodes := by
    rw [List.forall₂_map_right_iff]
    apply (filter_filterMap_of_forall₂ expanded.each fun slot part partOf =>
      partOf.isStored_iff).imp
    intro slot field shown
    obtain ⟨part, partOf, found⟩ := shown
    exact partOf.shows found

/-! ## Queries -/

/-- The nodes of some fields that run queries are those of the fields themselves if
there are no more below them. -/
theorem Node.queriesIn_eq {start : String}
    (shallow : ∀ field ∈ fields, ∀ start,
      Node.queriesIn start field.2.definition = []) :
    Node.queriesIn start fields = Node.queryFields start fields := by
  induction fields with
  | nil => rfl
  | cons field rest ih =>
      have here := shallow field List.mem_cons_self (start ++ "/" ++ field.1)
      have later := ih fun other member =>
        shallow other (List.mem_cons_of_mem _ member)
      rw [Node.queriesIn] at here later ⊢
      rw [Node.walkFields, Node.walk_eq, List.filter_append, later,
        List.filter_cons, here]
      cases runs : field.2.runsQuery <;> simp [Node.queryFields, runs]

/-- A node that shows a slot has no queries below it. -/
theorem Shows.queriesIn_definition {node : Node} (shows : Shows context 1 slot node)
    (start : String) : Node.queriesIn start node.definition = [] := by
  cases shows with
  | column => rfl
  | object placement resolved made | collection placement resolved made =>
      obtain ⟨layout, laid, rfl⟩ := define_zero_eq_ok.1 made
      exact queriesIn_flat start layout

/-- There is one query for each object and each collection. -/
theorem countP_runsQuery {slots : List Slot}
    (each : List.Forall₂ (PartOf context) slots parts) :
    (parts.filterMap Part.field).countP (·.2.runsQuery) =
      slots.countP Slot.isReference + slots.countP Slot.isCollection := by
  -- Parts are told apart by their placement, which is also what is counted.
  induction each with
  | nil => rfl
  | cons partOf _ ih =>
      cases partOf with
      | column placement | dropped placement =>
          simp [Slot.isReference, Slot.isCollection, placement, ih]
      | object placement | collection placement =>
          simp [List.countP_cons, Slot.isReference, Slot.isCollection, placement, ih]
          omega

namespace Expanded

theorem queriesIn_eq (expanded : Expanded context layout parts) (start : String) :
    Node.queriesIn start (ofParts parts).fields =
      Node.queryFields start (ofParts parts).fields := by
  apply Node.queriesIn_eq
  intro field member start
  cases expanded.mem_fields member with
  | inl first =>
      rw [first]
      rfl
  | inr later =>
      obtain ⟨slot, _, part, _, partOf, found⟩ := later
      exact (partOf.shows found).queriesIn_definition start

theorem length_queryFields (expanded : Expanded context layout parts)
    (start : String) :
    (Node.queryFields start (ofParts parts).fields).length =
      layout.slots.countP Slot.isReference +
        layout.slots.countP Slot.isCollection := by
  rw [Node.queryFields, List.length_map, ← List.countP_eq_length_filter,
    ← countP_runsQuery expanded.each]
  simp [ofParts]

theorem entity_queries (expanded : Expanded context layout parts) :
    let root := (rowDocument ⟨layout.table, ofParts parts⟩).root
    root.queries = ("", root) :: Node.queryFields "" root.definition := by
  intro root
  have below := expanded.queriesIn_eq ""
  rw [Node.queriesIn] at below
  have runs : root.runsQuery = true := rfl
  have top : root.definition = (ofParts parts).fields := rfl
  simp [Node.queries, Node.walk_eq, top, runs, below]

theorem page_queries (expanded : Expanded context layout parts) :
    let root := (pageDocument context.pageSize ⟨layout.table, ofParts parts⟩).root
    let entry := pageNode context.pageSize ⟨layout.table, ofParts parts⟩
    root.queries =
      ("/totalResults", .value (.count layout.table) [] countColumn) ::
        ("/entry", entry) :: Node.queryFields "/entry" entry.definition := by
  intro root entry
  have below := expanded.queriesIn_eq "/entry"
  rw [Node.queriesIn] at below
  have shown : entry.definition = (ofParts parts).fields := rfl
  have runs : entry.runsQuery = true := rfl
  have top : root = .object [
      ("totalResults", .value (.count layout.table) [] countColumn),
      ("startIndex", .context startIndex (some 0)),
      ("itemsPerPage", .literal context.pageSize.toNat), ("entry", entry)] := rfl
  simp [Node.queries, top, Node.walk, Node.walkFields, Node.walk_eq "/entry",
    List.filter_cons, runs, shown, below]

end Expanded

/-- What a document of a type shows below a node, and which queries it runs: those of
some nodes, and below these only those right below the node. -/
structure CutBelow (context : Context) (layout : Layout) (document : Document)
    (path : String) (node : Node) (tops : List (String × Node)) : Prop where
  shown : defineAt context 0 layout.type =
    .ok ⟨node.definition, document.columns⟩
  queries : document.root.queries = tops ++ Node.queryFields path node.definition
  count : document.root.queries.length = tops.length +
    (layout.slots.countP Slot.isReference + layout.slots.countP Slot.isCollection)

/-- A definition at the root expands the layout of its type. -/
theorem exists_expanded_of_defineAt
    (laid : LaidOut context.graph context.names layout) {definition : Definition}
    (made : defineAt context 0 layout.type = .ok definition) :
    ∃ parts, Expanded context layout parts ∧ ofParts parts = definition := by
  obtain ⟨other, parts, same, each, rfl⟩ := define_one_eq_ok.1 made
  obtain rfl : layout = other := Except.ok.inj (laid.made.symm.trans same)
  exact ⟨parts, ⟨laid, each⟩, rfl⟩

/-- The type at the top of a document is expanded from its layout. -/
theorem exists_expanded_of_expandRoot
    (laid : LaidOut context.graph context.names layout) {expansion : Expansion}
    (made : expandRoot context layout.type.name = .ok expansion) :
    ∃ parts, Expanded context layout parts ∧
      ⟨layout.table, ofParts parts⟩ = expansion := by
  obtain ⟨other, parts, expanded, named, rfl⟩ := expandRoot_eq_ok.1 made
  obtain rfl : other = layout := expanded.laid.eq_of_name_eq laid named
  exact ⟨parts, expanded, rfl⟩

/-- A type can be expanded exactly when the objects of all of its collections are of
types of the graph. -/
theorem exists_expanded_iff {catalog : List String}
    (allocated : context.names.Allocated context.graph catalog)
    (laid : LaidOut context.graph context.names layout) :
    (∃ parts, Expanded context layout parts) ↔
      ∀ slot ∈ layout.slots, slot.Known context.graph := by
  constructor
  · intro expands slot member junction placement
    obtain ⟨parts, expanded⟩ := expands
    obtain ⟨part, _, partOf⟩ := exists_result_of_forall₂ expanded.each member
    cases partOf with
    | column other | object other | dropped other =>
        rw [placement] at other
        cases other
    | collection other otherLaid named =>
        obtain rfl : junction = _ := by simpa [placement] using other
        rw [← named]
        exact List.mem_map_of_mem otherLaid.member
  · exact exists_expanded context allocated laid

namespace Expanded

theorem expandRoot (expanded : Expanded context layout parts) :
    Query.expandRoot context layout.type.name =
      .ok ⟨layout.table, ofParts parts⟩ :=
  expandRoot_eq_ok.2 ⟨layout, parts, expanded, rfl, rfl⟩

theorem defineAt_zero (expanded : Expanded context layout parts) :
    defineAt context 0 layout.type = .ok (ofParts parts) :=
  define_one_eq_ok.2 ⟨layout, parts, expanded.laid.made, expanded.each, rfl⟩

theorem cutBelow (expanded : Expanded context layout parts) {document : Document}
    {path : String} {node : Node} {tops : List (String × Node)}
    (shown : (⟨node.definition, document.columns⟩ : Definition) = ofParts parts)
    (queries : document.root.queries =
      tops ++ Node.queryFields path node.definition) :
    CutBelow context layout document path node tops where
  shown := by rw [shown, expanded.defineAt_zero]
  queries := queries
  count := by
    have same : node.definition = (ofParts parts).fields := by rw [← shown]
    rw [queries, List.length_append, same, expanded.length_queryFields]

end Expanded

/-- A definition at the root can be made exactly when the objects of all collections of
its type are of types of the graph. -/
theorem defineAt_isOk {catalog : List String}
    (allocated : context.names.Allocated context.graph catalog)
    (laid : LaidOut context.graph context.names layout) :
    (∃ definition, defineAt context 0 layout.type = .ok definition) ↔
      ∀ slot ∈ layout.slots, slot.Known context.graph := by
  rw [← exists_expanded_iff allocated laid]
  constructor
  · intro made
    obtain ⟨definition, defined⟩ := made
    obtain ⟨parts, expanded, _⟩ := exists_expanded_of_defineAt laid defined
    exact ⟨parts, expanded⟩
  · intro made
    obtain ⟨parts, expanded⟩ := made
    exact ⟨_, expanded.defineAt_zero⟩

theorem entity_cut (laid : LaidOut context.graph context.names layout)
    {document : Document} (made : entity context layout.type.name = .ok document) :
    CutBelow context layout document "" document.root [("", document.root)] := by
  rw [entity_eq_expandRoot, map_eq_ok] at made
  obtain ⟨expansion, found, rfl⟩ := made
  obtain ⟨parts, expanded, rfl⟩ := exists_expanded_of_expandRoot laid found
  exact expanded.cutBelow rfl expanded.entity_queries

theorem page_cut (laid : LaidOut context.graph context.names layout)
    {document : Document} (made : page context layout.type.name = .ok document) :
    ∃ count entry, CutBelow context layout document "/entry" entry
      [("/totalResults", count), ("/entry", entry)] := by
  rw [page_eq_expandRoot, map_eq_ok] at made
  obtain ⟨expansion, found, rfl⟩ := made
  obtain ⟨parts, expanded, rfl⟩ := exists_expanded_of_expandRoot laid found
  exact ⟨_, _, expanded.cutBelow rfl expanded.page_queries⟩

end Query

/-- In a graph that has tables a definition shows all stored properties at the root of
a document, if it can be made, and nothing but columns at any depth below it. So the
document of an object runs its own query and one for each object and each collection
that the type of the object refers to, and a page runs one more for the number of all
objects. -/
theorem documents_cut (graph : TypeGraph) (tablePrefix : String)
    (catalog : List String) (pageSize : UInt32) {type : RecordType}
    (member : type ∈ graph.types) :
    let names := TableNames.allocate graph tablePrefix catalog
    let context : Query.Context := ⟨graph, names, pageSize⟩
    ∃ layout, Layout.of graph names type = .ok layout ∧ layout.type = type ∧
      (∀ depth, 1 ≤ depth → ∃ definition,
        Query.defineAt context depth type = .ok definition ∧
          Query.Cut layout definition) ∧
      ((∃ definition, Query.defineAt context 0 type = .ok definition) ↔
        ∀ slot ∈ layout.slots, slot.Known graph) ∧
      (∀ definition, Query.defineAt context 0 type = .ok definition →
        Query.Spread context layout definition ∧
          (∃ document, Query.entity context type.name = .ok document) ∧
          ∃ document, Query.page context type.name = .ok document) ∧
      (∀ document, Query.entity context type.name = .ok document →
        Query.CutBelow context layout document "" document.root
          [("", document.root)]) ∧
      (∀ document, Query.page context type.name = .ok document →
        ∃ count entry, Query.CutBelow context layout document "/entry" entry
          [("/totalResults", count), ("/entry", entry)]) := by
  intro names context
  have allocated := TableNames.allocate_allocated graph tablePrefix catalog
  obtain ⟨layout, laid, rfl⟩ := allocated.exists_layout member
  refine ⟨layout, laid.made, rfl, ?_, ?_, ?_, ?_, ?_⟩
  · intro depth deep
    refine ⟨Query.flat layout, ?_, Query.flat_cut layout⟩
    rw [Query.defineAt_deep deep]
    exact Query.define_zero_eq_ok.2 ⟨layout, laid.made, rfl⟩
  · exact Query.defineAt_isOk allocated laid
  · intro definition defined
    obtain ⟨parts, expanded, rfl⟩ := Query.exists_expanded_of_defineAt laid defined
    refine ⟨expanded.spread, ?_, ?_⟩
    · rw [Query.entity_eq_expandRoot, expanded.expandRoot]
      exact ⟨_, rfl⟩
    · rw [Query.page_eq_expandRoot, expanded.expandRoot]
      exact ⟨_, rfl⟩
  · intro document made
    exact Query.entity_cut laid made
  · intro document made
    exact Query.page_cut laid made

/-- Two types that refer to each other and to themselves. -/
def cycle : TypeGraph where
  types := [⟨"A", [⟨"label", .scalar .string, none⟩, ⟨"b", .object "B", none⟩,
      ⟨"siblings", .collection .array (.type "A"), none⟩,
      ⟨"lost", .object "C", none⟩]⟩,
    ⟨"B", [⟨"a", .object "A", none⟩,
      ⟨"others", .collection .map (.type "B"), none⟩]⟩]
  names_nodup := by decide

theorem cycle_cut :
    let context : Query.Context := ⟨cycle, TableNames.allocate cycle "app" [], 16⟩
    ∃ type ∈ cycle.types, ∃ layout definition document listing,
      Layout.of cycle context.names type = .ok layout ∧
      (∃ below, Query.defineAt context 1 type = .ok below ∧
        Query.Cut layout below ∧ below.fields.map Prod.fst = ["id", "label"]) ∧
      Query.defineAt context 0 type = .ok definition ∧
      Query.Spread context layout definition ∧
      Query.entity context type.name = .ok document ∧
      document.root.queries.map Prod.fst = ["", "/b", "/siblings"] ∧
      Query.page context type.name = .ok listing ∧
      listing.root.queries.length = 4 := by
  intro context
  have member : cycle.types.head (by decide) ∈ cycle.types := by decide
  have defined : ∃ definition,
      Query.defineAt context 0 (cycle.types.head (by decide)) = .ok definition :=
    ⟨_, rfl⟩
  obtain ⟨definition, defined⟩ := defined
  obtain ⟨layout, made, _, deep, _, root, _, page⟩ :=
    documents_cut cycle "app" [] 16 member
  obtain ⟨below, belowMade, cut⟩ := deep 1 (Nat.le_refl 1)
  obtain ⟨spread, single, many⟩ := root definition defined
  obtain ⟨document, single⟩ := single
  obtain ⟨listing, many⟩ := many
  obtain ⟨count, entry, listed⟩ := page listing many
  refine ⟨_, member, layout, definition, document, listing, made,
    ⟨below, belowMade, cut, ?_⟩, defined, spread, single, ?_, many, ?_⟩
  · cases made
    rw [cut.fields]
    rfl
  · cases single
    decide
  · cases made
    rw [listed.count]
    rfl

end GraphSchema
