import GraphSchema.Proofs.Compilation.Agreement

/-!
# Warnings of a compilation

A compilation warns about each property that it leaves out and about nothing else:
about objects and collections of objects of a type that is not in the graph, and
about unions and intersections. The warnings come in the order of the graph. Unions
and intersections apart, the properties with a warning are those without a field in
the queries and shapes of their type.
-/

namespace GraphSchema

open Relational (primaryKey)
open Storage

/-! ## What is left out -/

/-- The warning about a property of a type, if the property is left out. -/
def omission? (graph : TypeGraph) (owner : String) (property : Property) :
    Option Warning :=
  match property.kind with
  | .scalar _ => none
  | .collection _ (.scalar _) => none
  | .object target | .collection _ (.type target) =>
      if graph.contains target then none
      else some (.unresolvedReference owner property.name target)
  | .composite _ _ => some (.compositeProperty owner property.name)

/-- The warnings about the properties of a graph, in order. -/
def TypeGraph.omissions (graph : TypeGraph) : List Warning :=
  graph.types.flatMap fun type =>
    type.properties.filterMap (omission? graph type.name)

/-- A type without its unions and intersections. -/
def RecordType.withoutComposites (type : RecordType) : RecordType :=
  { type with properties := type.properties.filter (!·.isComposite) }

/-- A graph without its unions and intersections. -/
def TypeGraph.withoutComposites (graph : TypeGraph) : TypeGraph where
  types := graph.types.map RecordType.withoutComposites
  names_nodup := by
    rw [List.map_map]
    exact graph.names_nodup

/-- The reference that a warning is about. -/
def Warning.reference? : Warning → Option Reference
  | .unresolvedReference owner property target => some ⟨owner, property, target⟩
  | .compositeProperty _ _ => none

@[simp] theorem TypeGraph.contains_withoutComposites (graph : TypeGraph)
    (name : String) :
    graph.withoutComposites.contains name = graph.contains name := by
  simp [contains, names, withoutComposites, RecordType.withoutComposites,
    Function.comp_def]

/-- A property that is no union or intersection has a warning for each name that it
refers to and that is not in the graph. -/
theorem omission?_references (graph : TypeGraph) (owner : String)
    (property : Property) :
    ((omission? graph owner property).bind Warning.reference?).toList =
      if property.isComposite = true then []
      else (property.kind.references.map fun target =>
        (⟨owner, property.name, target⟩ : Reference)).filter fun reference =>
          !graph.contains reference.target := by
  cases kind : property.kind with
  | scalar basic =>
      simp [omission?, Property.isComposite, kind, Kind.references]
  | composite mode targets =>
      simp [omission?, Property.isComposite, kind, Warning.reference?]
  | object target =>
      cases known : graph.contains target <;>
        simp [omission?, Property.isComposite, kind, Kind.references,
          Warning.reference?, known]
  | collection ordering element =>
      cases element with
      | scalar basic =>
          simp [omission?, Property.isComposite, kind, Kind.references]
      | type target =>
          cases known : graph.contains target <;>
            simp [omission?, Property.isComposite, kind, Kind.references,
              Warning.reference?, known]

/-- The references that are warned about are those that lead out of the graph from
properties other than unions and intersections. -/
theorem omissions_references (graph : TypeGraph) :
    graph.omissions.filterMap Warning.reference? =
      graph.withoutComposites.unresolved := by
  simp only [TypeGraph.omissions, TypeGraph.unresolved,
    TypeGraph.contains_withoutComposites, List.filterMap_flatMap]
  rw [TypeGraph.withoutComposites, List.flatMap_map]
  apply List.flatMap_congr
  intro type _
  rw [List.filterMap_filterMap, List.filterMap_eq_flatMap_toList,
    RecordType.references, RecordType.withoutComposites, List.filter_flatMap]
  simp only [omission?_references]
  induction type.properties with
  | nil => rfl
  | cons property rest ih =>
      cases mixed : property.isComposite <;> simp [mixed, ih]

/-! ## Warnings of layouts -/

section

variable {settings : Settings} {graph : TypeGraph} {catalog : List String}
variable {names : TableNames} {compilation : Compilation}
variable {layouts : List Layout} {relations : List (List Relational.Relation)}
variable {layout : Layout} {slot : Slot}

/-- A slot that is known has the warning about its property. -/
theorem Storage.LaidOut.warning?_eq (allocated : names.Allocated graph catalog)
    (laid : LaidOut graph names layout) (member : slot ∈ layout.slots)
    (known : slot.Known graph) (owner : String) :
    slot.warning? owner = omission? graph owner slot.property := by
  have placed := laid.placed member
  simp only [Slot.warning?, omission?]
  simp only [Slot.Known] at known
  generalize slot.placement = stored at placed known
  cases placed with
  | scalar kind | scalars kind | composite kind => simp [kind]
  | object kind present => simp [kind, TypeGraph.contains_eq_true.2 present]
  | strangeObject kind unknown =>
      simp [kind, TypeGraph.contains_eq_true, unknown]
  | @collection collection target table kind found mappingKey =>
      have present : target ∈ graph.names := by simpa using known _ rfl
      simp [kind, TypeGraph.contains_eq_true.2 present]
  | @strangeCollection collection target kind missing =>
      have unknown := laid.target_unknown allocated member
        (heldType?_eq_some.2 ⟨collection, kind⟩) missing
      simp [kind, TypeGraph.contains_eq_true, unknown]

theorem Storage.LaidOut.warnings_eq (allocated : names.Allocated graph catalog)
    (laid : LaidOut graph names layout)
    (known : ∀ slot ∈ layout.slots, slot.Known graph) :
    layout.warnings =
      layout.type.properties.filterMap (omission? graph layout.type.name) := by
  rw [Layout.warnings, ← laid.properties, List.filterMap_map]
  apply List.filterMap_congr
  intro slot member
  exact laid.warning?_eq allocated member (known slot member) _

/-- The warnings of a compilation are those about what is left out. -/
theorem Compiled.warnings_eq (compiled :
      Compiled settings graph catalog names compilation layouts relations) :
    compilation.warnings = graph.omissions := by
  have warnings := compiled.synthesized.warnings
  simp only at warnings
  rw [warnings, TypeGraph.omissions, ← compiled.synthesized.types,
    List.flatMap_map]
  apply List.flatMap_congr
  intro layout member
  have laid := compiled.synthesized.laid layout member
  exact laid.warnings_eq compiled.allocated (compiled.known laid)

/-! ## Fields of what is left out -/

/-- A slot has a warning exactly when no query shows it. -/
theorem Storage.Slot.warning?_isSome_iff (slot : Slot) (owner : String) :
    (slot.warning? owner).isSome = true ↔ Query.shownField? slot = none := by
  rw [warning?, Query.shownField?]
  cases slot.placement with
  | column | foreignKey | junction => simp
  | dropped reason => cases reason <;> simp

/-- Where slots are listed with their fields, the field of a slot is there exactly
when the slot is listed. -/
theorem Storage.LaidOut.field_not_mem_iff (laid : LaidOut graph names layout)
    (member : slot ∈ layout.slots) {image : Slot → Option String}
    (named : ∀ other field, image other = some field → field = other.field) :
    slot.field ∉ primaryKey :: layout.slots.filterMap image ↔
      image slot = none := by
  rw [List.mem_cons, List.mem_filterMap, not_or]
  constructor
  · intro absent
    cases listed : image slot with
    | none => rfl
    | some field =>
        obtain rfl := named slot field listed
        exact absurd ⟨slot, member, listed⟩ absent.2
  · intro missing
    refine ⟨laid.field_ne_primaryKey member, ?_⟩
    rintro ⟨other, present, listed⟩
    have same := laid.eq_of_field_eq present member (named other _ listed).symm
    rw [same, missing] at listed
    cases listed

/-- Whether the property of a slot has a warning exactly when its field is not in the
query document of its type, and exactly when it is not in the shape document. -/
structure WarnedUnlessShown (graph : TypeGraph) (owner : String)
    (artifacts : Artifacts) (slot : Slot) : Prop where
  queried : (omission? graph owner slot.property).isSome = true ↔
    slot.field ∉ artifacts.entityQuery.root.definition.map Prod.fst
  shaped : (omission? graph owner slot.property).isSome = true ↔
    slot.field ∉ artifacts.entityShape.properties.map Prod.fst

theorem Made.warnedUnlessShown {context : Query.Context}
    {parts : List Query.Part} {artifacts : Artifacts}
    (made : Made context layout parts artifacts)
    (allocated : context.names.Allocated context.graph catalog)
    (member : slot ∈ layout.slots) (known : slot.Known context.graph)
    (plain : slot.property.isComposite = false) (owner : String) :
    WarnedUnlessShown context.graph owner artifacts slot := by
  have laid := made.expanded.laid
  have warned := slot.warning?_isSome_iff owner
  rw [laid.warning?_eq allocated member known] at warned
  have shown := shownField?_eq allocated laid member known
  rw [if_neg (by simp [plain])] at shown
  constructor
  case queried =>
    have queried : artifacts.entityQuery.root.definition =
        (Query.ofParts parts).fields := by rw [made.entityQuery]; rfl
    rw [warned, queried, made.expanded.fields_eq, laid.field_not_mem_iff member]
    intro other field found
    rw [Query.shownField?] at found
    split at found
    · cases found
    · exact (Option.some.inj found).symm
  case shaped =>
    rw [warned, shown, made.shapedFields_eq, Shape.fragment_fields,
      laid.field_not_mem_iff member]
    intro other field found
    obtain ⟨shape, _, same⟩ := Option.map_eq_some_iff.1 found
    exact same.symm

end

/-- A compilation warns about what it leaves out: in the order of the graph, about
each object and each collection of objects whose type is not in the graph, and about
each union and intersection. The references that it warns about are those that lead
out of the graph from other properties than unions and intersections. Such a property
has a warning exactly when the documents of its type do not have its field. -/
theorem compile_warnings {settings : Settings} {graph : TypeGraph}
    {catalog : List String} {compilation : Compilation}
    (made : compile settings graph catalog = .ok compilation) :
    compilation.warnings = graph.omissions ∧
      compilation.warnings.filterMap Warning.reference? =
        graph.withoutComposites.unresolved ∧
      ∀ type ∈ graph.types, ∃ artifacts layout,
        compilation.artifacts? type.name = some artifacts ∧
        LaidOut graph (TableNames.allocate graph settings.tablePrefix catalog)
          layout ∧ layout.type = type ∧
        ∀ slot ∈ layout.slots, slot.property.isComposite = false →
          WarnedUnlessShown graph type.name artifacts slot := by
  obtain ⟨layouts, relations, compiled⟩ := exists_compiled made
  have warnings := compiled.warnings_eq
  refine ⟨warnings, ?_, ?_⟩
  · rw [warnings, omissions_references]
  · intro type member
    obtain ⟨layout, laid, rfl⟩ := compiled.allocated.exists_layout member
    obtain ⟨artifacts, parts, found, parted⟩ := compiled.exists_made laid
    refine ⟨artifacts, layout, found, laid, rfl, ?_⟩
    intro slot inside plain
    exact parted.warnedUnlessShown compiled.allocated inside
      (compiled.known laid slot inside) plain _

/-- A type that refers to types that are not there, with two properties of one name
of which only one is left out. -/
def orders : TypeGraph where
  types := [⟨"Order", [⟨"customer", .object "Customer", none⟩,
      ⟨"customer", .scalar .string, none⟩,
      ⟨"lines", .collection .array (.type "Line"), none⟩,
      ⟨"payment", .composite .union ["Card", "Line"], none⟩,
      ⟨"gifts", .collection .map (.type "Gift"), none⟩]⟩,
    ⟨"Line", [⟨"order", .object "Order", none⟩]⟩]
  names_nodup := by decide

theorem orders_warnings :
    ∃ compilation, compile {} orders [] = .ok compilation ∧
      compilation.warnings =
        [.unresolvedReference "Order" "customer" "Customer",
          .compositeProperty "Order" "payment",
          .unresolvedReference "Order" "gifts" "Gift"] ∧
      orders.withoutComposites.unresolved =
        [⟨"Order", "customer", "Customer"⟩, ⟨"Order", "gifts", "Gift"⟩] ∧
      ∀ type ∈ orders.types, ∃ artifacts layout,
        compilation.artifacts? type.name = some artifacts ∧
        LaidOut orders (TableNames.allocate orders "app" []) layout ∧
        layout.type = type ∧
        ∀ slot ∈ layout.slots, slot.property.isComposite = false →
          WarnedUnlessShown orders type.name artifacts slot := by
  have succeeds : ∃ compilation, compile {} orders [] = .ok compilation := ⟨_, rfl⟩
  obtain ⟨compilation, made⟩ := succeeds
  obtain ⟨warnings, references, shown⟩ := compile_warnings made
  refine ⟨compilation, made, warnings, ?_, shown⟩
  rw [← references, warnings]
  rfl

end GraphSchema
