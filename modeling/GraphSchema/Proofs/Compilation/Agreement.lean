import GraphSchema.Proofs.Compilation.Artifacts

/-!
# Queries and shapes of a type

The query document and the shape document of a type are made apart from each
other, the one from the placements of the slots and the other from the kinds of
the properties. They describe the same objects all the same: apart from unions
and intersections, which are not stored, they have the same fields in the same
order, and what a query fetches for a field has the shape of the field.
-/

namespace GraphSchema

open Query (Node Param Part PartOf Select)
open Relational (ColumnType ForeignKey primaryKey)
open Storage

/-- Whether a property is a union or an intersection. -/
def Property.isComposite (property : Property) : Bool :=
  match property.kind with
  | .composite _ _ => true
  | _ => false

/-- The fields of the unions and intersections of a type. -/
def compositeFields (layout : Layout) : List String :=
  (layout.slots.filter (·.property.isComposite)).map Slot.field

variable {settings : Settings} {graph : TypeGraph} {catalog : List String}
variable {names : TableNames} {compilation : Compilation}
variable {layouts : List Layout} {relations : List (List Relational.Relation)}
variable {layout : Layout} {slot : Slot} {parts : List Part}

/-! ## Fields -/

/-- Distinct fields tell the slots of a layout apart. -/
theorem mem_compositeFields (laid : LaidOut graph names layout)
    (member : slot ∈ layout.slots) :
    slot.field ∈ compositeFields layout ↔ slot.property.isComposite = true := by
  simp only [compositeFields, List.mem_map]
  constructor
  · rintro ⟨other, present, same⟩
    obtain ⟨inside, composite⟩ := List.mem_filter.1 present
    rwa [laid.eq_of_field_eq inside member same] at composite
  · intro composite
    exact ⟨slot, List.mem_filter.2 ⟨member, composite⟩, rfl⟩

theorem primaryKey_not_mem_compositeFields (laid : LaidOut graph names layout) :
    primaryKey ∉ compositeFields layout := by
  intro member
  obtain ⟨slot, present, same⟩ := List.mem_map.1 member
  exact laid.field_ne_primaryKey (List.mem_of_mem_filter present) same

/-- A slot is shown by queries exactly when it has a shape, unions and
intersections apart. -/
theorem shownField?_eq (allocated : names.Allocated graph catalog)
    (laid : LaidOut graph names layout) (member : slot ∈ layout.slots)
    (known : slot.Known graph) :
    Query.shownField? slot =
      if slot.property.isComposite = true then none
      else Shape.shapedField? graph slot := by
  have placed := laid.placed member
  simp only [Query.shownField?, Shape.shapedField?, Property.isComposite]
  simp only [Slot.Known] at known
  generalize slot.placement = stored at placed known
  cases placed with
  | @scalar basic kind column => cases basic <;> simp [kind, Shape.ofProperty?]
  | scalars kind column => simp [kind, Shape.ofProperty?]
  | object kind present column =>
      simp [kind, Shape.ofProperty?, Shape.reference?_eq, present]
  | strangeObject kind unknown =>
      simp [kind, Shape.ofProperty?, Shape.reference?_eq, unknown]
  | @collection collection target table kind found mappingKey =>
      have present : target ∈ graph.names := by simpa using known _ rfl
      simp [kind, Shape.ofProperty?, Shape.reference?_eq, present]
  | @strangeCollection collection target kind missing =>
      have unknown := laid.target_unknown allocated member
        (heldType?_eq_some.2 ⟨collection, kind⟩) missing
      simp [kind, Shape.ofProperty?, Shape.reference?_eq, unknown]
  | composite kind => simp [kind]

/-- The shown fields are those of the fragment without the unions and
intersections. -/
theorem shownFields_eq (allocated : names.Allocated graph catalog)
    (laid : LaidOut graph names layout)
    (known : ∀ slot ∈ layout.slots, slot.Known graph) :
    layout.slots.filterMap Query.shownField? =
      ((Shape.fragment graph layout).properties.map Prod.fst).filter
        (· ∉ compositeFields layout) := by
  rw [Shape.fragment_fields, List.filter_filterMap]
  apply List.filterMap_congr
  intro slot member
  rw [shownField?_eq allocated laid member (known slot member)]
  have composite := mem_compositeFields laid member
  simp only [Shape.shapedField?]
  cases Shape.ofProperty? graph slot.property with
  | none => simp
  | some shape => by_cases mixed : slot.property.isComposite = true <;>
      simp [Option.filter, composite, mixed]

/-! ## Kinds -/

/-- Whether a scalar shape describes the values that a query returns under the
name of a type. -/
inductive Describes : Scalar → Option Format → String → Prop where
  | boolean : Describes .boolean none "boolean"
  | integer : Describes .integer none "integer"
  | number : Describes .number none "number"
  | date : Describes .string (some .date) "date"
  | dateTime : Describes .string (some .dateTime) "datetime"
  | time : Describes .string (some .time) "time"
  | string {format : Option Format}
      (plain : format ∉ [some .date, some .dateTime, some .time]) :
      Describes .string format "string"

theorem ofProperty?_scalar (graph : TypeGraph) {property : Property}
    {basic : Scalar} (kind : property.kind = .scalar basic) :
    ∃ format, Shape.ofProperty? graph property = some (.scalar basic format) ∧
      Describes basic format
        (Query.fieldType (scalarType basic property.format)) := by
  cases basic with
  | boolean => exact ⟨none, by simp [Shape.ofProperty?, kind], .boolean⟩
  | integer => exact ⟨none, by simp [Shape.ofProperty?, kind], .integer⟩
  | number => exact ⟨none, by simp [Shape.ofProperty?, kind], .number⟩
  | string =>
      refine ⟨property.format, by simp [Shape.ofProperty?, kind], ?_⟩
      cases property.format with
      | none => exact .string (by simp)
      | some format =>
          cases format with
          | date => exact .date
          | dateTime => exact .dateTime
          | time => exact .time
          | other name => exact .string (by simp)

/-- Whether a nested query fetches objects of a type: it reads the table of the
type, all fields are fields of the shape of the type, and nothing is below
them. -/
structure Fetches (compilation : Compilation) (target : RecordType)
    (query : Select) (definition : List (String × Node)) : Prop where
  shaped : ∃ artifacts, compilation.artifacts? target.name = some artifacts ∧
    query.table = artifacts.tableName ∧
    definition.map Prod.fst ⊆ artifacts.entityShape.properties.map Prod.fst
  leaves : ∀ entry ∈ definition, entry.2.definition = []

/-- Whether a column of the table of a type is a foreign key to a table. -/
def HasForeignKey (compilation : Compilation) (type column table : String) :
    Prop :=
  ∃ owner, compilation.storage? type = some owner ∧
    ∃ key ∈ owner.foreignKeys, key.columns = [column] ∧ key.referencedTable = table

/-- Whether what is fetched for a field of the objects of a type has a shape. -/
inductive Matches (compilation : Compilation) (graph : TypeGraph)
    (names : TableNames) (type : RecordType) (field : String) :
    Node → Shape → Prop where
  | scalar {column : String} {columnType : ColumnType} {basic : Scalar}
      {format : Option Format}
      (describes : Describes basic format (Query.fieldType columnType)) :
      Matches compilation graph names type field
        (.field column columnType) (.scalar basic format)
  | scalars {column : String} {columnType : ColumnType}
      {ordering : Collection} {basic : Scalar}
      (json : Query.fieldType columnType = "json") :
      Matches compilation graph names type field
        (.field column columnType) (.collection ordering (.scalar basic none))
  | object {column : String} {query : Select}
      {definition : List (String × Node)} {target : RecordType}
      (refers : RefersTo graph names type field target)
      (fetches : Fetches compilation target query definition)
      (key : HasForeignKey compilation type.name column query.table) :
      Matches compilation graph names type field
        (.entity query [(column, .field column)] definition)
        (.reference (referenceName type.name target.name))
  | list {query : Select} {params : List (String × Param)}
      {definition : List (String × Node)} {target : RecordType}
      (refers : RefersTo graph names type field target)
      (fetches : Fetches compilation target query definition) :
      Matches compilation graph names type field
        (.collection query params definition none)
        (.collection .array (.reference (referenceName type.name target.name)))
  | map {query : Select} {params : List (String × Param)}
      {definition : List (String × Node)} {target : RecordType} {key : String}
      (refers : RefersTo graph names type field target)
      (fetches : Fetches compilation target query definition) :
      Matches compilation graph names type field
        (.collection query params definition (some key))
        (.collection .map (.reference (referenceName type.name target.name)))

namespace Made

variable {context : Query.Context} {artifacts : Artifacts}

theorem shapedFields_eq (made : Made context layout parts artifacts) :
    artifacts.entityShape.properties.map Prod.fst =
      primaryKey ::
        (Shape.fragment context.graph layout).properties.map Prod.fst := by
  rw [made.properties, List.map_cons, List.map_map]
  rfl

/-- The lowest level shows fields of the shape only. -/
theorem flat_fields_subset
    (allocated : context.names.Allocated context.graph catalog)
    (made : Made context layout parts artifacts)
    (known : ∀ slot ∈ layout.slots, slot.Known context.graph) :
    (Query.flat layout).fields.map Prod.fst ⊆
      artifacts.entityShape.properties.map Prod.fst := by
  rw [made.shapedFields_eq, Query.flat, List.map_cons]
  apply List.cons_subset_cons _
  intro field member
  obtain ⟨entry, inside, rfl⟩ := List.mem_map.1 member
  obtain ⟨slot, present, found⟩ := List.mem_filterMap.1 inside
  have shown := Query.shownField?_of_flat found
  have shaped : entry.1 ∈ layout.slots.filterMap Query.shownField? :=
    List.mem_filterMap.2 ⟨slot, present, shown⟩
  rw [shownFields_eq allocated made.expanded.laid known] at shaped
  exact List.mem_of_mem_filter shaped

/-- Fields of the shape other than the primary key are those of slots. -/
theorem mem_properties (made : Made context layout parts artifacts)
    {field : String} {shape : Shape}
    (member : (field, shape) ∈ artifacts.entityShape.properties) :
    (field = primaryKey ∧ shape = .integer) ∨
      ∃ slot ∈ layout.slots, ∃ kind,
        Shape.ofProperty? context.graph slot.property = some kind ∧
        slot.field = field ∧
        shape = kind.rename (referenceName layout.type.name) := by
  rw [made.properties] at member
  rcases List.mem_cons.1 member with first | later
  · exact Or.inl (Prod.mk.inj first)
  · obtain ⟨⟨name, kind⟩, present, same⟩ := List.mem_map.1 later
    obtain ⟨rfl, rfl⟩ := Prod.mk.inj same
    obtain ⟨slot, inside, found, named⟩ := Shape.mem_fragment.1 present
    exact Or.inr ⟨slot, inside, kind, found, named, rfl⟩

theorem shapedFields_nodup (made : Made context layout parts artifacts) :
    (artifacts.entityShape.properties.map Prod.fst).Nodup := by
  rw [made.shapedFields_eq, List.nodup_cons]
  refine ⟨?_, Shape.fragment_fields_nodup made.expanded.laid⟩
  intro member
  exact Shape.fragment_field_ne_primaryKey made.expanded.laid member rfl

/-- Unions and intersections apart, queries and shapes have the same fields. -/
theorem fields_agree (allocated : context.names.Allocated context.graph catalog)
    (made : Made context layout parts artifacts)
    (known : ∀ slot ∈ layout.slots, slot.Known context.graph) :
    (Query.ofParts parts).fields.map Prod.fst =
      (artifacts.entityShape.properties.map Prod.fst).filter
        (· ∉ compositeFields layout) := by
  have first := primaryKey_not_mem_compositeFields made.expanded.laid
  rw [made.expanded.fields_eq, made.shapedFields_eq,
    List.filter_cons_of_pos (by simpa using first),
    shownFields_eq allocated made.expanded.laid known]

/-- The shape of a union or an intersection is made of its known types. It is left
out exactly when there are none. -/
theorem lookup_composite (made : Made context layout parts artifacts)
    (member : slot ∈ layout.slots) {mode : Composition} {targets : List String}
    (kind : slot.property.kind = .composite mode targets) :
    artifacts.entityShape.properties.lookup slot.field =
      if ∃ target ∈ targets, target ∈ context.graph.names then
        some (.composite mode ((targets.filter context.graph.contains).map
          fun target => .reference (referenceName layout.type.name target)))
      else none := by
  have shape := Shape.ofProperty?_composite context.graph kind
  have none : targets.filter context.graph.contains = [] ↔
      ¬ ∃ target ∈ targets, target ∈ context.graph.names := by
    simp [List.filter_eq_nil_iff, TypeGraph.contains_eq_true]
  split
  next present =>
    rw [if_neg (fun empty => none.1 empty present)] at shape
    apply lookup_of_mem made.shapedFields_nodup
    rw [made.properties]
    refine List.mem_cons_of_mem _ (List.mem_map.2
      ⟨_, Shape.mem_fragment.2 ⟨slot, member, shape, rfl⟩, ?_⟩)
    simp [Shape.rename, Shape.renameParts_eq_map]
  next absent =>
    rw [if_pos (none.2 absent)] at shape
    rw [List.lookup_eq_none_iff]
    rintro ⟨field, other⟩ inside
    have different : slot.field ≠ field := by
      rintro rfl
      rcases made.mem_properties inside with
        ⟨first, _⟩ | ⟨namesake, present, image, shaped, same, _⟩
      · exact made.expanded.laid.field_ne_primaryKey member first
      · obtain rfl := made.expanded.laid.eq_of_field_eq present member same
        rw [shape] at shaped
        cases shaped
    simpa using different

end Made

namespace Compiled

/-- Below an object, the lowest level of its type is fetched. -/
theorem fetches (compiled :
      Compiled settings graph catalog names compilation layouts relations)
    (laid : LaidOut graph names layout) {query : Select}
    (sameTable : query.table = layout.table) :
    Fetches compilation layout.type query (Query.flat layout).fields := by
  obtain ⟨artifacts, parts, found, made⟩ := compiled.exists_made laid
  have subset :=
    made.flat_fields_subset compiled.allocated (compiled.known laid)
  refine ⟨⟨artifacts, found, ?_, subset⟩, ?_⟩
  · rw [sameTable, made.tableName]
  · intro entry member
    obtain ⟨field, column, type, rfl, _⟩ := Query.mem_flat_fields member
    rfl

/-- An object is fetched by a foreign key. -/
theorem hasForeignKey (compiled :
      Compiled settings graph catalog names compilation layouts relations)
    (laid : LaidOut graph names layout) (member : slot ∈ layout.slots)
    {column target : String} (placement : slot.placement = .foreignKey column target)
    {other : Layout} (otherLaid : LaidOut graph names other)
    (named : other.type.name = target) :
    HasForeignKey compilation layout.type.name column other.table := by
  obtain ⟨table, stored, found, _⟩ := compiled.storage?_eq laid
  have keyed := compiled.synthesized.table?_type compiled.allocated laid
  obtain rfl := Option.some.inj (found.symm.trans keyed)
  exact ⟨_, stored, _, compiled.synthesized.foreignKey_mem laid member placement
    otherLaid named, rfl, rfl⟩

/-- What is fetched for a slot has the shape of its property. -/
theorem part_matches (compiled :
      Compiled settings graph catalog names compilation layouts relations)
    (laid : LaidOut graph names layout) (member : slot ∈ layout.slots)
    {part : Part}
    (partOf : PartOf ⟨graph, names, settings.pageSize⟩ slot part)
    {field : String} {node : Node} (found : part.field = some (field, node))
    {shape : Shape}
    (shaped : Shape.ofProperty? graph slot.property = some shape) :
    Matches compilation graph names layout.type slot.field node
      (shape.rename (referenceName layout.type.name)) := by
  cases partOf with
  | @column column type placement =>
      cases found
      have placed := laid.placed member
      rw [placement] at placed
      cases placed with
      | scalar kind column =>
          obtain ⟨format, made, describes⟩ := ofProperty?_scalar graph kind
          obtain rfl := Option.some.inj (made.symm.trans shaped)
          exact .scalar describes
      | scalars kind column =>
          simp only [Shape.ofProperty?, kind] at shaped
          cases shaped
          exact .scalars rfl
  | @object column target other placement otherLaid named =>
      cases found
      have kind := laid.foreignKey_refers member placement
      simp only [Shape.ofProperty?, kind, Shape.reference?_eq] at shaped
      split at shaped
      next present =>
        cases shaped
        subst named
        refine .object ?_ ?_ ?_
        · exact laid.refersTo member (by simp [kind, Kind.references])
        · exact compiled.fetches otherLaid rfl
        · exact compiled.hasForeignKey laid member placement otherLaid rfl
      next => cases shaped
  | @collection junction other placement otherLaid named =>
      cases found
      have kind := laid.junction_refers member placement
      have keyed := laid.junction_keyColumn member placement
      have refers : RefersTo graph names layout.type slot.field other.type :=
        laid.refersTo member (by simp [kind, named, Kind.references])
      have fetches : ∀ query : Select, query.table = other.table →
          Fetches compilation other.type query (Query.flat other).fields :=
        fun query => compiled.fetches otherLaid
      simp only [Shape.ofProperty?, kind, Shape.reference?_eq] at shaped
      split at shaped
      next present =>
        cases shaped
        rw [← named]
        simp only [Query.collectionNode]
        cases ordering : junction.collection with
        | array =>
            have unkeyed : junction.keyColumn = none := by
              simpa [ordering] using keyed
            rw [unkeyed]
            exact .list refers (fetches _ rfl)
        | map =>
            obtain ⟨key, stored⟩ := Option.isSome_iff_exists.1 (keyed.2 ordering)
            rw [stored]
            exact .map refers (fetches _ rfl)
      next => cases shaped
  | dropped placement => cases found

/-- What is fetched for a field has its shape. -/
theorem node_matches (compiled :
      Compiled settings graph catalog names compilation layouts relations)
    {artifacts : Artifacts}
    (made : Made ⟨graph, names, settings.pageSize⟩ layout parts artifacts)
    {field : String} {node : Node} {shape : Shape}
    (shown : (field, node) ∈ (Query.ofParts parts).fields)
    (shaped : (field, shape) ∈ artifacts.entityShape.properties) :
    Matches compilation graph names layout.type field node shape := by
  have laid : LaidOut graph names layout := made.expanded.laid
  rcases made.expanded.mem_fields shown with
    first | ⟨slot, inside, part, _, partOf, found⟩
  · obtain ⟨rfl, rfl⟩ := Prod.mk.inj first
    rcases made.mem_properties shaped with
      ⟨_, rfl⟩ | ⟨other, present, kind, _, same, _⟩
    · exact .scalar .integer
    · exact absurd same (laid.field_ne_primaryKey present)
  · obtain rfl := partOf.field_name found
    rcases made.mem_properties shaped with
      ⟨first, _⟩ | ⟨other, present, kind, property, same, rfl⟩
    · exact absurd first (laid.field_ne_primaryKey inside)
    · obtain rfl := laid.eq_of_field_eq present inside same
      exact compiled.part_matches laid inside partOf found property

end Compiled

/-- The query document and the shape document of a type describe the same objects. Every
property has a slot of its own, in the order of the properties, and a union or an
intersection has the shape of its known types under the field of its slot. -/
theorem compile_agrees
    (made : compile settings graph catalog = .ok compilation)
    {type : RecordType} (member : type ∈ graph.types) :
    ∃ artifacts layout query params definition,
      compilation.artifacts? type.name = some artifacts ∧
      LaidOut graph (TableNames.allocate graph settings.tablePrefix catalog)
        layout ∧ layout.type = type ∧
      artifacts.entityQuery.root = .entity query params definition ∧
      (artifacts.entityShape.properties.map Prod.fst).Nodup ∧
      definition.map Prod.fst =
        (artifacts.entityShape.properties.map Prod.fst).filter
          (· ∉ compositeFields layout) ∧
      (∀ field node shape, (field, node) ∈ definition →
        (field, shape) ∈ artifacts.entityShape.properties →
        Matches compilation graph
          (TableNames.allocate graph settings.tablePrefix catalog) type field
          node shape) ∧
      List.Forall₂ (fun property slot => slot.property = property ∧
          ∀ mode targets, property.kind = .composite mode targets →
            artifacts.entityShape.properties.lookup slot.field =
              if ∃ target ∈ targets, target ∈ graph.names then
                some (.composite mode ((targets.filter graph.contains).map
                  fun target => .reference (referenceName type.name target)))
              else none)
        type.properties layout.slots := by
  obtain ⟨layouts, relations, compiled⟩ := exists_compiled made
  obtain ⟨layout, laid, rfl⟩ := compiled.allocated.exists_layout member
  obtain ⟨artifacts, parts, found, parted⟩ := compiled.exists_made laid
  refine ⟨artifacts, layout, _, _, (Query.ofParts parts).fields, found, laid, rfl,
    by rw [parted.entityQuery]; rfl, ?_, ?_, ?_, ?_⟩
  · exact parted.shapedFields_nodup
  · exact parted.fields_agree compiled.allocated (compiled.known laid)
  · intro field node shape
    exact compiled.node_matches parted
  · rw [← laid.properties, List.forall₂_map_left_iff, List.forall₂_same]
    intro slot inside
    exact ⟨rfl, fun mode targets kind => parted.lookup_composite inside kind⟩

/-- A type with a date, references to itself and to another type, and a union of a
type that is there and one that is not. -/
def library : TypeGraph where
  types := [⟨"Book", [⟨"published", .scalar .string, some .date⟩,
      ⟨"author", .object "Author", none⟩,
      ⟨"contact", .composite .union ["Author", "Firm"], none⟩,
      ⟨"sequels", .collection .array (.type "Book"), none⟩]⟩,
    ⟨"Author", [⟨"books", .collection .map (.type "Book"), none⟩]⟩]
  names_nodup := by decide

theorem library_agrees :
    ∃ compilation artifacts layout query params definition,
      compile {} library [] = .ok compilation ∧
      compilation.artifacts? "Author" = some artifacts ∧
      artifacts.entityQuery.root = .entity query params definition ∧
      definition.map Prod.fst =
        (artifacts.entityShape.properties.map Prod.fst).filter
          (· ∉ compositeFields layout) ∧
      (∀ field node shape, (field, node) ∈ definition →
        (field, shape) ∈ artifacts.entityShape.properties →
        Matches compilation library (TableNames.allocate library "app" [])
          ⟨"Author", [⟨"books", .collection .map (.type "Book"), none⟩]⟩ field
          node shape) ∧
      ∃ books, ∃ slot : Slot, compilation.artifacts? "Book" = some books ∧
        slot.property = ⟨"contact", .composite .union ["Author", "Firm"], none⟩ ∧
        books.entityShape.properties.lookup slot.field =
          some (.composite .union [.reference (referenceName "Book" "Author")]) := by
  have succeeds : ∃ compilation, compile {} library [] = .ok compilation :=
    ⟨_, rfl⟩
  have author : ⟨"Author", [⟨"books", .collection .map (.type "Book"), none⟩]⟩ ∈
      library.types := by decide
  have book : library.types.head (by decide) ∈ library.types := by decide
  have contact : ⟨"contact", .composite .union ["Author", "Firm"], none⟩ ∈
      (library.types.head (by decide)).properties := by decide
  obtain ⟨compilation, made⟩ := succeeds
  obtain ⟨artifacts, layout, query, params, definition, found, _, _, root, _,
      fields, kinds, _⟩ :=
    compile_agrees made author
  obtain ⟨books, _, _, _, _, stored, _, _, _, _, _, _, composites⟩ :=
    compile_agrees made book
  obtain ⟨slot, _, property, shown⟩ := exists_result_of_forall₂ composites contact
  have shape := shown .union ["Author", "Firm"] rfl
  rw [if_pos (by decide)] at shape
  exact ⟨compilation, artifacts, layout, query, params, definition, made, found,
    root, fields, kinds, books, slot, stored, property, shape⟩

end GraphSchema
