import GraphSchema.Proofs.Compilation.Artifacts

/-!
# Lenient compilations

A lenient compilation leaves out what refers to no type of the graph and warns
about it. It fails only for a collection of objects of an unknown type that takes
over the table of a namesake, and then because this type is unknown.
-/

namespace GraphSchema

open Storage

variable {settings : Settings} {graph : TypeGraph} {catalog : List String}
variable {names : TableNames} {layout : Layout} {slot : Slot}

/-- The warning about a property that refers to a type outside the graph. -/
def strayWarning (owner : String) (property : Property) (target : String) :
    Warning :=
  match property.kind with
  | .composite _ _ => .compositeProperty owner property.name
  | _ => .unresolvedReference owner property.name target

theorem mem_unresolved {reference : Reference} :
    reference ∈ graph.unresolved ↔
      ∃ type ∈ graph.types, ∃ property ∈ type.properties,
        reference.target ∈ property.kind.references ∧
          reference.target ∉ graph.names ∧
          reference = ⟨type.name, property.name, reference.target⟩ := by
  simp only [TypeGraph.unresolved, RecordType.references, List.mem_flatMap,
    List.mem_filter, List.mem_map, Bool.not_eq_true', ← Bool.not_eq_true,
    TypeGraph.contains_eq_true]
  constructor
  · rintro ⟨type, member, ⟨property, inside, target, refers, rfl⟩, unknown⟩
    exact ⟨type, member, property, inside, refers, unknown, rfl⟩
  · rintro ⟨type, member, property, inside, refers, unknown, same⟩
    exact ⟨type, member, ⟨property, inside, _, refers, same.symm⟩, unknown⟩

/-- Once there is a schema, nothing else can go wrong. -/
theorem compile_isOk_of_synthesize (lenient : settings.strictReferences = false)
    (succeeds : ∃ synthesis, synthesize graph
      (TableNames.allocate graph settings.tablePrefix catalog) = .ok synthesis) :
    ∃ compilation, compile settings graph catalog = .ok compilation := by
  have allocated :=
    TableNames.allocate_allocated graph settings.tablePrefix catalog
  have known := (synthesize_isOk allocated).1 succeeds
  have each : ∃ types, graph.types.mapM (compileType settings graph
      (TableNames.allocate graph settings.tablePrefix catalog)) = .ok types := by
    apply mapM_isOk.2
    intro type member
    obtain ⟨layout, laid, rfl⟩ := allocated.exists_layout member
    exact compileType_isOk settings allocated laid (known layout laid)
  obtain ⟨synthesis, synthesized⟩ := succeeds
  obtain ⟨types, made⟩ := each
  exact ⟨_, compile_eq_ok.2
    ⟨by simp [lenient], synthesis, types, synthesized, made, rfl⟩⟩

/-- A lenient compilation succeeds exactly when namesakes resolve. -/
theorem lenient_isOk_iff (lenient : settings.strictReferences = false) :
    (∃ compilation, compile settings graph catalog = .ok compilation) ↔
      NamesakesResolve graph := by
  have allocated :=
    TableNames.allocate_allocated graph settings.tablePrefix catalog
  rw [← slots_known_iff allocated]
  constructor
  · rintro ⟨compilation, made⟩
    obtain ⟨_, synthesis, _, synthesized, _, _⟩ := compile_eq_ok.1 made
    exact (synthesize_isOk allocated).1 ⟨synthesis, synthesized⟩
  · intro known
    exact compile_isOk_of_synthesize lenient ((synthesize_isOk allocated).2 known)

/-- A lenient compilation fails with the unknown type that a collection of the
graph refers to. -/
theorem lenient_eq_error (lenient : settings.strictReferences = false)
    {error : CompileError} (failed : compile settings graph catalog = .error error) :
    ∃ reference ∈ graph.unresolved, error = .unknownType reference.target := by
  have allocated :=
    TableNames.allocate_allocated graph settings.tablePrefix catalog
  have unsynthesized : synthesize graph
      (TableNames.allocate graph settings.tablePrefix catalog) = .error error := by
    cases synthesized : synthesize graph
        (TableNames.allocate graph settings.tablePrefix catalog) with
    | error problem =>
        have stopped : compile settings graph catalog = .error problem := by
          simp [compile, lenient, synthesized, bind, Except.bind]
        rw [Except.error.inj (stopped.symm.trans failed)]
    | ok synthesis =>
        obtain ⟨compilation, succeeded⟩ :=
          compile_isOk_of_synthesize lenient ⟨synthesis, synthesized⟩
        rw [succeeded] at failed
        cases failed
  obtain ⟨layout, laid, slot, member, junction, placement, unknown, rfl⟩ :=
    synthesize_eq_error allocated unsynthesized
  refine ⟨⟨layout.type.name, slot.property.name, junction.target⟩, ?_, rfl⟩
  have placed := laid.placed member
  rw [placement] at placed
  cases placed with
  | collection kind found mappingKey =>
      exact mem_unresolved.2 ⟨layout.type, laid.member, slot.property,
        laid.property_mem member, by simp [kind, Kind.references], unknown, rfl⟩

/-- A property that refers to a type outside the graph has a warning, unless it
is stored in the table of a namesake. -/
theorem strayWarning_mem (laid : LaidOut graph names layout)
    (member : slot ∈ layout.slots) (known : slot.Known graph)
    {target : String} (refers : target ∈ slot.property.kind.references)
    (unknown : target ∉ graph.names) :
    strayWarning layout.type.name slot.property target ∈ layout.warnings := by
  refine List.mem_filterMap.2 ⟨slot, member, ?_⟩
  have placed := laid.placed member
  simp only [Slot.warning?, strayWarning]
  simp only [Slot.Known] at known
  generalize slot.placement = stored at placed known
  cases placed with
  | scalar kind | scalars kind => simp [kind, Kind.references] at refers
  | object kind present =>
      obtain rfl : target = _ := by simpa [kind, Kind.references] using refers
      exact absurd present unknown
  | strangeObject kind | strangeCollection kind =>
      obtain rfl : target = _ := by simpa [kind, Kind.references] using refers
      simp [kind]
  | collection kind found mappingKey =>
      obtain rfl : target = _ := by simpa [kind, Kind.references] using refers
      exact absurd (by simpa using known _ rfl) unknown
  | composite kind => simp [kind]

/-- A lenient compilation succeeds exactly when namesakes resolve. It then has a
warning for each reference that leads out of the graph, and otherwise it fails
with the target of such a reference. -/
theorem lenient_compile (settings : Settings) (graph : TypeGraph)
    (catalog : List String) (lenient : settings.strictReferences = false) :
    ((∃ compilation, compile settings graph catalog = .ok compilation) ↔
      NamesakesResolve graph) ∧
    (∀ error, compile settings graph catalog = .error error →
      ∃ reference ∈ graph.unresolved, error = .unknownType reference.target) ∧
    ∀ compilation, compile settings graph catalog = .ok compilation →
      ∀ type ∈ graph.types, ∀ property ∈ type.properties,
        ∀ target ∈ property.kind.references, target ∉ graph.names →
          strayWarning type.name property target ∈ compilation.warnings := by
  refine ⟨lenient_isOk_iff lenient, fun _ => lenient_eq_error lenient, ?_⟩
  intro compilation made type member property owned target refers unknown
  obtain ⟨layouts, relations, compiled⟩ := exists_compiled made
  obtain ⟨layout, laid, rfl⟩ := compiled.allocated.exists_layout member
  obtain ⟨slot, inside, rfl⟩ := laid.exists_slot owned
  have warnings := compiled.synthesized.warnings
  simp only at warnings
  rw [warnings]
  have known := compiled.known laid slot inside
  exact List.mem_flatMap.2 ⟨layout, compiled.synthesized.mem_layouts.2 laid,
    strayWarning_mem laid inside known refers unknown⟩

/-- A type that refers to itself and to types that are not there, with two
properties of one name. -/
def strays : TypeGraph where
  types := [⟨"Person", [⟨"home", .object "House", none⟩,
    ⟨"home", .collection .map (.type "House"), none⟩,
    ⟨"children", .collection .array (.type "Person"), none⟩,
    ⟨"contact", .composite .union ["Person", "Firm"], none⟩]⟩]
  names_nodup := by decide

theorem strays_lenient :
    ∃ compilation, compile {} strays [] = .ok compilation ∧
      NamesakesResolve strays ∧
      .unresolvedReference "Person" "home" "House" ∈ compilation.warnings ∧
      .compositeProperty "Person" "contact" ∈ compilation.warnings := by
  obtain ⟨succeeds, _, warned⟩ := lenient_compile {} strays [] rfl
  have made : ∃ compilation, compile {} strays [] = .ok compilation := ⟨_, rfl⟩
  obtain ⟨compilation, compiled⟩ := made
  have resolve := succeeds.1 ⟨compilation, compiled⟩
  have person := warned compilation compiled _ (List.mem_singleton_self _)
  refine ⟨compilation, compiled, resolve, ?_, ?_⟩
  · exact person ⟨"home", .object "House", none⟩ (by decide) "House"
      (by decide) (by decide)
  · exact person ⟨"contact", .composite .union ["Person", "Firm"], none⟩
      (by decide) "Firm" (by decide) (by decide)

/-- A list of objects of an unknown type, and a namesake that has a table. -/
def takeover : TypeGraph where
  types := [⟨"A", [⟨"x", .collection .array (.type "B"), none⟩,
    ⟨"x", .collection .array (.type "A"), none⟩]⟩]
  names_nodup := by decide

theorem takeover_unknownType :
    compile { strictReferences := false } takeover [] =
      .error (.unknownType "B") := rfl

end GraphSchema
