import GraphSchema.Proofs.Compilation.Leniency
import GraphSchema.Proofs.Compilation.Warnings

/-!
# Strict compilations

A strict compilation is a lenient one after a look at the references of the graph.
If one of them leads out of the graph, the first one is the error. Otherwise every
reference finds its type, so nothing can fail any more, and both compilations make
the same artifacts and warn about the unions and intersections only.
-/

namespace GraphSchema

open Storage

/-- The warnings about the unions and intersections of a graph, in order. -/
def TypeGraph.compositeWarnings (graph : TypeGraph) : List Warning :=
  graph.types.flatMap fun type =>
    (type.properties.filter Property.isComposite).map fun property =>
      .compositeProperty type.name property.name

section

variable {settings : Settings} {graph : TypeGraph} {catalog : List String}
variable {compilation : Compilation}

/-- Where no reference leads out of the graph, each of them names a type. -/
theorem known_of_resolved (resolved : graph.unresolved = []) {type : RecordType}
    (member : type ∈ graph.types) {property : Property}
    (owned : property ∈ type.properties) {target : String}
    (refers : target ∈ property.kind.references) : target ∈ graph.names := by
  by_contra unknown
  have stray : ⟨type.name, property.name, target⟩ ∈ graph.unresolved :=
    mem_unresolved.2 ⟨type, member, property, owned, refers, unknown, rfl⟩
  rw [resolved] at stray
  cases stray

/-- Where no reference leads out of the graph, namesakes resolve. -/
theorem namesakesResolve_of_resolved (resolved : graph.unresolved = []) :
    NamesakesResolve graph := by
  intro type member property owned target held _ _ _ _
  obtain ⟨collection, kind⟩ := heldType?_eq_some.1 held
  exact known_of_resolved resolved member owned (by simp [kind, Kind.references])

/-- Where no reference leads out of the graph, only unions and intersections are
left out. -/
theorem omissions_of_resolved (resolved : graph.unresolved = []) :
    graph.omissions = graph.compositeWarnings := by
  rw [TypeGraph.omissions, TypeGraph.compositeWarnings]
  apply List.flatMap_congr
  intro type member
  rw [← List.filterMap_eq_map, List.filterMap_filter]
  apply List.filterMap_congr
  intro property owned
  have known : ∀ target ∈ property.kind.references, target ∈ graph.names :=
    fun _ => known_of_resolved resolved member owned
  cases kind : property.kind with
  | scalar basic => simp [omission?, Property.isComposite, kind]
  | composite mode targets => simp [omission?, Property.isComposite, kind]
  | object target =>
      have present := known target (by simp [kind, Kind.references])
      simp [omission?, Property.isComposite, kind,
        TypeGraph.contains_eq_true.2 present]
  | collection ordering element =>
      cases element with
      | scalar basic => simp [omission?, Property.isComposite, kind]
      | type target =>
          have present := known target (by simp [kind, Kind.references])
          simp [omission?, Property.isComposite, kind,
            TypeGraph.contains_eq_true.2 present]

/-- A strict compilation makes what a lenient one makes, provided that no reference
leads out of the graph. -/
theorem strict_eq_ok :
    compile { settings with strictReferences := true } graph catalog =
        .ok compilation ↔
      graph.unresolved = [] ∧
        compile { settings with strictReferences := false } graph catalog =
          .ok compilation := by
  rw [compile_eq_ok, compile_eq_ok]
  simp only [forall_const, Bool.false_eq_true, false_implies, true_and]
  rfl

/-- A strict compilation fails at the first reference that leads out of the
graph. -/
theorem strict_eq_error {reference : Reference} {others : List Reference}
    (unresolved : graph.unresolved = reference :: others) :
    compile { settings with strictReferences := true } graph catalog =
      .error (.unresolvedReference reference.owner reference.property
        reference.target) := by
  simp [compile, checkReferences, unresolved, bind, Except.bind]

end

/-- A strict compilation succeeds exactly when no reference leads out of the graph.
Then a lenient one makes the same, with a warning for each union and intersection and
no other. Otherwise the error is the first reference that leads out of the graph. -/
theorem strict_compile (settings : Settings) (graph : TypeGraph)
    (catalog : List String) :
    ((∃ compilation,
        compile { settings with strictReferences := true } graph catalog =
          .ok compilation) ↔ graph.unresolved = []) ∧
    (∀ compilation,
      compile { settings with strictReferences := true } graph catalog =
          .ok compilation →
        compile { settings with strictReferences := false } graph catalog =
            .ok compilation ∧
          compilation.warnings = graph.compositeWarnings) ∧
    ∀ reference others, graph.unresolved = reference :: others →
      compile { settings with strictReferences := true } graph catalog =
        .error (.unresolvedReference reference.owner reference.property
          reference.target) := by
  refine ⟨⟨?_, ?_⟩, ?_, ?_⟩
  · intro succeeds
    obtain ⟨compilation, made⟩ := succeeds
    exact (strict_eq_ok.1 made).1
  · intro resolved
    have succeeds : ∃ compilation,
        compile { settings with strictReferences := false } graph catalog =
          .ok compilation :=
      (lenient_isOk_iff rfl).2 (namesakesResolve_of_resolved resolved)
    obtain ⟨compilation, made⟩ := succeeds
    exact ⟨compilation, strict_eq_ok.2 ⟨resolved, made⟩⟩
  · intro compilation made
    obtain ⟨resolved, lenient⟩ := strict_eq_ok.1 made
    obtain ⟨layouts, relations, compiled⟩ := exists_compiled made
    exact ⟨lenient, compiled.warnings_eq.trans (omissions_of_resolved resolved)⟩
  · intro reference others
    exact strict_eq_error

/-- Types that refer to each other and to themselves, with a union. -/
def circle : TypeGraph where
  types := [⟨"Person", [⟨"partner", .object "Person", none⟩,
      ⟨"teams", .collection .array (.type "Team"), none⟩,
      ⟨"teams", .collection .map (.type "Person"), none⟩,
      ⟨"contact", .composite .union ["Person", "Team"], none⟩]⟩,
    ⟨"Team", [⟨"lead", .object "Person", none⟩]⟩]
  names_nodup := by decide

theorem circle_strict :
    circle.unresolved = [] ∧ ∃ compilation,
      compile { strictReferences := true } circle ["app_team"] = .ok compilation ∧
      compile { strictReferences := false } circle ["app_team"] =
        .ok compilation ∧
      compilation.warnings = [.compositeProperty "Person" "contact"] ∧
      compile { strictReferences := true } orders [] =
        .error (.unresolvedReference "Order" "customer" "Customer") := by
  obtain ⟨succeeds, same, _⟩ := strict_compile {} circle ["app_team"]
  obtain ⟨_, _, fails⟩ := strict_compile {} orders []
  have resolved : circle.unresolved = [] := by decide
  obtain ⟨compilation, made⟩ := succeeds.2 resolved
  obtain ⟨lenient, warnings⟩ := same compilation made
  refine ⟨resolved, compilation, made, lenient, ?_, ?_⟩
  · rw [warnings]
    decide
  · exact fails ⟨"Order", "customer", "Customer"⟩ _ rfl

end GraphSchema
