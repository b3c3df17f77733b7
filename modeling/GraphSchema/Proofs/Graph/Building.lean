import GraphSchema.Proofs.Graph.Lookup
import GraphSchema.Proofs.Success

/-!
# Graphs built type by type

A graph is built by putting one type after the other at its end. That works out exactly
if there is a graph with these types in this order, which is then the only one. Otherwise
it fails at the first type whose name an earlier one has. Types can also be offered to a
graph one by one: those that it takes are its types, and the others leave no trace.
-/

namespace GraphSchema.TypeGraph

/-- A graph is its types. -/
theorem eq_of_types_eq {left right : TypeGraph} (same : left.types = right.types) :
    left = right := by
  cases left
  cases right
  cases same
  rfl

theorem add_eq_ok {graph next : TypeGraph} {type : RecordType} :
    graph.add type = .ok next ↔ next.types = graph.types ++ [type] := by
  unfold add
  split
  next present =>
    refine iff_of_false (by simp) ?_
    intro longer
    have distinct := next.names_nodup
    rw [longer, List.map_append, List.nodup_append] at distinct
    exact distinct.2.2 type.name present type.name (by simp) rfl
  next =>
    simp only [Except.ok.injEq]
    exact ⟨fun same => same ▸ rfl, fun same => eq_of_types_eq same.symm⟩

theorem names_add {graph longer : TypeGraph} {extra : RecordType}
    (added : longer.types = graph.types ++ [extra]) :
    longer.names = graph.names ++ [extra.name] := by
  rw [names, names, added, List.map_append, List.map_singleton]

theorem add_eq_error {graph : TypeGraph} {type : RecordType} {error : CompileError} :
    graph.add type = .error error ↔
      type.name ∈ graph.names ∧ .duplicateType type.name = error := by
  unfold add
  split
  next present => simp [present]
  next absent => simp [absent]

theorem foldlM_add_eq_ok {types : List RecordType} {graph next : TypeGraph} :
    types.foldlM add graph = .ok next ↔ next.types = graph.types ++ types := by
  induction types generalizing graph with
  | nil =>
      rw [List.foldlM_nil, pure_eq_ok, List.append_nil]
      exact ⟨fun same => same ▸ rfl, fun same => eq_of_types_eq same.symm⟩
  | cons type types ih =>
      simp only [List.foldlM_cons, bind_eq_ok, ih, add_eq_ok]
      constructor
      · rintro ⟨longer, grown, rest⟩
        rw [rest, grown, List.append_assoc, List.singleton_append]
      · intro all
        have distinct := next.names_nodup
        rw [all, ← List.singleton_append, ← List.append_assoc, List.map_append,
          List.nodup_append] at distinct
        exact ⟨⟨graph.types ++ [type], distinct.1⟩, rfl, by simp [all]⟩

/-- Building fails at the first name that is in use. -/
theorem foldlM_add_eq_error {types : List RecordType} {graph : TypeGraph}
    {error : CompileError} :
    types.foldlM add graph = .error error ↔
      ∃ before name after, types.map RecordType.name = before ++ name :: after ∧
        (graph.names ++ before).Nodup ∧ name ∈ graph.names ++ before ∧
        .duplicateType name = error := by
  induction types generalizing graph with
  | nil => exact iff_of_false pure_ne_error (by simp)
  | cons type rest ih =>
      simp only [List.foldlM_cons, bind_eq_error, add_eq_error, add_eq_ok, ih,
        List.map_cons]
      constructor
      · rintro (⟨present, rfl⟩ | ⟨next, grown, before, name, after, split, found⟩)
        · have distinct : graph.names.Nodup := graph.names_nodup
          exact ⟨[], type.name, rest.map RecordType.name, rfl, by simpa using distinct,
            by simpa using present, rfl⟩
        · rw [names_add grown, List.append_assoc] at found
          exact ⟨type.name :: before, name, after, by rw [split, List.cons_append], found⟩
      · rintro ⟨before, name, after, split, found⟩
        cases before with
        | nil =>
            obtain ⟨rfl, rfl⟩ := List.cons.inj split
            exact .inl ⟨by simpa using found.2.1, found.2.2⟩
        | cons first before =>
            obtain ⟨rfl, later⟩ := List.cons.inj split
            rw [← List.singleton_append, ← List.append_assoc] at found
            -- The type is taken, as its name is none of the graph's.
            have distinct : ((graph.types ++ [type]).map RecordType.name).Nodup := by
              rw [List.map_append]
              exact found.1.of_append_left
            refine .inr ⟨⟨graph.types ++ [type], distinct⟩, rfl, ?_⟩
            refine ⟨before, name, after, later, ?_⟩
            rw [names_add rfl]
            exact found

theorem ofTypes_eq_ok {types : List RecordType} {graph : TypeGraph} :
    ofTypes types = .ok graph ↔ graph.types = types := by
  rw [ofTypes, foldlM_add_eq_ok]
  rfl

/-- Whether a name is the first one in a list that is there already. -/
def FirstRepeated (names : List String) (name : String) : Prop :=
  ∃ before after, names = before ++ name :: after ∧ before.Nodup ∧ name ∈ before

/-- Types make no graph if a name is repeated, and the first such name is reported. -/
theorem ofTypes_eq_error {types : List RecordType} {error : CompileError} :
    ofTypes types = .error error ↔
      ∃ name, FirstRepeated (types.map RecordType.name) name ∧
        .duplicateType name = error := by
  rw [ofTypes, foldlM_add_eq_error]
  constructor
  · intro refused
    obtain ⟨before, name, after, split, distinct, present, same⟩ := refused
    exact ⟨name, ⟨before, after, split, distinct, present⟩, same⟩
  · intro repeated
    obtain ⟨name, ⟨before, after, split, distinct, present⟩, same⟩ := repeated
    exact ⟨before, name, after, split, distinct, present, same⟩

/-! ## Types that are offered -/

/-- A graph after a type has been offered to it. If the type is refused, it is the same. -/
def offer (graph : TypeGraph) (type : RecordType) : TypeGraph :=
  match graph.add type with
  | .ok next => next
  | .error _ => graph

/-- Those of some types that a graph takes when they are offered one by one. -/
def taken (graph : TypeGraph) : List RecordType → List RecordType
  | [] => []
  | type :: rest =>
      match graph.add type with
      | .ok next => type :: next.taken rest
      | .error _ => graph.taken rest

theorem foldl_offer (graph : TypeGraph) (types : List RecordType) :
    (types.foldl offer graph).types = graph.types ++ graph.taken types := by
  induction types generalizing graph with
  | nil => simp [taken]
  | cons type rest ih =>
      rw [List.foldl_cons, ih, offer, taken]
      cases answer : graph.add type with
      | error => rfl
      | ok next =>
          rw [add_eq_ok.1 answer, List.append_assoc, List.singleton_append]

/-- A name is in use once a type of the name has been offered. -/
theorem mem_names_foldl_offer {graph : TypeGraph} {types : List RecordType}
    {name : String} :
    name ∈ (types.foldl offer graph).names ↔
      name ∈ graph.names ∨ name ∈ types.map RecordType.name := by
  induction types generalizing graph with
  | nil => simp
  | cons type rest ih =>
      rw [List.foldl_cons, ih, offer, List.map_cons, List.mem_cons]
      cases answer : graph.add type with
      | error =>
          have present : name = type.name → name ∈ graph.names :=
            fun same => same ▸ (add_eq_error.1 answer).1
          tauto
      | ok next =>
          simp only [names_add (add_eq_ok.1 answer), List.mem_append, List.mem_singleton,
            or_assoc]

theorem resolve_eq_error {graph : TypeGraph} {name : String} {error : CompileError} :
    graph.resolve name = .error error ↔
      name ∉ graph.names ∧ .unknownType name = error := by
  have missing : graph.find? name = none ↔ name ∉ graph.names := by
    simp [find?, names]
  rw [resolve, ← missing]
  cases graph.find? name <;> simp

/-- What a graph that was empty at first tells of the types that have been offered to it. -/
structure BuiltFrom (types : List RecordType) (graph : TypeGraph) : Prop where
  distinct : graph.names.Nodup
  listed : graph.types = empty.taken types
  named : ∀ name, name ∈ graph.names ↔ name ∈ types.map RecordType.name
  /-- A type is refused exactly if its name is in use, and then nothing changes. -/
  refuses : ∀ type error, graph.add type = .error error ↔
    type.name ∈ graph.names ∧ .duplicateType type.name = error
  unchanged : ∀ type, type.name ∈ graph.names → graph.offer type = graph
  takes : ∀ type, type.name ∉ graph.names →
    (graph.offer type).types = graph.types ++ [type]
  contains : ∀ name, graph.contains name = true ↔
    ∃ type ∈ empty.taken types, type.name = name
  finds : ∀ name type, graph.find? name = some type ↔
    type ∈ empty.taken types ∧ type.name = name
  resolves : ∀ name type, graph.resolve name = .ok type ↔
    type ∈ empty.taken types ∧ type.name = name
  unknown : ∀ name error, graph.resolve name = .error error ↔
    (∀ type ∈ empty.taken types, type.name ≠ name) ∧ .unknownType name = error

theorem builtFrom_foldl_offer (types : List RecordType) :
    BuiltFrom types (types.foldl offer empty) := by
  have listed : (types.foldl offer empty).types = empty.taken types :=
    foldl_offer empty types
  constructor
  case distinct => exact names_nodup _
  case listed => exact listed
  case named =>
    intro name
    rw [mem_names_foldl_offer]
    exact or_iff_right List.not_mem_nil
  case refuses =>
    intro type error
    exact add_eq_error
  case unchanged =>
    intro type present
    rw [offer, add_eq_error.2 ⟨present, rfl⟩]
  case takes =>
    intro type absent
    cases answer : (types.foldl offer empty).add type with
    | error => exact absurd (add_eq_error.1 answer).1 absent
    | ok next => rw [offer, answer, add_eq_ok.1 answer]
  case contains =>
    intro name
    rw [contains_eq_true, names, listed, List.mem_map]
  case finds =>
    intro name type
    rw [find?_eq_some, listed]
  case resolves =>
    intro name type
    rw [resolve_eq_ok, listed]
  case unknown =>
    intro name error
    rw [resolve_eq_error, names, listed]
    simp

end GraphSchema.TypeGraph
