import GraphSchema.Graph.Basic
import Mathlib.Data.List.Nodup

/-!
# Things found by name

Where names are distinct, a name finds what has it. So a name finds a type of a
graph exactly when it is a name of the graph.
-/

namespace GraphSchema

/-- What is the only one to be accepted is found. -/
theorem find?_eq_some_of_unique {α : Type} {items : List α} {item : α}
    {accept : α → Bool} (member : item ∈ items) (accepted : accept item = true)
    (unique : ∀ other ∈ items, accept other = true → other = item) :
    items.find? accept = some item := by
  cases found : items.find? accept with
  | none =>
      have refused := List.find?_eq_none.1 found item member
      exact absurd accepted refused
  | some other =>
      rw [unique other (List.mem_of_find?_eq_some found) (List.find?_some found)]

/-- Where keys are distinct, a key finds its value. -/
theorem lookup_of_mem {β : Type} {entries : List (String × β)}
    (distinct : (entries.map Prod.fst).Nodup) {key : String} {value : β}
    (member : (key, value) ∈ entries) : entries.lookup key = some value := by
  obtain ⟨before, after, rfl⟩ := List.append_of_mem member
  refine List.lookup_eq_some_iff.2 ⟨before, after, rfl, ?_⟩
  rintro ⟨other, image⟩ earlier
  rw [List.map_append, List.nodup_append] at distinct
  have different : other ≠ key :=
    distinct.2.2 other (List.mem_map_of_mem (f := Prod.fst) earlier) key (by simp)
  simpa using different.symm

namespace TypeGraph

theorem contains_eq_true {graph : TypeGraph} {name : String} :
    graph.contains name = true ↔ name ∈ graph.names := by
  simp [contains]

/-- Types of one name are the same. -/
theorem eq_of_name_eq {graph : TypeGraph} {left right : RecordType}
    (leftMember : left ∈ graph.types) (rightMember : right ∈ graph.types)
    (sameName : left.name = right.name) : left = right :=
  List.inj_on_of_nodup_map graph.names_nodup leftMember rightMember sameName

theorem find?_eq_some {graph : TypeGraph} {name : String}
    {type : RecordType} :
    graph.find? name = some type ↔ type ∈ graph.types ∧ type.name = name := by
  constructor
  · intro found
    exact ⟨List.mem_of_find?_eq_some found, by simpa using List.find?_some found⟩
  · rintro ⟨member, rfl⟩
    apply find?_eq_some_of_unique member (by simp)
    intro other present same
    exact eq_of_name_eq present member (by simpa using same)

theorem resolve_eq_ok {graph : TypeGraph} {name : String}
    {type : RecordType} :
    graph.resolve name = .ok type ↔ type ∈ graph.types ∧ type.name = name := by
  rw [← find?_eq_some]
  simp only [resolve]
  cases graph.find? name <;> simp

end TypeGraph

end GraphSchema
