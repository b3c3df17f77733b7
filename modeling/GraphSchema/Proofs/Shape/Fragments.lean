import GraphSchema.Proofs.Graph.Lookup
import GraphSchema.Proofs.Lists
import GraphSchema.Proofs.Shape.Resolution
import GraphSchema.Proofs.Storage.Slots

/-!
# Fragments of a graph

The fragment of a type refers to types of the graph only. Its fields are fields
of the layout in the order of the slots, so they are distinct and none of them is
the primary key.
-/

namespace GraphSchema.Shape

open Relational (primaryKey)
open Storage

variable {graph : TypeGraph} {names : TableNames} {layout : Layout}

theorem reference?_eq (graph : TypeGraph) (target : String) :
    reference? graph target =
      if target ∈ graph.names then some (.reference target) else none := by
  simp only [reference?, TypeGraph.contains_eq_true]

/-- The references to the known ones of some types. -/
theorem filterMap_reference? (graph : TypeGraph) (targets : List String) :
    targets.filterMap (reference? graph) =
      (targets.filter graph.contains).map Shape.reference := by
  induction targets with
  | nil => rfl
  | cons target rest ih =>
      cases known : graph.contains target with
      | false => simp [reference?, known, ih]
      | true => simp [reference?, known, ih]

theorem partsTargets_references (targets : List String) :
    partsTargets (targets.map Shape.reference) = targets := by
  induction targets with
  | nil => rfl
  | cons target rest ih => simp [partsTargets, Shape.targets, ih]

/-- The shape of a union or an intersection is made of its known types. -/
theorem ofProperty?_composite (graph : TypeGraph) {property : Property}
    {mode : Composition} {targets : List String}
    (kind : property.kind = .composite mode targets) :
    ofProperty? graph property =
      if targets.filter graph.contains = [] then none
      else some (.composite mode
        ((targets.filter graph.contains).map Shape.reference)) := by
  simp only [ofProperty?, kind, filterMap_reference?]
  cases targets.filter graph.contains <;> rfl

/-- The shape of a property refers to types of the graph only. -/
theorem ofProperty?_targets {property : Property} {shape : Shape}
    (made : ofProperty? graph property = some shape) :
    ∀ target ∈ shape.targets, target ∈ graph.names := by
  cases kind : property.kind with
  | scalar basic =>
      cases basic <;> simp only [ofProperty?, kind] at made <;> cases made <;>
        simp [targets]
  | object target =>
      simp only [ofProperty?, kind, reference?_eq] at made
      split at made
      next known =>
        cases made
        simpa [targets] using known
      next => cases made
  | collection ordering element =>
      cases element with
      | scalar basic =>
          simp only [ofProperty?, kind] at made
          cases made
          simp [targets]
      | type target =>
          simp only [ofProperty?, kind, reference?_eq] at made
          split at made
          next known =>
            cases made
            simpa [targets] using known
          next => cases made
  | composite mode alternatives =>
      rw [ofProperty?_composite graph kind] at made
      split at made
      next => cases made
      next =>
        cases made
        simp only [targets, partsTargets_references, List.mem_filter,
          TypeGraph.contains_eq_true]
        exact fun target member => member.2

/-- The field of a slot that has a shape. -/
def shapedField? (graph : TypeGraph) (slot : Slot) : Option String :=
  (ofProperty? graph slot.property).map fun _ => slot.field

theorem fragment_fields (graph : TypeGraph) (layout : Layout) :
    (fragment graph layout).properties.map Prod.fst =
      layout.slots.filterMap (shapedField? graph) := by
  rw [fragment, List.map_filterMap]
  apply List.filterMap_congr
  intro slot _
  simp [shapedField?, Function.comp_def]

theorem mem_fragment {field : String} {shape : Shape} :
    (field, shape) ∈ (fragment graph layout).properties ↔
      ∃ slot ∈ layout.slots, ofProperty? graph slot.property = some shape ∧
        slot.field = field := by
  simp [fragment]

theorem fragment_targets {field : String} {shape : Shape}
    (member : (field, shape) ∈ (fragment graph layout).properties) :
    ∀ target ∈ shape.targets, target ∈ graph.names := by
  obtain ⟨slot, _, made, _⟩ := mem_fragment.1 member
  exact ofProperty?_targets made

/-- The fields of a fragment are fields of the layout, in the same order. -/
theorem fragment_fields_sublist (graph : TypeGraph) (layout : Layout) :
    ((fragment graph layout).properties.map Prod.fst).Sublist
      (layout.slots.map Slot.field) := by
  rw [fragment_fields, ← List.filterMap_eq_map]
  apply filterMap_sublist
  intro slot _ field
  simp only [shapedField?, Function.comp_apply]
  cases ofProperty? graph slot.property <;> simp

theorem fragment_fields_nodup (laid : LaidOut graph names layout) :
    ((fragment graph layout).properties.map Prod.fst).Nodup :=
  laid.fields_nodup.sublist (fragment_fields_sublist graph layout)

theorem fragment_field_ne_primaryKey (laid : LaidOut graph names layout)
    {field : String}
    (member : field ∈ (fragment graph layout).properties.map Prod.fst) :
    field ≠ primaryKey := by
  obtain ⟨slot, present, rfl⟩ :=
    List.mem_map.1 ((fragment_fields_sublist graph layout).subset member)
  exact laid.field_ne_primaryKey present

end GraphSchema.Shape
