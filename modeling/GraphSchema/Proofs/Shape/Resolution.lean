import GraphSchema.Proofs.Name.Claims
import GraphSchema.Proofs.Success
import GraphSchema.Shape.Document

/-!
# Resolved references

A shape whose references are all known is resolved to the same shape with other
names in the references, and the imports grow by the types that it refers to. A
document therefore has one field for each field of the fragment, and the names of
the fields stay as they are when they are distinct and none of them is the
primary key.
-/

namespace GraphSchema.Shape

open Name (Pool)
open Relational (primaryKey)

mutual

/-- The types that a shape refers to, from left to right. -/
def targets : Shape → List String
  | .scalar _ _ => []
  | .reference target => [target]
  | .collection _ items => items.targets
  | .composite _ parts => partsTargets parts

def partsTargets : List Shape → List String
  | [] => []
  | shape :: rest => shape.targets ++ partsTargets rest

end

mutual

/-- A shape with other names in its references. -/
def rename (name : String → String) : Shape → Shape
  | .scalar basic format => .scalar basic format
  | .reference target => .reference (name target)
  | .collection ordering items => .collection ordering (items.rename name)
  | .composite mode parts => .composite mode (renameParts name parts)

def renameParts (name : String → String) : List Shape → List Shape
  | [] => []
  | shape :: rest => shape.rename name :: renameParts name rest

end

theorem renameParts_eq_map (name : String → String) (parts : List Shape) :
    renameParts name parts = parts.map (rename name) := by
  induction parts with
  | nil => rfl
  | cons shape rest ih => simp [renameParts, ih]

mutual

/-- Only the names of the types that a shape refers to matter. -/
theorem rename_congr {left right : String → String} :
    ∀ shape : Shape, (∀ target ∈ shape.targets, left target = right target) →
      shape.rename left = shape.rename right
  | .scalar _ _, _ => rfl
  | .reference target, same => by
      rw [rename, rename, same target (by simp [targets])]
  | .collection ordering items, same => by
      rw [rename, rename, rename_congr items (by simpa [targets] using same)]
  | .composite mode parts, same => by
      rw [rename, rename, renameParts_congr parts (by simpa [targets] using same)]

theorem renameParts_congr {left right : String → String} :
    ∀ parts : List Shape,
      (∀ target ∈ partsTargets parts, left target = right target) →
      renameParts left parts = renameParts right parts
  | [], _ => rfl
  | shape :: rest, same => by
      simp only [partsTargets, List.forall_mem_append] at same
      rw [renameParts, renameParts, rename_congr shape same.1,
        renameParts_congr rest same.2]

end

namespace Scope

/-- Whether a reference can be resolved. -/
def Knows (scope : Scope) (target : String) : Prop :=
  target = scope.type ∨ (scope.registry.lookup target).isSome = true

/-- The name by which a known type is referred to. -/
def referenceName (scope : Scope) (target : String) : String :=
  if target = scope.type then target
  else importedName target ((scope.registry.lookup target).getD "")

/-- The imports after a reference to a known type. -/
def addImport (scope : Scope) (imports : List (String × String))
    (target : String) : List (String × String) :=
  if target = scope.type ∨ (imports.lookup target).isSome = true then imports
  else imports ++ [(target, (scope.registry.lookup target).getD "")]

theorem resolveTarget_known {scope : Scope} {target : String}
    (known : scope.Knows target) (imports : List (String × String)) :
    (scope.resolveTarget target).run imports =
      .ok (scope.referenceName target, scope.addImport imports target) := by
  by_cases self : target = scope.type
  · simp only [resolveTarget, referenceName, addImport, self, if_true, true_or]
    rfl
  · have registered := known.resolve_left self
    obtain ⟨name, found⟩ := Option.isSome_iff_exists.1 registered
    simp only [resolveTarget, referenceName, addImport, self, found, if_false,
      false_or, Option.getD_some]
    rfl

end Scope

mutual

/-- A shape that refers to known types only can be resolved. -/
theorem resolve_known (scope : Scope) :
    ∀ (shape : Shape) (imports : List (String × String)),
      (∀ target ∈ shape.targets, scope.Knows target) →
      (resolve scope shape).run imports =
        .ok (shape.rename scope.referenceName,
          shape.targets.foldl scope.addImport imports)
  | .scalar basic format, imports, _ => rfl
  | .reference target, imports, known => by
      have single :=
        Scope.resolveTarget_known (known target (by simp [targets])) imports
      rw [resolve, StateT.run_bind, single]
      rfl
  | .collection ordering items, imports, known => by
      have inner := resolve_known scope items imports
        (by simpa [targets] using known)
      rw [resolve, StateT.run_bind, inner]
      rfl
  | .composite mode parts, imports, known => by
      have inner := resolveParts_known scope parts imports
        (by simpa [targets] using known)
      rw [resolve, StateT.run_bind, inner]
      rfl

theorem resolveParts_known (scope : Scope) :
    ∀ (parts : List Shape) (imports : List (String × String)),
      (∀ target ∈ partsTargets parts, scope.Knows target) →
      (resolveParts scope parts).run imports =
        .ok (renameParts scope.referenceName parts,
          (partsTargets parts).foldl scope.addImport imports)
  | [], imports, _ => rfl
  | shape :: rest, imports, known => by
      simp only [partsTargets, List.forall_mem_append] at known
      have first := resolve_known scope shape imports known.1
      have later := resolveParts_known scope rest
        (shape.targets.foldl scope.addImport imports) known.2
      rw [resolveParts, StateT.run_bind, first, ok_bind, StateT.run_bind, later,
        partsTargets, List.foldl_append, renameParts]
      rfl

end

/-- Fields that refer to known types only are resolved one by one. Each has the name
that is claimed for it, and the imports grow from field to field. -/
theorem run_resolveFields {type : String} {registry : Registry}
    {fields : List (String × Shape)} (pool : Pool)
    (known : ∀ field ∈ fields, ∀ target ∈ field.2.targets,
      Scope.Knows ⟨type, registry, field.1⟩ target)
    (imports : List (String × String)) :
    (resolveFields type registry pool fields).run imports =
      .ok ((pool.claimAll (fields.map Prod.fst)).1.zip
          (fields.map fun field =>
            field.2.rename (Scope.referenceName ⟨type, registry, field.1⟩)),
        fields.foldl (fun imports field =>
          field.2.targets.foldl (Scope.addImport ⟨type, registry, field.1⟩) imports)
          imports) := by
  induction fields generalizing pool imports with
  | nil => rfl
  | cons field rest ih =>
      obtain ⟨name, shape⟩ := field
      rw [List.forall_mem_cons] at known
      have first := resolve_known ⟨type, registry, name⟩ shape imports known.1
      rw [resolveFields, StateT.run_bind, first, ok_bind, StateT.run_bind,
        ih _ known.2]
      rfl

/-- Distinct names that are free stay as they are. -/
theorem resolveFields_known (type : String) (registry : Registry) {pool : Pool}
    {fields : List (String × Shape)}
    (known : ∀ field ∈ fields, ∀ target ∈ field.2.targets,
      Scope.Knows ⟨type, registry, field.1⟩ target)
    (distinct : (fields.map Prod.fst).Nodup)
    (free : ∀ name ∈ fields.map Prod.fst, name ∉ pool.used)
    (imports : List (String × String)) :
    ∃ extended, (resolveFields type registry pool fields).run imports =
      .ok (fields.map fun field => (field.1,
        field.2.rename (Scope.referenceName ⟨type, registry, field.1⟩)),
        extended) := by
  have claimed := Pool.claimAll_eq_self.2 ⟨distinct, free⟩
  have resolved := run_resolveFields pool known imports
  rw [claimed, List.zip_map'] at resolved
  exact ⟨_, resolved⟩

end GraphSchema.Shape
