import GraphSchema.Proofs.Name.Claims
import GraphSchema.Proofs.Shape.Resolution
import GraphSchema.Proofs.Storage.Columns
import GraphSchema.Proofs.Success
import Mathlib.Data.List.Induction

/-!
# References of a document

A fragment becomes a document exactly if each of its references is to the type
itself or to a registered one. Otherwise the first reference that is neither is
reported, in the order in which the fragment is written. What a document imports
are the other types that it refers to, each of them once and in the order of its
first reference.
-/

namespace GraphSchema

namespace Fragment

/-- The references of a fragment in reading order, each with its field. -/
def references (fragment : Fragment) : List (String × String) :=
  fragment.properties.flatMap fun (field, shape) =>
    shape.targets.map fun target => (field, target)

end Fragment

namespace Shape

open Name (Pool)
open Relational (primaryKey)

variable {type field target : String} {registry : Registry}

/-- Whether a document of a type can refer to another type, given what is
registered. -/
def Referable (type : String) (registry : Registry) (target : String) : Prop :=
  target = type ∨ target ∈ registry.map Prod.fst

instance (type : String) (registry : Registry) :
    DecidablePred (Referable type registry) :=
  fun _ => inferInstanceAs (Decidable (_ ∨ _))

/-- A shape and the same shape in the document of a type. Only its references are
written in another way: the type itself keeps its name, and another type is named
together with what it is registered as. -/
inductive Rewritten (type : String) (registry : Registry) : Shape → Shape → Prop
  | scalar (basic : Scalar) (format : Option Format) :
      Rewritten type registry (.scalar basic format) (.scalar basic format)
  | own : Rewritten type registry (.reference type) (.reference type)
  | other {target registered : String} (different : target ≠ type)
      (found : registry.lookup target = some registered) :
      Rewritten type registry (.reference target)
        (.reference (importedName target registered))
  | collection (ordering : Collection) {items written : Shape}
      (inside : Rewritten type registry items written) :
      Rewritten type registry (.collection ordering items)
        (.collection ordering written)
  | composite (mode : Composition) {parts written : List Shape}
      (inside : List.Forall₂ (Rewritten type registry) parts written) :
      Rewritten type registry (.composite mode parts) (.composite mode written)

/-! ## One reference -/

theorem isSome_lookup_iff :
    (registry.lookup target).isSome = true ↔ target ∈ registry.map Prod.fst := by
  simp only [List.lookup_isSome_iff, beq_iff_eq, List.mem_map]
  exact exists_congr fun entry => and_congr_right' eq_comm

namespace Scope

theorem knows_iff {scope : Scope} {target : String} :
    scope.Knows target ↔ Referable scope.type scope.registry target := by
  rw [Knows, Referable, isSome_lookup_iff]

theorem resolveTarget_unknown {scope : Scope}
    (unknown : ¬ Referable scope.type scope.registry target)
    (imports : List (String × String)) :
    (scope.resolveTarget target).run imports =
      .error (.unresolvedReference scope.type scope.field target) := by
  rw [Referable, ← isSome_lookup_iff, not_or, Option.not_isSome_iff_eq_none] at unknown
  simp only [resolveTarget, unknown.1, unknown.2, if_false]
  rfl

/-- A reference to a type that is known is written with what is registered. -/
theorem rewritten_reference {scope : Scope}
    (known : Referable scope.type scope.registry target) :
    Rewritten scope.type scope.registry (.reference target)
      (.reference (scope.referenceName target)) := by
  rw [referenceName]
  split
  next self =>
    rw [self]
    exact .own
  next different =>
    have registered := isSome_lookup_iff.2 (known.resolve_left different)
    obtain ⟨name, found⟩ := Option.isSome_iff_exists.1 registered
    rw [found]
    exact .other different found

end Scope

/-! ## Shapes -/

mutual

/-- A shape whose references are known is rewritten when it is resolved. -/
theorem rewritten_rename (scope : Scope) :
    ∀ shape : Shape,
      (∀ target ∈ shape.targets, Referable scope.type scope.registry target) →
      Rewritten scope.type scope.registry shape (shape.rename scope.referenceName)
  | .scalar basic format, _ => .scalar basic format
  | .reference target, known =>
      Scope.rewritten_reference (known target (by simp [targets]))
  | .collection ordering items, known =>
      .collection ordering (rewritten_rename scope items
        (by simpa [targets] using known))
  | .composite mode parts, known =>
      .composite mode (rewritten_renameParts scope parts
        (by simpa [targets] using known))

theorem rewritten_renameParts (scope : Scope) :
    ∀ parts : List Shape,
      (∀ target ∈ partsTargets parts,
        Referable scope.type scope.registry target) →
      List.Forall₂ (Rewritten scope.type scope.registry) parts
        (renameParts scope.referenceName parts)
  | [], _ => .nil
  | shape :: rest, known => by
      simp only [partsTargets, List.forall_mem_append] at known
      exact .cons (rewritten_rename scope shape known.1)
        (rewritten_renameParts scope rest known.2)

end

/-- The first of some targets that cannot be referred to. -/
def firstUnknown? (type : String) (registry : Registry) (targets : List String) :
    Option String :=
  targets.find? fun target => ¬ Referable type registry target

theorem firstUnknown?_eq_none {targets : List String} :
    firstUnknown? type registry targets = none ↔
      ∀ target ∈ targets, Referable type registry target := by
  simp [firstUnknown?]

theorem firstUnknown?_append (first second : List String) :
    firstUnknown? type registry (first ++ second) =
      (firstUnknown? type registry first).or
        (firstUnknown? type registry second) :=
  List.find?_append

mutual

/-- The first reference of a shape that is unknown is reported. -/
theorem resolve_unknown (scope : Scope) {target : String} :
    ∀ (shape : Shape) (imports : List (String × String)),
      firstUnknown? scope.type scope.registry shape.targets = some target →
      (resolve scope shape).run imports =
        .error (.unresolvedReference scope.type scope.field target)
  | .scalar basic format, _, unknown => by cases unknown
  | .reference name, imports, unknown => by
      simp only [firstUnknown?, targets, List.find?_singleton, decide_eq_true_eq,
        Option.ite_none_right_eq_some, Option.some.injEq] at unknown
      obtain ⟨unknown, rfl⟩ := unknown
      rw [resolve, StateT.run_bind, Scope.resolveTarget_unknown unknown]
      rfl
  | .collection ordering items, imports, unknown => by
      rw [resolve, StateT.run_bind, resolve_unknown scope items imports unknown]
      rfl
  | .composite mode parts, imports, unknown => by
      rw [resolve, StateT.run_bind, resolveParts_unknown scope parts imports unknown]
      rfl

theorem resolveParts_unknown (scope : Scope) {target : String} :
    ∀ (parts : List Shape) (imports : List (String × String)),
      firstUnknown? scope.type scope.registry (partsTargets parts) = some target →
      (resolveParts scope parts).run imports =
        .error (.unresolvedReference scope.type scope.field target)
  | [], _, unknown => by cases unknown
  | shape :: rest, imports, unknown => by
      rw [partsTargets, firstUnknown?_append] at unknown
      cases here : firstUnknown? scope.type scope.registry shape.targets with
      | some found =>
          rw [here, Option.some_or] at unknown
          rw [resolveParts, StateT.run_bind,
            resolve_unknown scope shape imports (here.trans unknown)]
          rfl
      | none =>
          rw [here, Option.none_or] at unknown
          have known := firstUnknown?_eq_none.1 here
          have first := resolve_known scope shape imports fun target member =>
            Scope.knows_iff.2 (known target member)
          rw [resolveParts, StateT.run_bind, first, ok_bind, StateT.run_bind,
            resolveParts_unknown scope rest _ unknown]
          rfl

end

/-! ## Imports -/

theorem eraseDups_concat (items : List String) (item : String) :
    (items ++ [item]).eraseDups =
      if item ∈ items then items.eraseDups else items.eraseDups ++ [item] := by
  rw [List.eraseDups_append]
  split
  next old => simp [List.removeAll, old]
  next new => simp [List.removeAll, new, List.eraseDups_cons]

/-- The imports after some references in fields of a type. -/
def importsOf (type : String) (registry : Registry)
    (references : List (String × String)) (imports : List (String × String)) :
    List (String × String) :=
  references.foldl (fun imports (field, target) =>
    Scope.addImport ⟨type, registry, field⟩ imports target) imports

theorem importsOf_append (first second imports : List (String × String)) :
    importsOf type registry (first ++ second) imports =
      importsOf type registry second (importsOf type registry first imports) :=
  List.foldl_append

/-- A reference adds its type to the imports, if that is another type and not
imported yet. -/
theorem Scope.addImport_keys (scope : Scope) (imports : List (String × String))
    (target : String) :
    (scope.addImport imports target).map Prod.fst =
      if target = scope.type ∨ target ∈ imports.map Prod.fst then
        imports.map Prod.fst
      else imports.map Prod.fst ++ [target] := by
  rw [addImport]
  simp only [isSome_lookup_iff]
  split
  · rfl
  · simp

/-- What is imported are the other types, in the order of their first references. -/
theorem importsOf_keys (references : List (String × String)) :
    (importsOf type registry references []).map Prod.fst =
      ((references.map Prod.snd).filter (· ≠ type)).eraseDups := by
  induction references using List.reverseRecOn with
  | nil => rfl
  | append_singleton before reference ih =>
      obtain ⟨field, target⟩ := reference
      have last : importsOf type registry [(field, target)] =
          fun imports => Scope.addImport ⟨type, registry, field⟩ imports target := rfl
      rw [importsOf_append, last, Scope.addImport_keys, ih, List.map_append,
        List.filter_append]
      by_cases self : target = type
      · simp [self]
      · have kept : List.filter (· ≠ type) (List.map Prod.snd [(field, target)]) =
            [target] := by simp [self]
        rw [kept, eraseDups_concat]
        exact if_congr (by simp [self]) rfl rfl

/-- Each import is the name that its type is registered as. -/
theorem importsOf_registered {references imports : List (String × String)}
    (known : ∀ reference ∈ references, Referable type registry reference.2)
    (registered : ∀ entry ∈ imports, registry.lookup entry.1 = some entry.2) :
    ∀ entry ∈ importsOf type registry references imports,
      registry.lookup entry.1 = some entry.2 := by
  induction references generalizing imports with
  | nil => exact registered
  | cons reference rest ih =>
      obtain ⟨field, target⟩ := reference
      rw [List.forall_mem_cons] at known
      refine ih known.2 ?_
      simp only [Scope.addImport]
      split
      · exact registered
      next new =>
        obtain ⟨name, found⟩ := Option.isSome_iff_exists.1
          (isSome_lookup_iff.2 (known.1.resolve_left (not_or.1 new).1))
        rw [List.forall_mem_append, List.forall_mem_singleton]
        exact ⟨registered, by simp [found]⟩

/-! ## Fields -/

theorem references_cons (field : String) (shape : Shape)
    (rest : List (String × Shape)) :
    Fragment.references ⟨(field, shape) :: rest⟩ =
      shape.targets.map (fun target => (field, target)) ++
        Fragment.references ⟨rest⟩ := rfl

/-- Fields whose references are known are resolved, with the imports of their
references. -/
theorem resolveFields_referable {pool : Pool} {fields : List (String × Shape)}
    (known : ∀ reference ∈ Fragment.references ⟨fields⟩,
      Referable type registry reference.2)
    (imports : List (String × String)) :
    (resolveFields type registry pool fields).run imports =
      .ok ((pool.claimAll (fields.map Prod.fst)).1.zip
          (fields.map fun field =>
            field.2.rename (Scope.referenceName ⟨type, registry, field.1⟩)),
        importsOf type registry (Fragment.references ⟨fields⟩) imports) := by
  have eachKnown : ∀ field ∈ fields, ∀ target ∈ field.2.targets,
      Scope.Knows ⟨type, registry, field.1⟩ target := by
    intro field member target inside
    exact Scope.knows_iff.2 (known (field.1, target)
      (List.mem_flatMap.2 ⟨field, member, List.mem_map_of_mem inside⟩))
  rw [run_resolveFields pool eachKnown, importsOf, Fragment.references, List.foldl_flatMap]
  simp only [List.foldl_map]

/-- The first reference of some fields that is unknown is reported. -/
theorem resolveFields_unknown {pool : Pool} {fields : List (String × Shape)}
    (unknown : (Fragment.references ⟨fields⟩).find?
      (fun reference => ¬ Referable type registry reference.2) = some (field, target))
    (imports : List (String × String)) :
    (resolveFields type registry pool fields).run imports =
      .error (.unresolvedReference type field target) := by
  induction fields generalizing pool imports with
  | nil => cases unknown
  | cons head rest ih =>
      obtain ⟨name, shape⟩ := head
      rw [references_cons, List.find?_append, List.find?_map] at unknown
      change ((firstUnknown? type registry shape.targets).map
        fun target => (name, target)).or _ = _ at unknown
      cases here : firstUnknown? type registry shape.targets with
      | some found =>
          rw [here, Option.map_some, Option.some_or, Option.some.injEq,
            Prod.mk.injEq] at unknown
          obtain ⟨rfl, rfl⟩ := unknown
          rw [resolveFields, StateT.run_bind,
            resolve_unknown ⟨type, registry, name⟩ shape imports here]
          rfl
      | none =>
          rw [here, Option.map_none, Option.none_or] at unknown
          have known := firstUnknown?_eq_none.1 here
          have first := resolve_known ⟨type, registry, name⟩ shape imports
            fun target member => Scope.knows_iff.2 (known target member)
          rw [resolveFields, StateT.run_bind, first, ok_bind, StateT.run_bind,
            ih unknown]
          rfl

/-! ## Documents -/

/-- What a document says of a fragment: the number of the row comes first, and then
each field of the fragment with its shape, under names that are distinct. The other
types that the fragment refers to are imported, each once and in the order of their
first references, as what they are registered as. -/
structure Describes (type : String) (registry : Registry) (fragment : Fragment)
    (document : Document) : Prop where
  root : document.root = type
  fields : ∃ fields, document.properties = (primaryKey, integer) :: fields ∧
    List.Forall₂ (fun given made => Rewritten type registry given.2 made.2)
      fragment.properties fields
  distinct : (document.properties.map Prod.fst).Nodup
  imported : document.imports.map Prod.fst =
    ((fragment.references.map Prod.snd).filter (· ≠ type)).eraseDups
  registered : ∀ entry ∈ document.imports, registry.lookup entry.1 = some entry.2

theorem entity_eq (type : String) (fragment : Fragment) (registry : Registry) :
    entity type fragment registry =
      ((resolveFields type registry Storage.freshPool fragment.properties).run []
        >>= fun made =>
          .ok ⟨made.2, type, (primaryKey, integer) :: made.1⟩) := rfl

/-- A fragment whose references are known becomes a document that describes it. -/
theorem entity_referable {fragment : Fragment}
    (known : ∀ reference ∈ fragment.references,
      Referable type registry reference.2) :
    ∃ document, entity type fragment registry = .ok document ∧
      Describes type registry fragment document := by
  obtain ⟨properties⟩ := fragment
  set names := (Storage.freshPool.claimAll (properties.map Prod.fst)).1 with claimed
  set shapes := properties.map fun field =>
    field.2.rename (Scope.referenceName ⟨type, registry, field.1⟩) with renamed
  have count : names.length = shapes.length := by simp [claimed, renamed]
  have made : (resolveFields type registry Storage.freshPool properties).run [] =
      .ok (names.zip shapes, importsOf type registry
        (Fragment.references ⟨properties⟩) []) := resolveFields_referable known []
  rw [entity_eq, made, ok_bind]
  refine ⟨_, rfl, rfl, ⟨_, rfl, ?fields⟩, ?distinct, importsOf_keys _,
    importsOf_registered known (by simp)⟩
  case fields =>
    have rewritten : List.Forall₂
        (fun given made => Rewritten type registry given.2 made) properties shapes := by
      rw [renamed, List.forall₂_map_right_iff, List.forall₂_same]
      intro given member
      refine rewritten_rename ⟨type, registry, given.1⟩ given.2 ?_
      intro target inside
      exact known (given.1, target)
        (List.mem_flatMap.2 ⟨given, member, List.mem_map_of_mem inside⟩)
    rwa [← List.map_snd_zip (Nat.le_of_eq count.symm), List.forall₂_map_right_iff] at rewritten
  case distinct =>
    rw [List.map_cons, List.map_fst_zip (Nat.le_of_eq count), claimed]
    exact Storage.nodup_freshPool_claimAll _

/-- The first reference of a fragment that is unknown is reported. -/
theorem entity_unknown {fragment : Fragment}
    (unknown : fragment.references.find?
      (fun reference => ¬ Referable type registry reference.2) = some (field, target)) :
    entity type fragment registry =
      .error (.unresolvedReference type field target) := by
  obtain ⟨properties⟩ := fragment
  rw [entity_eq, resolveFields_unknown unknown]
  rfl

/-- A fragment becomes a document exactly if all of its references are to the type
itself or to registered types. Otherwise the first one that is not is reported, in
reading order. The document describes the fragment. -/
theorem entity_exact (type : String) (fragment : Fragment) (registry : Registry) :
    ((∃ document, entity type fragment registry = .ok document) ↔
      ∀ reference ∈ fragment.references, Referable type registry reference.2) ∧
    (∀ error, entity type fragment registry = .error error ↔
      ∃ field target, error = .unresolvedReference type field target ∧
        fragment.references.find?
            (fun reference => ¬ Referable type registry reference.2) =
          some (field, target)) ∧
    ∀ document, entity type fragment registry = .ok document →
      Describes type registry fragment document := by
  cases first : fragment.references.find?
      (fun reference => ¬ Referable type registry reference.2) with
  | none =>
      have known : ∀ reference ∈ fragment.references,
          Referable type registry reference.2 := by
        simpa using first
      obtain ⟨document, made, describes⟩ := entity_referable known
      rw [made]
      refine ⟨iff_of_true ⟨document, rfl⟩ known, by simp, ?_⟩
      rintro _ ⟨⟩
      exact describes
  | some reference =>
      obtain ⟨field, target⟩ := reference
      have unknown : ¬ Referable type registry target := by
        simpa using List.find?_some first
      have refused : ¬ ∀ reference ∈ fragment.references,
          Referable type registry reference.2 := fun known =>
        unknown (known (field, target) (List.mem_of_find?_eq_some first))
      rw [entity_unknown first]
      refine ⟨iff_of_false (by simp) refused, ?_, by simp⟩
      intro error
      constructor
      · rintro ⟨⟩
        exact ⟨field, target, rfl, rfl⟩
      · rintro ⟨_, _, rfl, ⟨⟩⟩
        rfl

/-- Fields with references inside each other, one of them named like the primary
key. -/
def profile : Fragment where
  properties := [
    ("id", .scalar .string none),
    ("home", .reference "Location"),
    ("friends", .collection .array (.reference "Human")),
    ("contact", .composite .union [.collection .map (.reference "Email"),
      .composite .intersection [.reference "Location", .reference "Phone"]])]

/-- What is registered when the fragment becomes a document. -/
def contacts : Registry :=
  [("Phone", "Phone_Entity"), ("Location", "Place"), ("Email", "Mail_Entity")]

def profileDocument : Document where
  imports := [("Location", "Place"), ("Email", "Mail_Entity"),
    ("Phone", "Phone_Entity")]
  root := "Human"
  properties := [
    ("id", integer),
    ("id_1", .scalar .string none),
    ("home", .reference "Location:Place"),
    ("friends", .collection .array (.reference "Human")),
    ("contact", .composite .union [
      .collection .map (.reference "Email:Mail_Entity"),
      .composite .intersection [.reference "Location:Place",
        .reference "Phone:Phone_Entity"]])]

theorem profile_described :
    entity "Human" profile contacts = .ok profileDocument ∧
    Describes "Human" contacts profile profileDocument ∧
    entity "Human" profile [("Location", "Place")] =
      .error (.unresolvedReference "Human" "contact" "Email") := by
  have made : entity "Human" profile contacts = .ok profileDocument := rfl
  obtain ⟨-, -, describes⟩ := entity_exact "Human" profile contacts
  obtain ⟨-, reported, -⟩ := entity_exact "Human" profile [("Location", "Place")]
  exact ⟨made, describes profileDocument made,
    (reported _).2 ⟨"contact", "Email", rfl, by decide⟩⟩

end Shape

end GraphSchema
