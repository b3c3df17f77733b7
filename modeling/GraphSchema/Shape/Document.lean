import GraphSchema.Shape.Basic

/-!
# Shape documents

A shape document names the shape of the objects of a type and says under which
registered names the shapes of other types are found. Within a document the
type refers to itself by its own name, and to another type by the name of that
type and its registered name. Only what is referred to is imported.
-/

namespace GraphSchema.Shape

open Name (Pool)
open Relational (primaryKey)
open Storage (Layout Slot)

/-- The name under which the shape of a page imports the shape of its objects. -/
def entityAlias : String := "Entity"

/-- A reference to a shape of another document. -/
def importedName (type registered : String) : String :=
  type ++ ":" ++ registered

/-- The registered names of the shapes of types. -/
abbrev Registry := List (String × String)

structure Document where
  /-- The imported types with their registered names, in the order of use. -/
  imports : List (String × String)
  /-- The name of the shape that is defined. -/
  root : String
  /-- The shapes of its fields. -/
  properties : List (String × Shape)

namespace Document

def toJson (document : Document) : Json :=
  let imports : List (String × Json) :=
    if document.imports.isEmpty then []
    else [("import", .object (document.imports.map fun (type, name) =>
      (type, .text name)))]
  let properties := document.properties.map fun (name, shape) =>
    (name, shape.toJson)
  let definition : Json :=
    .object [("type", .text "object"), ("properties", .object properties)]
  .object (imports ++ [("definitions", .object [(document.root, definition)]),
    ("root", .text document.root)])

end Document

/-- A reference to a type of the graph. -/
def reference? (graph : TypeGraph) (target : String) : Option Shape :=
  if graph.contains target then some (.reference target) else none

/-- The shape of a property. What would refer to no type of the graph is left
out, and with it whatever would hold nothing else. -/
def ofProperty? (graph : TypeGraph) (property : Property) : Option Shape :=
  match property.kind with
  | .scalar .string => some (.scalar .string property.format)
  | .scalar basic => some (.scalar basic none)
  | .object target => reference? graph target
  | .collection ordering (.scalar basic) =>
      some (.collection ordering (.scalar basic none))
  | .collection ordering (.type target) =>
      (reference? graph target).map (.collection ordering)
  | .composite mode targets =>
      match targets.filterMap (reference? graph) with
      | [] => none
      | parts => some (.composite mode parts)

/-- The fragment of a type, with the field names of its layout. -/
def fragment (graph : TypeGraph) (layout : Layout) : Fragment where
  properties := layout.slots.filterMap fun slot =>
    (ofProperty? graph slot.property).map fun shape => (slot.field, shape)

/-- Where references are resolved: in a field of a type, against a registry. -/
structure Scope where
  type : String
  registry : Registry
  field : String

/-- A step that may extend the imports. -/
abbrev Resolving := StateT (List (String × String)) (Except CompileError)

/-- The name by which a type is referred to. A type that is not imported yet is
imported. -/
def Scope.resolveTarget (scope : Scope) (target : String) : Resolving String := do
  if target = scope.type then
    return target
  match scope.registry.lookup target with
  | none => throw (.unresolvedReference scope.type scope.field target)
  | some registered =>
      modify fun imports =>
        if (imports.lookup target).isSome then imports
        else imports ++ [(target, registered)]
      return importedName target registered

mutual

/-- A shape with its references resolved, from left to right. -/
def resolve (scope : Scope) : Shape → Resolving Shape
  | .scalar basic format => return .scalar basic format
  | .reference target => return .reference (← scope.resolveTarget target)
  | .collection ordering items =>
      return .collection ordering (← resolve scope items)
  | .composite mode parts => return .composite mode (← resolveParts scope parts)

def resolveParts (scope : Scope) : List Shape → Resolving (List Shape)
  | [] => return []
  | shape :: rest => do
      let shape ← resolve scope shape
      let rest ← resolveParts scope rest
      return shape :: rest

end

/-- The fields of a fragment with their references resolved. A field whose name
is in use is numbered. -/
def resolveFields (type : String) (registry : Registry) (pool : Pool) :
    List (String × Shape) → Resolving (List (String × Shape))
  | [] => return []
  | (field, shape) :: rest => do
      let shape ← resolve ⟨type, registry, field⟩ shape
      let (name, pool) := pool.claim field
      let rest ← resolveFields type registry pool rest
      return (name, shape) :: rest

/-- The document for the objects of a type. The number of the row comes first,
and no field of the fragment takes its name. -/
def entity (type : String) (fragment : Fragment) (registry : Registry) :
    Except CompileError Document := do
  let (properties, imports) ←
    (resolveFields type registry Storage.freshPool fragment.properties).run []
  return ⟨imports, type, (primaryKey, integer) :: properties⟩

/-- The document for a page of objects. -/
def page (collection entity : String) : Document where
  imports := [(entityAlias, entity)]
  root := collection
  properties := [
    ("totalResults", integer),
    ("itemsPerPage", integer),
    ("startIndex", integer),
    ("entry",
      .collection .array (.reference (importedName entityAlias entity)))]

end GraphSchema.Shape
