import GraphSchema.Graph.Document
import GraphSchema.Storage.Layout

/-!
# Shapes

A shape says what the values of a property look like to those who receive an
object. A shape may refer to other shapes by name. A fragment lists the shapes
of the properties of a type, before it is known under which names the shapes of
the other types are registered.
-/

namespace GraphSchema

open Json (Reader Reading ReadError RecordField)

inductive Shape where
  | scalar (scalar : Scalar) (format : Option Format)
  | reference (target : String)
  | collection (collection : Collection) (items : Shape)
  /-- A value of one of the shapes, or of all of them. -/
  | composite (composition : Composition) (parts : List Shape)
  deriving Repr

namespace Shape

/-- The shape of whole numbers. -/
def integer : Shape := .scalar .integer none

mutual

/-- A shape as a document. -/
def toJson : Shape → Json
  | .scalar basic format =>
      .object (("type", .text basic.name) ::
        Json.optional "format" (fun format => .text format.name) format)
  | .reference target => .object [("$ref", .text target)]
  | .collection .array items =>
      .object [("type", .text "array"), ("items", items.toJson)]
  | .collection .map items =>
      .object [("type", .text "object"), ("additionalProperties", items.toJson)]
  | .composite .union parts => .object [("oneOf", .array (partsJson parts))]
  | .composite .intersection parts =>
      .object [("allOf", .array (partsJson parts))]

def partsJson : List Shape → List Json
  | [] => []
  | shape :: rest => shape.toJson :: partsJson rest

end

/-- The fields of a shape document. -/
structure Record where
  type : Option String := none
  format : Option Format := none
  reference : Option String := none
  items : Option Shape := none
  values : Option Shape := none
  oneOf : Option (List Shape) := none
  allOf : Option (List Shape) := none

/-- The fields that a shape is written with. -/
def toRecord : Shape → Record
  | .scalar basic format => { type := some basic.name, format }
  | .reference target => { reference := some target }
  | .collection .array items => { type := some "array", items := some items }
  | .collection .map items => { type := some "object", values := some items }
  | .composite .union parts => { oneOf := some parts }
  | .composite .intersection parts => { allOf := some parts }

/-- The shape that a type describes, together with what the values hold. -/
def ofType (record : Record) : Except CompileError Shape :=
  let type := record.type.getD ""
  let items := if type = "array" then record.items else none
  let values := if type = "object" then record.values else none
  match items, values, Scalar.ofName? type with
  | some items, _, _ => .ok (.collection .array items)
  | none, some values, _ => .ok (.collection .map values)
  | none, none, some basic => .ok (.scalar basic record.format)
  | none, none, none => .error (.invalidProperty type .unsupportedShape)

/-- The shape that some fields describe. A reference comes before the
alternatives, these before the parts, and only then the type counts. -/
def ofRecord (record : Record) : Except CompileError Shape :=
  match record.reference, record.oneOf, record.allOf with
  | some target, _, _ => .ok (.reference target)
  | none, some alternatives, _ => .ok (.composite .union alternatives)
  | none, none, some parts => .ok (.composite .intersection parts)
  | none, none, none => ofType record

/-- The fields of a shape document, given how to read the shapes inside. -/
def fields (read : Reader Shape) (levels : Nat) : List (RecordField Record) :=
  [⟨"type", fun draft record => do
      let type ← Json.readOptional Json.readText levels draft
      return { record with type }⟩,
    ⟨"format", fun draft record => do
      let format ← Json.readOptional Format.read levels draft
      return { record with format }⟩,
    ⟨"$ref", fun draft record => do
      let reference ← Json.readOptional Json.readText levels draft
      return { record with reference }⟩,
    ⟨"items", fun draft record => do
      let items ← Json.readOptional read levels draft
      return { record with items }⟩,
    ⟨"additionalProperties", fun draft record => do
      let values ← Json.readOptional read levels draft
      return { record with values }⟩,
    ⟨"oneOf", fun draft record => do
      let oneOf ← Json.readOptional (Json.readList read) levels draft
      return { record with oneOf }⟩,
    ⟨"allOf", fun draft record => do
      let allOf ← Json.readOptional (Json.readList read) levels draft
      return { record with allOf }⟩]

/-- Read a shape with a bounded number of shapes inside each other. -/
def readWithin : Nat → Reader Shape
  | 0 => Json.readRecord {} (fun _ => []) finish
  | steps + 1 => Json.readRecord {} (fields (readWithin steps)) finish
where
  finish (_ : String → ReadError) (record : Record) : Reading Shape :=
    match ofRecord record with
    | .ok shape => .ok shape
    | .error error => .error (.invalid error)

/-- Read a shape. A shape takes up one level at least, so no more shapes can be
inside each other than there are levels. -/
def read : Reader Shape :=
  fun levels => readWithin levels levels

/-- The text of a shape document. -/
def parse (text : String) : Reading Shape :=
  (Json.Source.ofText text).read read

end Shape

/-- The shapes of the properties of a type, by field. -/
structure Fragment where
  properties : List (String × Shape)

namespace Fragment

def toJson (fragment : Fragment) : Json :=
  .object [("properties", .object (fragment.properties.map fun (name, shape) =>
    (name, shape.toJson)))]

def fields (levels : Nat) : List (RecordField (Option (List (String × Shape)))) :=
  [⟨"properties", fun draft _ =>
      (Json.readMap Shape.read levels draft).map some⟩]

def ofRecord (missing : String → ReadError)
    (properties : Option (List (String × Shape))) : Reading Fragment := do
  return ⟨← Json.required missing "properties" properties⟩

def read : Reader Fragment :=
  Json.readRecord none fields ofRecord

end Fragment

end GraphSchema
