import GraphSchema.Graph.Basic
import GraphSchema.Json.Printer
import GraphSchema.Json.Reading

/-!
# Graph documents

A graph is written as the list of its types, and a property as a record of its
name, its kind and what the kind refers to. A document may leave out what is
absent or empty. Reading turns a property record into a property as soon as the
record is complete, and looks for repeated type names only at the end of the
whole document.
-/

namespace GraphSchema

open Json (Reader Reading ReadError RecordField)

/-- What a property document says beyond the name of the property. -/
structure KindDocument where
  kind : String
  reference : Option String
  references : List String
  deriving DecidableEq, Repr

def Format.read : Reader Format :=
  fun levels draft => (Json.readText levels draft).map Format.ofName

namespace Element

/-- The name that a document gives to an element. -/
def name : Element → String
  | .scalar basic => basic.name
  | .type target => target

/-- The element of a name. The names of scalars are taken for scalars. -/
def ofName (name : String) : Element :=
  match Scalar.ofName? name with
  | some basic => .scalar basic
  | none => .type name

/-- A collection that does not say what it holds, holds texts. -/
def ofReference : Option String → Element
  | none => .scalar .string
  | some name => ofName name

end Element

namespace Kind

/-- How a kind is written. -/
def document (kind : Kind) : KindDocument :=
  match kind with
  | .scalar _ => ⟨kind.name, none, []⟩
  | .object target => ⟨kind.name, some target, []⟩
  | .collection _ element => ⟨kind.name, some element.name, []⟩
  | .composite _ targets => ⟨kind.name, none, targets⟩

/-- The types of a composition: the listed ones, after the single one if it is
not listed. -/
def targets (reference : Option String) (references : List String) :
    List String :=
  match reference with
  | some target =>
      if target ∈ references then references else target :: references
  | none => references

/-- What a kind document stands for. -/
def ofDocument (document : KindDocument) : Except PropertyProblem Kind :=
  match Scalar.ofName? document.kind with
  | some basic => .ok (.scalar basic)
  | none =>
      if document.kind = "object" then
        match document.reference with
        | some target => .ok (.object target)
        | none => .error .objectWithoutReference
      else if document.kind = "array" then
        .ok (.collection .array (.ofReference document.reference))
      else if document.kind = "map" then
        .ok (.collection .map (.ofReference document.reference))
      else if document.kind = "union" then
        composite .union
      else if document.kind = "intersection" then
        composite .intersection
      else
        .error (.unknownKind document.kind)
where
  composite (composition : Composition) : Except PropertyProblem Kind :=
    match targets document.reference document.references with
    | [] => .error .compositeWithoutReferences
    | targets => .ok (.composite composition targets)

end Kind

namespace Property

/-- A property as a document. -/
def toJson (property : Property) : Json :=
  let document := property.kind.document
  .object (
    [("name", .text property.name), ("kind", .text document.kind)] ++
    Json.optional "reference" .text document.reference ++
    (if document.references.isEmpty then []
      else [("references", .texts document.references)]) ++
    Json.optional "format" (fun format => .text format.name) property.format)

/-- What has been read of a property document. -/
structure Record where
  name : Option String := none
  kind : Option String := none
  reference : Option String := none
  references : List String := []
  format : Option Format := none

def fields (levels : Nat) : List (RecordField Record) :=
  [⟨"name", fun draft record => do
      let name ← Json.readText levels draft
      return { record with name := some name }⟩,
    ⟨"kind", fun draft record => do
      let kind ← Json.readText levels draft
      return { record with kind := some kind }⟩,
    ⟨"reference", fun draft record => do
      let reference ← Json.readOptional Json.readText levels draft
      return { record with reference }⟩,
    ⟨"references", fun draft record => do
      let references ← Json.readList Json.readText levels draft
      return { record with references }⟩,
    ⟨"format", fun draft record => do
      let format ← Json.readOptional Format.read levels draft
      return { record with format }⟩]

/-- The property of a complete record. -/
def ofRecord (missing : String → ReadError) (record : Record) :
    Reading Property := do
  let name ← Json.required missing "name" record.name
  let kind ← Json.required missing "kind" record.kind
  match Kind.ofDocument ⟨kind, record.reference, record.references⟩ with
  | .ok kind => return ⟨name, kind, record.format⟩
  | .error problem => throw (.invalid (.invalidProperty name problem))

def read : Reader Property :=
  Json.readRecord {} fields ofRecord

end Property

namespace RecordType

/-- A type as a document. -/
def toJson (type : RecordType) : Json :=
  .object [("name", .text type.name),
    ("properties", .array (type.properties.map Property.toJson))]

/-- What has been read of a type document. -/
structure Record where
  name : Option String := none
  properties : List Property := []

def fields (levels : Nat) : List (RecordField Record) :=
  [⟨"name", fun draft record => do
      let name ← Json.readText levels draft
      return { record with name := some name }⟩,
    ⟨"properties", fun draft record => do
      let properties ← Json.readList Property.read levels draft
      return { record with properties }⟩]

/-- The type of a complete record. -/
def ofRecord (missing : String → ReadError) (record : Record) :
    Reading RecordType := do
  let name ← Json.required missing "name" record.name
  return ⟨name, record.properties⟩

def read : Reader RecordType :=
  Json.readRecord {} fields ofRecord

end RecordType

namespace TypeGraph

/-- A graph as a document. -/
def toJson (graph : TypeGraph) : Json :=
  .object [("types", .array (graph.types.map RecordType.toJson))]

def fields (levels : Nat) : List (RecordField (List RecordType)) :=
  [⟨"types", fun draft _ => Json.readList RecordType.read levels draft⟩]

/-- The graph of the types of a document. -/
def ofRecord (types : List RecordType) : Reading TypeGraph :=
  match ofTypes types with
  | .ok graph => .ok graph
  | .error error => .error (.invalid error)

def read : Reader TypeGraph :=
  Json.readRecord [] fields fun _ => ofRecord

/-- The text of a graph document. -/
def write (graph : TypeGraph) : String :=
  graph.toJson.pretty

/-- Read the text of a graph document. -/
def parse (text : String) : Reading TypeGraph :=
  (Json.Source.ofText text).read read

end TypeGraph

end GraphSchema
