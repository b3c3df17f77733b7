import GraphSchema.Graph.Document
import GraphSchema.Proofs.Json.Conversions

/-!
# What graph documents contain

A graph document is a list of types with names and properties, and a property is a record
of texts. Whatever the texts are, they can be read and written as they stand, before
anybody asks whether a property can be made of them. Reading a graph is the same as reading
these contents and then converting them, property by property and type by type.
-/

namespace GraphSchema

open Json (Converts ConvertedFields Reader Reading ReadError RecordField)

/-- A property as a document has it. -/
structure PropertyDocument where
  name : String
  kind : KindDocument
  format : Option String
  deriving DecidableEq, Repr

/-- A type as a document has it. -/
structure TypeDocument where
  name : String
  properties : List PropertyDocument
  deriving DecidableEq, Repr

namespace PropertyDocument

structure Record where
  name : Option String := none
  kind : Option String := none
  reference : Option String := none
  references : List String := []
  format : Option String := none

def fields (levels : Nat) : List (RecordField Record) :=
  [⟨"name", fun draft record => do
      let name ← Json.readText levels draft
      return { record with name := some name }⟩,
    ⟨"kind", fun draft record => do
      let kind ← Json.readText levels draft
      return { record with kind := some kind }⟩,
    ⟨"reference", fun draft record => do
      let reference ← Json.readOptional Json.readText levels draft
      return { record with reference }⟩,
    ⟨"references", fun draft record => do
      let references ← Json.readList Json.readText levels draft
      return { record with references }⟩,
    ⟨"format", fun draft record => do
      let format ← Json.readOptional Json.readText levels draft
      return { record with format }⟩]

def ofRecord (missing : String → ReadError) (record : Record) :
    Reading PropertyDocument := do
  let name ← Json.required missing "name" record.name
  let kind ← Json.required missing "kind" record.kind
  return ⟨name, ⟨kind, record.reference, record.references⟩, record.format⟩

def read : Reader PropertyDocument :=
  Json.readRecord {} fields ofRecord

/-- The property that a document stands for. -/
def property (document : PropertyDocument) : Reading Property :=
  match Kind.ofDocument document.kind with
  | .ok kind => .ok ⟨document.name, kind, document.format.map .ofName⟩
  | .error problem => .error (.invalid (.invalidProperty document.name problem))

def toJson (document : PropertyDocument) : Json :=
  .object (
    [("name", .text document.name), ("kind", .text document.kind.kind)] ++
    Json.optional "reference" .text document.kind.reference ++
    (if document.kind.references.isEmpty then []
      else [("references", .texts document.kind.references)]) ++
    Json.optional "format" .text document.format)

/-- A record with a format for its text. -/
def Record.settled (record : Record) : Reading Property.Record :=
  .ok
    { name := record.name
      kind := record.kind
      reference := record.reference
      references := record.references
      format := record.format.map .ofName }

theorem format_converts :
    Converts Json.readText (fun text => .ok (Format.ofName text)) Format.read := by
  intro levels draft text done
  rw [Format.read, done]
  rfl

theorem fields_converted (levels : Nat) :
    ConvertedFields Record.settled "" (fields levels) (Property.fields levels) where
  each := by
    refine .cons ⟨rfl, ?_⟩ (.cons ⟨rfl, ?_⟩ (.cons ⟨rfl, ?_⟩ (.cons ⟨rfl, ?_⟩
      (.cons ⟨rfl, ?format⟩ .nil))))
    case format =>
      intro draft record next image fine done
      cases fine
      obtain ⟨format, read, done⟩ := bind_eq_ok.1 done
      cases done
      exact bind_eq_ok.2 ⟨_, format_converts.readOptional read, rfl⟩
    all_goals
      intro draft record next image fine done
      cases fine
      obtain ⟨value, read, done⟩ := bind_eq_ok.1 done
      cases done
      exact bind_eq_ok.2 ⟨value, read, rfl⟩
  distinct := by
    change ["name", "kind", "reference", "references", "format"].Nodup
    decide
  neutral := by
    intro plain member other draft record next done error
    exact iff_of_false (by simp [Record.settled]) (by simp [Record.settled])

theorem read_converts : Converts read property Property.read := by
  apply Json.readRecord_converts (by rfl) fields_converted
  intro missing record document done
  simp only [ofRecord, bind_eq_ok, pure_eq_ok] at done
  obtain ⟨name, named, kind, kept, rfl⟩ := done
  simp only [Record.settled, ok_bind, Property.ofRecord, named, kept, property]
  cases Kind.ofDocument ⟨kind, record.reference, record.references⟩ <;> rfl

/-- A property document of any contents is read as it stands. -/
theorem read_toJson (levels : Nat) (document : PropertyDocument) :
    read (levels + 2) document.toJson.draft = .ok document := by
  obtain ⟨name, ⟨kind, reference, references⟩, format⟩ := document
  cases reference <;> cases references <;> cases format <;>
    simp [toJson, Json.optional, Json.draft, Json.draftMembers, read, Json.readRecord,
      Json.enter, Json.readMembers, fields, Json.readText, Json.readOptional, ofRecord,
      Json.required, Json.readList_texts, bind, Except.bind, pure, Except.pure, Except.map]

end PropertyDocument

namespace TypeDocument

structure Record where
  name : Option String := none
  properties : List PropertyDocument := []

def fields (levels : Nat) : List (RecordField Record) :=
  [⟨"name", fun draft record => do
      let name ← Json.readText levels draft
      return { record with name := some name }⟩,
    ⟨"properties", fun draft record => do
      let properties ← Json.readList PropertyDocument.read levels draft
      return { record with properties }⟩]

def ofRecord (missing : String → ReadError) (record : Record) :
    Reading TypeDocument := do
  let name ← Json.required missing "name" record.name
  return ⟨name, record.properties⟩

def read : Reader TypeDocument :=
  Json.readRecord {} fields ofRecord

/-- The type that a document stands for. -/
def type (document : TypeDocument) : Reading RecordType := do
  let properties ← document.properties.mapM PropertyDocument.property
  return ⟨document.name, properties⟩

def toJson (document : TypeDocument) : Json :=
  .object [("name", .text document.name),
    ("properties", .array (document.properties.map PropertyDocument.toJson))]

def Record.converted (record : Record) : Reading RecordType.Record := do
  let properties ← record.properties.mapM PropertyDocument.property
  return ⟨record.name, properties⟩

/-- Only a property can make a type fail. -/
theorem fields_converted (levels : Nat) :
    ConvertedFields Record.converted "properties" (fields levels)
      (RecordType.fields levels) where
  each := by
    refine .cons ⟨rfl, ?name⟩ (.cons ⟨rfl, ?properties⟩ .nil)
    case name =>
      intro draft record next image fine done
      obtain ⟨name, read, done⟩ := bind_eq_ok.1 done
      obtain ⟨properties, made, fine⟩ := bind_eq_ok.1 fine
      cases done
      cases fine
      rw [Record.converted, made]
      exact bind_eq_ok.2 ⟨name, read, rfl⟩
    case properties =>
      intro draft record next image fine done
      obtain ⟨properties, read, done⟩ := bind_eq_ok.1 done
      obtain ⟨others, made, fine⟩ := bind_eq_ok.1 fine
      cases done
      cases fine
      have converted := PropertyDocument.read_converts.readList read
      simp only [Record.converted, converted]
  distinct := by
    change ["name", "properties"].Nodup
    decide
  neutral := by
    simp only [fields, List.forall_mem_cons, List.not_mem_nil, false_imp_iff,
      forall_true_iff, and_true]
    refine ⟨?name, ?properties⟩
    case name =>
      intro _ draft record next done error
      obtain ⟨name, read, done⟩ := bind_eq_ok.1 done
      cases done
      simp only [Record.converted]
      cases record.properties.mapM PropertyDocument.property <;>
        simp [bind, Except.bind, pure, Except.pure]
    case properties => simp

theorem read_converts : Converts read type RecordType.read := by
  apply Json.readRecord_converts (by rfl) fields_converted
  intro missing record document done
  simp only [ofRecord, bind_eq_ok, pure_eq_ok] at done
  obtain ⟨name, named, rfl⟩ := done
  simp only [Record.converted, type]
  cases record.properties.mapM PropertyDocument.property with
  | error error => rfl
  | ok properties =>
      change RecordType.ofRecord missing ⟨record.name, properties⟩ = .ok ⟨name, properties⟩
      exact bind_eq_ok.2 ⟨name, named, rfl⟩

/-- A type document of any contents is read as it stands. -/
theorem read_toJson (levels : Nat) (document : TypeDocument) :
    read (levels + 4) document.toJson.draft = .ok document := by
  have inside : Json.readList PropertyDocument.read (levels + 3)
      (Json.array (document.properties.map PropertyDocument.toJson)).draft =
        .ok document.properties := by
    rw [Json.readList_draft, mapM_eq_ok, List.forall₂_same]
    exact fun property _ => property.read_toJson levels
  have record : read (levels + 4) document.toJson.draft =
      Json.readList PropertyDocument.read (levels + 3)
        (Json.array (document.properties.map PropertyDocument.toJson)).draft >>=
          fun properties => .ok ⟨document.name, properties⟩ := by
    simp [toJson, Json.draft, Json.draftMembers, read, Json.readRecord, Json.enter,
      Json.readMembers, fields, Json.readText]
    rfl
  rw [record, inside]
  rfl

end TypeDocument

namespace TypeGraph

def contentFields (levels : Nat) : List (RecordField (List TypeDocument)) :=
  [⟨"types", fun draft _ => Json.readList TypeDocument.read levels draft⟩]

/-- The contents of a graph document. -/
def readContents : Reader (List TypeDocument) :=
  Json.readRecord [] contentFields fun _ documents => .ok documents

/-- The graph that some contents stand for. -/
def ofContents (documents : List TypeDocument) : Reading TypeGraph := do
  let types ← documents.mapM TypeDocument.type
  ofRecord types

/-- Whether a text is a graph document of some contents. -/
def Describes (text : String) (documents : List TypeDocument) : Prop :=
  (Json.Source.ofText text).read readContents = .ok documents

def contentsJson (documents : List TypeDocument) : Json :=
  .object [("types", .array (documents.map TypeDocument.toJson))]

theorem fields_converted (levels : Nat) :
    ConvertedFields (List.mapM TypeDocument.type) "types" (contentFields levels)
      (fields levels) where
  each := by
    refine .cons ⟨rfl, ?_⟩ .nil
    intro draft record next image _ done
    exact TypeDocument.read_converts.readList done
  distinct := by simp [contentFields]
  neutral := by
    intro plain member other
    obtain rfl := List.mem_singleton.1 member
    exact absurd rfl other

theorem read_converts : Converts readContents ofContents read := by
  apply Json.readRecord_converts (by rfl) fields_converted
  intro missing record documents done
  cases done
  rfl

/-- Where a text has contents, reading the graph is converting them. -/
theorem parse_eq_ofContents {text : String} {documents : List TypeDocument}
    (described : Describes text documents) : parse text = ofContents documents :=
  read_converts.source described

/-- All contents have a text. -/
theorem describes_pretty (documents : List TypeDocument) :
    Describes (contentsJson documents).pretty documents := by
  have inside : Json.readList TypeDocument.read 126
      (Json.array (documents.map TypeDocument.toJson)).draft = .ok documents := by
    rw [Json.readList_draft, mapM_eq_ok, List.forall₂_same]
    exact fun document _ => document.read_toJson 121
  have record : readContents 127 (contentsJson documents).draft =
      Json.readList TypeDocument.read 126
        (Json.array (documents.map TypeDocument.toJson)).draft >>= .ok := by
    simp [contentsJson, Json.draft, Json.draftMembers, readContents, Json.readRecord,
      Json.enter, Json.readMembers, contentFields]
    rfl
  rw [Describes, Json.Source.ofText_pretty, Json.Source.read_eq_ok, Json.levelLimit,
    record, inside]
  exact ⟨rfl, rfl⟩

end TypeGraph

end GraphSchema
