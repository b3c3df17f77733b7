import GraphSchema.Graph.Document
import GraphSchema.Proofs.Graph.Building
import GraphSchema.Proofs.Graph.Kinds
import GraphSchema.Proofs.Json.Records

/-!
# Graphs read from their documents

A document does not tell apart a type that is named like a scalar from the scalar, nor
a format that is kept as it is written from the known format of that name. So what is
read of the document of a property is the property in its settled form, where these
two are taken for what the document says. A composition of nothing is written, but not
read.

What has been read is settled already, so it is read again as it is.
-/

namespace GraphSchema

open Json (Draft)

namespace Scalar

theorem ofName?_eq_none {name : String} :
    ofName? name = none ↔ name ∉ ["boolean", "integer", "number", "string"] := by
  unfold ofName?
  split_ifs <;> simp_all

theorem name_of_ofName? {name : String} {scalar : Scalar}
    (found : ofName? name = some scalar) : scalar.name = name := by
  unfold ofName? at found
  split_ifs at found <;> cases found <;> simp_all [Scalar.name]

end Scalar

namespace Format

/-- A format is the one of its name, unless it is kept as it is written and has the
name of a known one. -/
theorem ofName_name_eq_self {format : Format} :
    ofName format.name = format ↔
      ∀ name, format = .other name → name ∉ ["date", "date-time", "time"] := by
  cases format with
  | date | dateTime | time => simp [Format.name, ofName]
  | other name =>
      simp only [Format.name, other.injEq, forall_eq']
      unfold ofName
      split_ifs <;> simp_all

/-- A format that is read is the one of its name. -/
theorem ofName_name_of_read {levels : Nat} {draft : Draft} {format : Format}
    (done : read levels draft = .ok format) : ofName format.name = format := by
  unfold read at done
  cases found : Json.readText levels draft <;> rw [found] at done <;> cases done
  rw [name_ofName]

end Format

namespace Element

@[simp] theorem name_ofName (name : String) : (ofName name).name = name := by
  unfold ofName
  split
  next found => exact Scalar.name_of_ofName? found
  next => rfl

/-- An element is the one of its name, unless it is a type that is named like a
scalar. -/
theorem ofName_name_eq_self {element : Element} :
    ofName element.name = element ↔
      ∀ name, element = .type name →
        name ∉ ["boolean", "integer", "number", "string"] := by
  cases element with
  | scalar basic => simp [Element.name, ofName]
  | type name =>
      simp only [Element.type.injEq, forall_eq', ← Scalar.ofName?_eq_none,
        Element.name, ofName]
      cases Scalar.ofName? name <;> simp

theorem ofName_name_ofReference (reference : Option String) :
    ofName (ofReference reference).name = ofReference reference := by
  cases reference with
  | none => rfl
  | some name => rw [ofReference, name_ofName]

end Element

namespace Kind

/-- A kind as its document says it. -/
def settled : Kind → Kind
  | .collection ordering element => .collection ordering (.ofName element.name)
  | kind => kind

/-- A composition of nothing. -/
def Hollow (kind : Kind) : Prop :=
  ∃ mode, kind = .composite mode []

@[simp] theorem document_settled (kind : Kind) :
    kind.settled.document = kind.document := by
  cases kind <;> simp [settled, document, name]

/-- The document of a kind stands for the settled kind. -/
theorem ofDocument_document {kind : Kind} (full : ¬ kind.Hollow) :
    ofDocument kind.document = .ok kind.settled := by
  cases kind with
  | scalar basic => simp [document, ofDocument, name, settled]
  | object target => rfl
  | collection ordering element => cases ordering <;> rfl
  | composite mode targets =>
      cases targets with
      | nil => exact absurd ⟨mode, rfl⟩ full
      | cons target targets => cases mode <;> rfl

theorem ofDocument_hollow {kind : Kind} (hollow : kind.Hollow) :
    ofDocument kind.document = .error .compositeWithoutReferences := by
  obtain ⟨mode, rfl⟩ := hollow
  cases mode <;> rfl

/-- A kind that a document stands for is settled and holds something. -/
theorem settled_of_ofDocument {document : KindDocument} {kind : Kind}
    (read : ofDocument document = .ok kind) : kind.settled = kind ∧ ¬ kind.Hollow := by
  cases ofDocument_eq_ok.1 read with
  | scalar => exact ⟨rfl, by simp [Hollow]⟩
  | object => exact ⟨rfl, by simp [Hollow]⟩
  | collection => exact ⟨by rw [settled, Element.ofName_name_ofReference], by simp [Hollow]⟩
  | composite full => exact ⟨rfl, by simp [Hollow, full]⟩
  | listed member => exact ⟨rfl, by simp [Hollow, List.ne_nil_of_mem member]⟩
  | separate => exact ⟨rfl, by simp [Hollow]⟩

end Kind

namespace Property

/-- A property as its document says it. -/
def settled (property : Property) : Property where
  name := property.name
  kind := property.kind.settled
  format := property.format.map fun format => .ofName format.name

@[simp] theorem toJson_settled (property : Property) :
    property.settled.toJson = property.toJson := by
  simp only [toJson, settled, Kind.document_settled]
  cases property.format <;> simp [Json.optional]

/-- Neither a collection of a type that is named like a scalar, nor with a format of
its own that is named like a known one. -/
def Unambiguous (property : Property) : Prop :=
  (∀ ordering name, property.kind = .collection ordering (.type name) →
    name ∉ ["boolean", "integer", "number", "string"]) ∧
  ∀ name, property.format = some (.other name) →
    name ∉ ["date", "date-time", "time"]

theorem settled_eq_self {property : Property} :
    property.settled = property ↔ property.Unambiguous := by
  obtain ⟨name, kind, format⟩ := property
  simp only [settled, mk.injEq, true_and, Unambiguous]
  refine and_congr ?kind ?format
  case kind =>
    cases kind with
    | collection ordering element =>
        simp only [Kind.settled, Kind.collection.injEq, true_and,
          Element.ofName_name_eq_self]
        exact ⟨fun free _ name same => free name same.2,
          fun free name same => free ordering name ⟨rfl, same⟩⟩
    | _ => simp [Kind.settled]
  case format =>
    cases format with
    | none => simp
    | some format => simp [Format.ofName_name_eq_self]

/-- A property as a document can say it. -/
structure Documented (property : Property) : Prop where
  unchanged : property.settled = property
  full : ¬ property.kind.Hollow

/-- What is read of the document of a property, member by member. A document has up to
three members beside the name and the kind. -/
theorem read_draft (levels : Nat) (property : Property) :
    read (levels + 2) property.toJson.draft =
      ofRecord .missingField
        { name := property.name
          kind := property.kind.document.kind
          reference := property.kind.document.reference
          references := property.kind.document.references
          format := property.format.map fun format => .ofName format.name } := by
  obtain ⟨name, kind, format⟩ := property
  simp only [toJson]
  generalize kind.document = document
  obtain ⟨kind, reference, references⟩ := document
  cases reference <;> cases references <;> cases format <;>
    simp [Json.optional, Json.draft, Json.draftMembers, read, Json.readRecord,
      Json.enter, Json.readMembers, fields, Json.readText, Json.readOptional,
      Format.read, Json.readList_texts, bind, Except.bind, pure, Except.pure,
      Except.map]

/-- The document of a property is read as the settled property, unless the property
is a composition of nothing. -/
theorem read_toJson {levels : Nat} {property again : Property} :
    read (levels + 2) property.toJson.draft = .ok again ↔
      ¬ property.kind.Hollow ∧ property.settled = again := by
  rw [read_draft, ofRecord, Json.required, Json.required, ok_bind, ok_bind]
  by_cases hollow : property.kind.Hollow
  · rw [Kind.ofDocument_hollow hollow]
    exact iff_of_false (by intro done; cases done) (fun full => full.1 hollow)
  · rw [Kind.ofDocument_document hollow]
    simp only [pure_eq_ok, hollow, not_false_iff, true_and]
    rfl

/-- Every field leaves a record with a format as a document says it. -/
theorem fields_keep (levels : Nat) : ∀ field ∈ fields levels,
    field.Keeps fun record =>
      ∀ format ∈ record.format, Format.ofName format.name = format := by
  simp only [fields, List.forall_mem_cons, List.not_mem_nil, false_imp_iff,
    forall_true_iff, and_true]
  refine ⟨?name, ?kind, ?reference, ?references, ?format⟩
  case format =>
    intro draft record next _ done
    simp only [bind_eq_ok, pure_eq_ok] at done
    obtain ⟨format, read, rfl⟩ := done
    rintro format rfl
    exact Format.ofName_name_of_read (Json.read_of_readOptional read)
  all_goals
    intro draft record next kept done
    simp only [bind_eq_ok, pure_eq_ok] at done
    obtain ⟨value, -, rfl⟩ := done
    exact kept

/-- A property that is read is as a document can say it. -/
theorem documented_of_read {levels : Nat} {draft : Draft} {property : Property}
    (done : read levels draft = .ok property) : property.Documented := by
  obtain ⟨missing, record, known, done⟩ :=
    Json.exists_record_of_readRecord _ (by simp) fields_keep done
  simp only [ofRecord, bind_eq_ok] at done
  obtain ⟨name, -, kind, -, done⟩ := done
  split at done
  next kind found =>
    cases done
    obtain ⟨settled_kind, full⟩ := Kind.settled_of_ofDocument found
    refine ⟨?_, full⟩
    cases given : record.format with
    | none => simp [settled, settled_kind]
    | some format => simp [settled, settled_kind, known format given]
  next => cases done

end Property

namespace RecordType

/-- A type as its document says it. -/
def settled (type : RecordType) : RecordType where
  name := type.name
  properties := type.properties.map Property.settled

@[simp] theorem toJson_settled (type : RecordType) :
    type.settled.toJson = type.toJson := by
  simp [toJson, settled, Function.comp_def]

theorem settled_eq_self {type : RecordType} :
    type.settled = type ↔
      ∀ property ∈ type.properties, property.settled = property := by
  obtain ⟨name, properties⟩ := type
  simp only [settled, mk.injEq, true_and]
  rw [← List.map_inj_left, List.map_id']

theorem read_draft (levels : Nat) (type : RecordType) :
    read (levels + 4) type.toJson.draft =
      (type.properties.mapM fun property =>
        Property.read (levels + 2) property.toJson.draft) >>= fun properties =>
          .ok ⟨type.name, properties⟩ := by
  rw [← Json.readList_draft]
  simp [toJson, Json.draft, Json.draftMembers, read, Json.readRecord, Json.enter,
    Json.readMembers, fields, Json.readText]
  rfl

/-- The document of a type is read as the settled type, unless some property is a
composition of nothing. -/
theorem read_toJson {levels : Nat} {type again : RecordType} :
    read (levels + 4) type.toJson.draft = .ok again ↔
      (∀ property ∈ type.properties, ¬ property.kind.Hollow) ∧
        type.settled = again := by
  simp only [read_draft, bind_eq_ok, Except.ok.injEq,
    mapM_eq_ok_map fun _ _ => Property.read_toJson]
  constructor
  · rintro ⟨_, ⟨full, rfl⟩, same⟩
    exact ⟨full, same⟩
  · rintro ⟨full, same⟩
    exact ⟨_, ⟨full, rfl⟩, same⟩

theorem fields_keep (levels : Nat) : ∀ field ∈ fields levels,
    field.Keeps fun record =>
      ∀ property ∈ record.properties, property.Documented := by
  simp only [fields, List.forall_mem_cons, List.not_mem_nil, false_imp_iff,
    forall_true_iff, and_true]
  refine ⟨?name, ?properties⟩
  case name =>
    intro draft record next kept done
    simp only [bind_eq_ok, pure_eq_ok] at done
    obtain ⟨name, -, rfl⟩ := done
    exact kept
  case properties =>
    intro draft record next _ done
    simp only [bind_eq_ok, pure_eq_ok] at done
    obtain ⟨properties, read, rfl⟩ := done
    intro property member
    obtain ⟨_, _, read⟩ := Json.forall_readList read property member
    exact Property.documented_of_read read

theorem documented_of_read {levels : Nat} {draft : Draft} {type : RecordType}
    (done : read levels draft = .ok type) :
    ∀ property ∈ type.properties, property.Documented := by
  obtain ⟨missing, record, kept, done⟩ :=
    Json.exists_record_of_readRecord _ (by simp) fields_keep done
  simp only [ofRecord, bind_eq_ok, pure_eq_ok] at done
  obtain ⟨name, -, rfl⟩ := done
  exact kept

end RecordType

namespace TypeGraph

/-- A graph as its document says it. -/
def settled (graph : TypeGraph) : TypeGraph where
  types := graph.types.map RecordType.settled
  names_nodup := by
    rw [List.map_map]
    exact graph.names_nodup

theorem write_settled (graph : TypeGraph) : graph.settled.write = graph.write := by
  simp [write, toJson, settled, Function.comp_def]

theorem settled_eq_self {graph : TypeGraph} :
    graph.settled = graph ↔
      ∀ type ∈ graph.types, ∀ property ∈ type.properties,
        property.settled = property := by
  simp only [← RecordType.settled_eq_self]
  rw [← List.map_inj_left, List.map_id']
  exact ⟨fun same => congrArg types same, fun same => eq_of_types_eq same⟩

theorem fields_keep (levels : Nat) : ∀ field ∈ fields levels,
    field.Keeps fun types =>
      ∀ type ∈ types, ∀ property ∈ type.properties, property.Documented := by
  simp only [fields, List.forall_mem_singleton]
  intro draft _ types _ done type member
  obtain ⟨_, _, read⟩ := Json.forall_readList done type member
  exact RecordType.documented_of_read read

theorem ofRecord_eq_ok {types : List RecordType} {graph : TypeGraph} :
    ofRecord types = .ok graph ↔ graph.types = types := by
  rw [← ofTypes_eq_ok, ofRecord]
  cases ofTypes types <;> simp

theorem read_draft (levels : Nat) (graph : TypeGraph) :
    read (levels + 6) graph.toJson.draft =
      (graph.types.mapM fun type =>
        RecordType.read (levels + 4) type.toJson.draft) >>= ofRecord := by
  rw [← Json.readList_draft]
  simp [toJson, Json.draft, Json.draftMembers, read, Json.readRecord, Json.enter,
    Json.readMembers, fields]
  rfl

/-- The text of a graph is read as the settled graph, unless some property is a
composition of nothing. -/
theorem parse_write_eq_ok {graph again : TypeGraph} :
    parse graph.write = .ok again ↔
      (∀ type ∈ graph.types, ∀ property ∈ type.properties, ¬ property.kind.Hollow) ∧
        graph.settled = again := by
  rw [parse, Json.Source.read_eq_ok, write, Json.Source.ofText_pretty,
    show Json.levelLimit = 121 + 6 from rfl]
  simp only [and_true, read_draft, bind_eq_ok, ofRecord_eq_ok,
    mapM_eq_ok_map fun _ _ => RecordType.read_toJson]
  constructor
  · rintro ⟨_, ⟨full, rfl⟩, same⟩
    exact ⟨full, eq_of_types_eq same.symm⟩
  · rintro ⟨full, rfl⟩
    exact ⟨_, ⟨full, rfl⟩, rfl⟩

/-- The properties of a graph that is read are as a document can say them. -/
theorem documented_of_parse {text : String} {graph : TypeGraph}
    (done : parse text = .ok graph) :
    ∀ type ∈ graph.types, ∀ property ∈ type.properties, property.Documented := by
  obtain ⟨_, types, kept, done⟩ :=
    Json.exists_record_of_readRecord _ (by simp) fields_keep
      (Json.Source.read_eq_ok.1 done).1
  rw [ofRecord_eq_ok] at done
  exact done ▸ kept

/-- The names of the types and of their properties, in order. -/
def outline (graph : TypeGraph) : List (String × List String) :=
  graph.types.map fun type => (type.name, type.properties.map Property.name)

theorem outline_settled (graph : TypeGraph) :
    graph.settled.outline = graph.outline := by
  simp [outline, settled, RecordType.settled, Property.settled, Function.comp_def]

/-- Reading what is written of a graph fails exactly for a composition of nothing.
Otherwise it gives a graph of the same document and of the same names in the same
order, and the graph itself exactly if the document of no property can be taken for
that of another one. A graph that has been read is such a graph. -/
theorem parse_write (graph : TypeGraph) :
    ((∃ error, parse graph.write = .error error) ↔
      ∃ type ∈ graph.types, ∃ property ∈ type.properties, property.kind.Hollow) ∧
    (∀ again, parse graph.write = .ok again →
      again.write = graph.write ∧ again.outline = graph.outline ∧
      (again = graph ↔
        ∀ type ∈ graph.types, ∀ property ∈ type.properties,
          property.Unambiguous)) ∧
    ∀ text, parse text = .ok graph → parse graph.write = .ok graph := by
  refine ⟨?failing, ?succeeding, ?settled⟩
  case failing =>
    constructor
    · rintro ⟨error, failed⟩
      by_contra full
      push Not at full
      have done := parse_write_eq_ok.2 ⟨full, rfl⟩
      cases failed.symm.trans done
    · rintro ⟨type, member, property, inside, hollow⟩
      cases done : parse graph.write with
      | error error => exact ⟨error, rfl⟩
      | ok again =>
          have full := (parse_write_eq_ok.1 done).1
          exact absurd hollow (full type member property inside)
  case succeeding =>
    intro again done
    obtain ⟨-, rfl⟩ := parse_write_eq_ok.1 done
    refine ⟨graph.write_settled, graph.outline_settled, ?_⟩
    simp only [settled_eq_self, Property.settled_eq_self]
  case settled =>
    intro text done
    have documented := documented_of_parse done
    refine parse_write_eq_ok.2 ⟨?_, settled_eq_self.2 ?_⟩
    · exact fun type member property inside =>
        (documented type member property inside).full
    · exact fun type member property inside =>
        (documented type member property inside).unchanged

/-- A graph whose document says less than the graph: of the release date and of the
labels, it tells only the names `date` and `string`. -/
def album : TypeGraph where
  types := [
    ⟨"Album", [
      ⟨"released", .scalar .string, some (.other "date")⟩,
      ⟨"tracks", .collection .array (.type "Track"), none⟩,
      ⟨"labels", .collection .map (.type "string"), none⟩]⟩,
    ⟨"Track", []⟩]
  names_nodup := by decide

def albumAgain : TypeGraph where
  types := [
    ⟨"Album", [
      ⟨"released", .scalar .string, some .date⟩,
      ⟨"tracks", .collection .array (.type "Track"), none⟩,
      ⟨"labels", .collection .map (.scalar .string), none⟩]⟩,
    ⟨"Track", []⟩]
  names_nodup := by decide

/-- A graph with a composition of nothing. -/
def unnamed : TypeGraph where
  types := [⟨"Album", [⟨"maker", .composite .union [], none⟩]⟩]
  names_nodup := by decide

theorem album_parse_write :
    parse album.write = .ok albumAgain ∧ albumAgain.write = album.write ∧
      albumAgain ≠ album ∧ parse albumAgain.write = .ok albumAgain ∧
      ∃ error, parse unnamed.write = .error error := by
  have read : parse album.write = .ok albumAgain := by
    apply parse_write_eq_ok.2
    exact ⟨by simp [album, Kind.Hollow], by decide⟩
  obtain ⟨-, succeeding, -⟩ := parse_write album
  obtain ⟨-, -, settled⟩ := parse_write albumAgain
  obtain ⟨failing, -, -⟩ := parse_write unnamed
  obtain ⟨written, -, same⟩ := succeeding albumAgain read
  refine ⟨read, written, ?_, settled album.write read, failing.2 ?_⟩
  · rw [Ne, same]
    simp [album, Property.Unambiguous]
  · simp [unnamed, Kind.Hollow]

end TypeGraph

end GraphSchema
