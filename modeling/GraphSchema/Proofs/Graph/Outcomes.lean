import GraphSchema.Proofs.Graph.Contents
import GraphSchema.Proofs.Graph.Documents
import GraphSchema.Proofs.Json.Positions

/-!
# What becomes of a graph document

A document that says texts where texts belong is read in one of three ways. The first
property in the document that no property can have is reported, wherever a name is
repeated. Without such a property, the first name is reported that an earlier type has.
Otherwise there is a graph of all types in their order. A reported name may end like a
position, and then the report is worded without this end.
-/

namespace GraphSchema

open Json (EndsWithPosition Reading ReadError)

namespace PropertyDocument

/-- The property that a document says. -/
structure StandsFor (document : PropertyDocument) (property : Property) : Prop where
  name : property.name = document.name
  kind : document.kind.StandsFor property.kind
  format : property.format = document.format.map .ofName

theorem property_eq_ok {document : PropertyDocument} {made : Property} :
    document.property = .ok made ↔ document.StandsFor made := by
  unfold property
  cases answer : Kind.ofDocument document.kind with
  | error problem =>
      refine iff_of_false (by simp) ?_
      intro stands
      rw [stands.kind.ofDocument] at answer
      cases answer
  | ok kind =>
      have said := Kind.ofDocument_eq_ok.1 answer
      constructor
      · intro same
        cases same
        exact ⟨rfl, said, rfl⟩
      · intro stands
        rw [stands.kind.ofDocument] at answer
        cases answer
        rw [← stands.name, ← stands.format]

theorem property_eq_error {document : PropertyDocument} {error : ReadError} :
    document.property = .error error ↔
      ∃ problem, document.kind.Fails problem ∧
        .invalid (.invalidProperty document.name problem) = error := by
  simp only [← Kind.ofDocument_eq_error, property]
  cases Kind.ofDocument document.kind <;> simp

/-- A property can be made exactly if nothing fails. -/
theorem property_isOk {document : PropertyDocument} :
    (∃ made, document.property = .ok made) ↔
      ∀ problem, ¬ document.kind.Fails problem := by
  simp only [← Kind.ofDocument_eq_error, property]
  cases Kind.ofDocument document.kind <;> simp

end PropertyDocument

namespace TypeDocument

/-- The type that a document says. -/
structure StandsFor (document : TypeDocument) (type : RecordType) : Prop where
  name : type.name = document.name
  properties : List.Forall₂ PropertyDocument.StandsFor document.properties type.properties

theorem type_eq_ok {document : TypeDocument} {made : RecordType} :
    document.type = .ok made ↔ document.StandsFor made := by
  simp only [type, bind_eq_ok, pure_eq_ok, mapM_eq_ok, PropertyDocument.property_eq_ok]
  constructor
  · rintro ⟨properties, all, rfl⟩
    exact ⟨rfl, all⟩
  · intro stands
    exact ⟨made.properties, stands.properties, by rw [← stands.name]⟩

theorem type_isOk {document : TypeDocument} :
    (∃ made, document.type = .ok made) ↔
      ∀ property ∈ document.properties, ∀ problem, ¬ property.kind.Fails problem := by
  simp only [← PropertyDocument.property_isOk, ← mapM_isOk, type, bind_eq_ok, pure_eq_ok]
  constructor
  · intro done
    obtain ⟨_, properties, made, _⟩ := done
    exact ⟨properties, made⟩
  · intro done
    obtain ⟨properties, made⟩ := done
    exact ⟨_, properties, made, rfl⟩

/-- All types can be made exactly if no property fails. -/
theorem mapM_type_isOk {documents : List TypeDocument} :
    (∃ types, documents.mapM type = .ok types) ↔
      ∀ property ∈ documents.flatMap properties, ∀ problem,
        ¬ property.kind.Fails problem := by
  simp only [mapM_isOk, type_isOk, List.mem_flatMap]
  constructor
  · intro all property found
    obtain ⟨document, member, inside⟩ := found
    exact all document member property inside
  · intro all document member property inside
    exact all property ⟨document, member, inside⟩

/-- Types are named as their documents are. -/
theorem map_name_of_mapM_type {documents : List TypeDocument} {types : List RecordType}
    (made : documents.mapM type = .ok types) :
    types.map RecordType.name = documents.map name := by
  simp only [mapM_eq_ok, type_eq_ok] at made
  induction made with
  | nil => rfl
  | cons head _ ih => rw [List.map_cons, List.map_cons, head.name, ih]

/-- Where types fail, their properties do so in one row. -/
theorem mapM_type_eq_error {documents : List TypeDocument} {error : ReadError} :
    documents.mapM type = .error error ↔
      (documents.flatMap properties).mapM PropertyDocument.property = .error error := by
  induction documents with
  | nil => exact iff_of_false pure_ne_error pure_ne_error
  | cons document rest ih =>
      simp only [List.mapM_cons, List.flatMap_cons, List.mapM_append, bind_eq_error,
        pure_ne_error, and_false, exists_false, or_false, ih, type, bind_eq_ok,
        pure_eq_ok]
      refine or_congr_right ?_
      constructor
      · rintro ⟨made, ⟨properties, all, rfl⟩, failed⟩
        exact ⟨properties, all, failed⟩
      · rintro ⟨properties, all, failed⟩
        exact ⟨_, ⟨properties, all, rfl⟩, failed⟩

end TypeDocument

namespace TypeGraph

/-- What becomes of the contents of a document. -/
inductive Outcome (documents : List TypeDocument) : Reading TypeGraph → Prop
  /-- A property fails, and all properties before it are fine. -/
  | invalidProperty {before after : List PropertyDocument} {property : PropertyDocument}
      {problem : PropertyProblem}
      (first : documents.flatMap TypeDocument.properties = before ++ property :: after)
      (fine : ∀ earlier ∈ before, ∀ problem, ¬ earlier.kind.Fails problem)
      (fails : property.kind.Fails problem) :
      Outcome documents (.error (.invalid (.invalidProperty property.name problem)))
  /-- All properties are fine, but a name is repeated. -/
  | duplicateType {name : String}
      (fine : ∀ property ∈ documents.flatMap TypeDocument.properties,
        ∀ problem, ¬ property.kind.Fails problem)
      (first : FirstRepeated (documents.map TypeDocument.name) name) :
      Outcome documents (.error (.invalid (.duplicateType name)))
  | graph {graph : TypeGraph}
      (all : List.Forall₂ TypeDocument.StandsFor documents graph.types) :
      Outcome documents (.ok graph)

theorem ofRecord_eq_error {types : List RecordType} {error : ReadError} :
    ofRecord types = .error error ↔
      ∃ name, FirstRepeated (types.map RecordType.name) name ∧
        .invalid (.duplicateType name) = error := by
  constructor
  · intro failed
    unfold ofRecord at failed
    split at failed
    next => cases failed
    next refused =>
      cases failed
      obtain ⟨name, repeated, rfl⟩ := ofTypes_eq_error.1 refused
      exact ⟨name, repeated, rfl⟩
  · intro found
    obtain ⟨name, repeated, rfl⟩ := found
    rw [ofRecord, ofTypes_eq_error.2 ⟨name, repeated, rfl⟩]

theorem ofContents_eq_ok {documents : List TypeDocument} {graph : TypeGraph} :
    ofContents documents = .ok graph ↔
      List.Forall₂ TypeDocument.StandsFor documents graph.types := by
  simp only [ofContents, bind_eq_ok, mapM_eq_ok, TypeDocument.type_eq_ok, ofRecord_eq_ok]
  constructor
  · intro made
    obtain ⟨types, all, same⟩ := made
    rw [same]
    exact all
  · intro all
    exact ⟨graph.types, all, rfl⟩

/-- Contents become what their outcome is, and nothing else. -/
theorem ofContents_iff {documents : List TypeDocument} {result : Reading TypeGraph} :
    ofContents documents = result ↔ Outcome documents result := by
  constructor
  · intro done
    cases result with
    | ok graph => exact .graph (ofContents_eq_ok.1 done)
    | error error =>
        cases bind_eq_error.1 done with
        | inl failed =>
            obtain ⟨before, property, after, first, fine, here⟩ :=
              mapM_eq_error.1 (TypeDocument.mapM_type_eq_error.1 failed)
            obtain ⟨problem, fails, rfl⟩ := PropertyDocument.property_eq_error.1 here
            have sound := fun earlier member =>
              PropertyDocument.property_isOk.1 (fine earlier member)
            exact .invalidProperty first sound fails
        | inr refused =>
            obtain ⟨types, made, refused⟩ := refused
            obtain ⟨name, repeated, rfl⟩ := ofRecord_eq_error.1 refused
            rw [TypeDocument.map_name_of_mapM_type made] at repeated
            exact .duplicateType (TypeDocument.mapM_type_isOk.1 ⟨types, made⟩) repeated
  · intro outcome
    cases outcome with
    | @invalidProperty before after property problem first fine fails =>
        have made := fun earlier member =>
          PropertyDocument.property_isOk.2 (fine earlier member)
        have here := PropertyDocument.property_eq_error.2 ⟨problem, fails, rfl⟩
        have failed := TypeDocument.mapM_type_eq_error.2
          (mapM_eq_error.2 ⟨before, property, after, first, made, here⟩)
        exact bind_eq_error.2 (.inl failed)
    | @duplicateType name fine first =>
        obtain ⟨types, made⟩ := TypeDocument.mapM_type_isOk.2 fine
        rw [← TypeDocument.map_name_of_mapM_type made] at first
        exact bind_eq_error.2 (.inr ⟨types, made, ofRecord_eq_error.2 ⟨name, first, rfl⟩⟩)
    | graph all => exact ofContents_eq_ok.2 all

/-! ## Reports -/

theorem message_invalid (error : CompileError) :
    (ReadError.invalid error).message = Json.withoutPosition error.message := rfl

/-- No problem is worded with a digit at the end. -/
theorem exists_end_of_problem (problem : PropertyProblem) :
    ∃ before word, problem.message = before ++ word ∧
      word.toList.getLast?.any (fun char => !char.isDigit) = true := by
  cases problem with
  | unknownKind kind => exact ⟨_, "'", rfl, by decide⟩
  | objectWithoutReference => exact ⟨"", _, String.empty_append.symm, by decide⟩
  | compositeWithoutReferences => exact ⟨"", _, String.empty_append.symm, by decide⟩
  | unsupportedShape => exact ⟨"", _, String.empty_append.symm, by decide⟩

/-- The report about a property has all of the wording. -/
theorem message_invalidProperty (name : String) (problem : PropertyProblem) :
    (ReadError.invalid (.invalidProperty name problem)).message =
      (CompileError.invalidProperty name problem).message := by
  obtain ⟨before, word, written, ends⟩ := exists_end_of_problem problem
  have wording : (CompileError.invalidProperty name problem).message =
      "Invalid property '" ++ name ++ "': " ++ before ++ word := by
    rw [String.append_assoc, ← written]
    rfl
  rw [message_invalid, Json.withoutPosition_of_getLast?]
  rw [wording, String.toList_append]
  exact Json.noDigit_behind _ ends

/-- Types that are offered to a graph and types that are read from a document make the
same graphs: those of distinct names, in order. Offered types are refused one by one. A
document is refused as a whole, for its first failing property, or else for its first
repeated name. -/
theorem building_and_reading :
    (∀ types : List RecordType, BuiltFrom types (types.foldl offer empty)) ∧
    (∀ documents, Describes (contentsJson documents).pretty documents) ∧
    (∀ text documents, Describes text documents →
      ∀ result, parse text = result ↔ Outcome documents result) ∧
    (∀ name problem, (ReadError.invalid (.invalidProperty name problem)).message =
      (CompileError.invalidProperty name problem).message) ∧
    ∀ name wording, (ReadError.invalid (.duplicateType name)).message = wording ↔
      EndsWithPosition (CompileError.duplicateType name).message wording ∨
        wording = (CompileError.duplicateType name).message ∧
          ∀ other, ¬ EndsWithPosition (CompileError.duplicateType name).message other := by
  refine ⟨builtFrom_foldl_offer, describes_pretty, ?_, message_invalidProperty, ?_⟩
  · intro text documents described result
    rw [parse_eq_ofContents described]
    exact ofContents_iff
  · intro name wording
    rw [message_invalid]
    exact Json.withoutPosition_eq

/-- Two types of one name, the second with a property that fails. -/
def shelves : List TypeDocument :=
  [⟨"Shelf", []⟩, ⟨"Shelf", [⟨"room", ⟨"object", none, []⟩, none⟩]⟩]

/-- One of the texts of these types. It has a member that says nothing, and members that
are left out or stand elsewhere. -/
def shelvesText : String :=
  "\x7b\"types\": [\x7b\"name\": \"Shelf\", \"height\": 3\x7d,
    \x7b\"properties\": [\x7b\"kind\": \"object\", \"name\": \"room\"\x7d],
      \"name\": \"Shelf\"\x7d]\x7d"

/-- The property is reported, and not the name. -/
theorem shelves_refused :
    Describes shelvesText shelves ∧
      parse shelvesText =
        .error (.invalid (.invalidProperty "room" .objectWithoutReference)) := by
  have described : Describes shelvesText shelves := by
    unfold Describes
    decide +kernel
  refine ⟨described, (building_and_reading.2.2.1 _ _ described _).2 ?_⟩
  let room : PropertyDocument := ⟨"room", ⟨"object", none, []⟩, none⟩
  exact @Outcome.invalidProperty shelves [] [] room _ rfl (by simp) (.object [])

/-- A repeated name that ends like a position is not reported in full. -/
theorem repeated_place_cut :
    parse (contentsJson [⟨"A at line 0 column 0", []⟩, ⟨"A at line 0 column 0", []⟩]).pretty =
        .error (.invalid (.duplicateType "A at line 0 column 0")) ∧
      (ReadError.invalid (.duplicateType "A at line 0 column 0")).message =
        "Duplicate type name: A" ∧
      (CompileError.duplicateType "A at line 0 column 0").message =
        "Duplicate type name: A at line 0 column 0" := by
  have zero : Json.IsPlace ['0'] := ⟨by simp, by simp, by decide⟩
  refine ⟨?_, ?_, rfl⟩
  · exact (parse_eq_ofContents (describes_pretty _)).trans rfl
  · rw [message_invalid]
    exact Json.withoutPosition_eq.2 (.inl ⟨['0'], ['0'], zero, zero, by decide⟩)

end TypeGraph

end GraphSchema
