import GraphSchema.Proofs.Graph.Documents
import GraphSchema.Shape.Basic

/-!
# Shapes read from their documents

A shape is written as a record of optional fields, of which each kind of shape uses its
own ones, and a shape inside another one is written the same way one or two levels
below. The document does not tell apart a format that is kept as it is written from the
known format of that name, and it is read as the shape in its settled form, if it is not
too deep.

What has been read is settled and not too deep already, so it is read again as it is. So
is a fragment, whose shapes keep their names and their order.
-/

namespace GraphSchema

open Json (Draft Reader Reading ReadError)

namespace Shape

mutual

/-- The levels of arrays and objects of the document of a shape. A composition takes up
one for its list. -/
def depth : Shape → Nat
  | .scalar _ _ | .reference _ => 1
  | .collection _ items => items.depth + 1
  | .composite _ parts => partsDepth parts + 2

def partsDepth : List Shape → Nat
  | [] => 0
  | shape :: rest => max shape.depth (partsDepth rest)

end

mutual

/-- The formats of a shape and of the shapes inside. -/
def formats : Shape → List Format
  | .scalar _ format => format.toList
  | .reference _ => []
  | .collection _ items => items.formats
  | .composite _ parts => partsFormats parts

def partsFormats : List Shape → List Format
  | [] => []
  | shape :: rest => shape.formats ++ partsFormats rest

end

mutual

/-- A shape as its document says it. -/
def settled : Shape → Shape
  | .scalar basic format =>
      .scalar basic (format.map fun format => .ofName format.name)
  | .reference target => .reference target
  | .collection ordering items => .collection ordering items.settled
  | .composite mode parts => .composite mode (settledParts parts)

def settledParts : List Shape → List Shape
  | [] => []
  | shape :: rest => shape.settled :: settledParts rest

end

/-- The document of some fields. A field without a value is left out. -/
def Record.toJson (record : Record) : Json :=
  .object (
    Json.optional "type" .text record.type ++
    Json.optional "format" (fun format => .text format.name) record.format ++
    Json.optional "$ref" .text record.reference ++
    Json.optional "items" Shape.toJson record.items ++
    Json.optional "additionalProperties" Shape.toJson record.values ++
    Json.optional "oneOf" (fun parts => .array (partsJson parts)) record.oneOf ++
    Json.optional "allOf" (fun parts => .array (partsJson parts)) record.allOf)

/-- The document of a shape is that of its fields. -/
theorem toJson_toRecord (shape : Shape) : shape.toRecord.toJson = shape.toJson := by
  match shape with
  | .scalar _ none | .scalar _ (some _) | .reference _ | .collection .array _
  | .collection .map _ | .composite .union _ | .composite .intersection _ => rfl

/-- The fields of a shape describe no other shape. -/
theorem ofRecord_toRecord (shape : Shape) : ofRecord shape.toRecord = .ok shape := by
  match shape with
  | .scalar basic format => cases basic <;> rfl
  | .reference _ | .collection .array _ | .collection .map _
  | .composite .union _ | .composite .intersection _ => rfl

/-! ## Settled shapes -/

mutual

theorem settled_eq_self (shape : Shape) :
    shape.settled = shape ↔
      ∀ format ∈ shape.formats, Format.ofName format.name = format := by
  match shape with
  | .scalar _ none | .reference _ => simp [settled, formats]
  | .scalar _ (some format) => simp [settled, formats]
  | .collection _ items => simp [settled, formats, settled_eq_self items]
  | .composite _ parts => simp [settled, formats, settledParts_eq_self parts]

theorem settledParts_eq_self (parts : List Shape) :
    settledParts parts = parts ↔
      ∀ format ∈ partsFormats parts, Format.ofName format.name = format := by
  match parts with
  | [] => simp [settledParts, partsFormats]
  | shape :: rest =>
    simp [settledParts, partsFormats, settled_eq_self shape,
      settledParts_eq_self rest, or_imp, forall_and]

end

/-! ## Shapes that are written are read -/

variable {steps levels : Nat}

theorem readOptional_toJson (read : Reader Shape) (levels : Nat) (shape : Shape) :
    Json.readOptional read levels shape.toJson.draft =
      (read levels shape.toJson.draft).map some := by
  match shape with
  | .scalar _ _ | .reference _ | .collection .array _ | .collection .map _
  | .composite .union _ | .composite .intersection _ => rfl

theorem finish_toRecord (missing : String → ReadError) (shape : Shape) :
    readWithin.finish missing shape.toRecord = .ok shape := by
  rw [readWithin.finish, ofRecord_toRecord]

theorem readWithin_scalar (basic : Scalar) (format : Option Format) :
    readWithin (steps + 1) (levels + 1) (toJson (.scalar basic format)).draft =
      .ok (settled (.scalar basic format)) := by
  cases format with
  | none => exact finish_toRecord .missingField (.scalar basic none)
  | some format =>
      exact finish_toRecord .missingField (.scalar basic (some (.ofName format.name)))

theorem readWithin_reference (target : String) :
    readWithin (steps + 1) (levels + 1) (toJson (.reference target)).draft =
      .ok (.reference target) := rfl

theorem readWithin_collection (ordering : Collection) (items : Shape) :
    readWithin (steps + 1) (levels + 1) (toJson (.collection ordering items)).draft =
      readWithin steps levels items.toJson.draft >>= fun items =>
        .ok (.collection ordering items) := by
  have inside := readOptional_toJson (readWithin steps) levels items
  have type : ∀ name, Json.readOptional Json.readText levels (.text (some name)) =
      .ok (some name) := fun _ => rfl
  cases ordering <;> cases found : readWithin steps levels items.toJson.draft <;>
    simp [toJson, Json.draft, Json.draftMembers, readWithin, Json.readRecord,
      Json.enter, Json.readMembers, fields, type, inside, found, readWithin.finish,
      ofRecord, ofType, bind, Except.bind, pure, Except.pure, Except.map]

theorem readWithin_composite (mode : Composition) (parts : List Shape) :
    readWithin (steps + 1) (levels + 1) (toJson (.composite mode parts)).draft =
      Json.readList (readWithin steps) levels
          (.array (Json.draftItems (partsJson parts))) >>= fun parts =>
        .ok (.composite mode parts) := by
  have inside : ∀ items, Json.readOptional (Json.readList (readWithin steps)) levels
      (.array items) = (Json.readList (readWithin steps) levels (.array items)).map some :=
    fun _ => rfl
  cases mode <;>
    cases found : Json.readList (readWithin steps) levels
      (.array (Json.draftItems (partsJson parts))) <;>
    simp [toJson, Json.draft, Json.draftMembers, readWithin, Json.readRecord,
      Json.enter, Json.readMembers, fields, inside, found, readWithin.finish, ofRecord,
      bind, Except.bind, pure, Except.pure, Except.map]

theorem readWithin_zero {json : Json} {again : Shape} :
    readWithin steps 0 json.draft ≠ .ok again := by
  intro done
  cases steps <;> cases json <;> cases done

/-! The document of a shape is read as the settled shape if it has no more levels than
there are. The bound on the steps never counts, as each step takes up a level. -/

mutual

theorem readWithin_toJson (shape : Shape) {steps levels : Nat} {again : Shape}
    (enough : levels ≤ steps) :
    readWithin steps levels shape.toJson.draft = .ok again ↔
      shape.depth ≤ levels ∧ shape.settled = again := by
  cases levels with
  | zero =>
      refine iff_of_false readWithin_zero ?_
      rintro ⟨fits, -⟩
      cases shape <;> simp [depth] at fits
  | succ levels =>
      obtain ⟨steps, rfl⟩ :=
        Nat.exists_eq_add_one_of_ne_zero (show steps ≠ 0 by omega)
      rw [Nat.add_le_add_iff_right] at enough
      match shape with
      | .scalar basic format =>
        rw [readWithin_scalar]
        simp [depth]
      | .reference target =>
        rw [readWithin_reference]
        simp [depth, settled]
      | .collection ordering items =>
        rw [readWithin_collection]
        simp [readWithin_toJson items enough, depth, settled]
      | .composite mode parts =>
        rw [readWithin_composite]
        cases levels with
        | zero => simp [Json.readList, Json.enter, depth]
        | succ levels =>
            have inside := @readParts_toJson parts steps levels
            simp [Json.readList, Json.enter, inside (Nat.le_of_succ_le enough), depth,
              settled]

theorem readParts_toJson (parts : List Shape) {steps levels : Nat} {again : List Shape}
    (enough : levels ≤ steps) :
    Json.readItems (readWithin steps levels) (Json.draftItems (partsJson parts)) =
        .ok again ↔
      partsDepth parts ≤ levels ∧ settledParts parts = again := by
  match parts with
  | [] => simp [partsJson, Json.draftItems, Json.readItems, partsDepth, settledParts]
  | shape :: rest =>
    simp only [partsJson, Json.draftItems, Json.readItems, bind_eq_ok, pure_eq_ok,
      readWithin_toJson shape enough, readParts_toJson rest enough, partsDepth,
      settledParts, Nat.max_le]
    constructor
    · rintro ⟨_, ⟨first, rfl⟩, _, ⟨others, rfl⟩, same⟩
      exact ⟨⟨first, others⟩, same⟩
    · rintro ⟨⟨first, others⟩, same⟩
      exact ⟨_, ⟨first, rfl⟩, _, ⟨others, rfl⟩, same⟩

end

/-! ## Shapes that are read are settled -/

/-- A shape as a document of so many levels can say it. -/
@[mk_iff]
structure Documented (levels : Nat) (shape : Shape) : Prop where
  fits : shape.depth ≤ levels
  unchanged : shape.settled = shape

theorem documented_collection {ordering : Collection} {items : Shape} :
    (collection ordering items).Documented (levels + 1) ↔ items.Documented levels := by
  simp [documented_iff, depth, settled]

theorem documented_composite {mode : Composition} {parts : List Shape} :
    (composite mode parts).Documented (levels + 2) ↔
      ∀ part ∈ parts, part.Documented levels := by
  induction parts with
  | nil => simp [documented_iff, depth, settled, partsDepth, settledParts]
  | cons part rest ih =>
      rw [List.forall_mem_cons, ← ih]
      simp only [documented_iff, depth, settled, partsDepth, settledParts, Nat.max_le,
        Nat.add_le_add_iff_right, composite.injEq, true_and, List.cons.injEq]
      tauto

/-- The fields of a shape document whose shapes inside have so many levels. -/
structure Record.Documented (levels : Nat) (record : Record) : Prop where
  format : ∀ format ∈ record.format, Format.ofName format.name = format
  items : ∀ shape ∈ record.items, shape.Documented levels
  values : ∀ shape ∈ record.values, shape.Documented levels
  oneOf : ∀ parts ∈ record.oneOf, (composite .union parts).Documented (levels + 1)
  allOf : ∀ parts ∈ record.allOf,
    (composite .intersection parts).Documented (levels + 1)

theorem documented_of_ofRecord {record : Record} {shape : Shape}
    (documented : record.Documented levels) (done : ofRecord record = .ok shape) :
    shape.Documented (levels + 1) := by
  have typed (done : ofType record = .ok shape) : shape.Documented (levels + 1) := by
    simp only [ofType] at done
    split at done
    next _ _ items found =>
      cases done
      exact documented_collection.2 (documented.items items (by simp_all))
    next _ values _ found =>
      cases done
      exact documented_collection.2 (documented.values values (by simp_all))
    next basic _ _ _ =>
      cases done
      refine ⟨by simp [depth], (settled_eq_self _).2 ?_⟩
      simpa [formats] using documented.format
    next => cases done
  rw [ofRecord] at done
  split at done
  next target _ _ =>
    cases done
    exact ⟨by simp [depth], rfl⟩
  next _ parts _ found =>
    cases done
    exact documented.oneOf parts found
  next parts _ _ found =>
    cases done
    exact documented.allOf parts found
  next => exact typed done

/-- A list of shapes that is read makes up a composition. -/
theorem documented_of_readList {read : Reader Shape}
    (inside : ∀ levels draft shape, read levels draft = .ok shape →
      shape.Documented levels) {draft : Draft} {mode : Composition}
    {parts : List Shape}
    (done : Json.readOptional (Json.readList read) levels draft = .ok (some parts)) :
    (composite mode parts).Documented (levels + 1) := by
  obtain ⟨below, rfl, each⟩ := Json.of_readList (Json.read_of_readOptional done)
  refine documented_composite.2 fun part member => ?_
  obtain ⟨draft, read⟩ := each part member
  exact inside below draft part read

theorem fields_keep {read : Reader Shape}
    (inside : ∀ levels draft shape, read levels draft = .ok shape →
      shape.Documented levels) (levels : Nat) :
    ∀ field ∈ fields read levels, field.Keeps (Record.Documented levels) := by
  simp only [fields, List.forall_mem_cons, List.not_mem_nil, false_imp_iff,
    forall_true_iff, and_true]
  refine ⟨?type, ?format, ?reference, ?items, ?values, ?oneOf, ?allOf⟩
  all_goals
    intro draft record next kept done
    simp only [bind_eq_ok, pure_eq_ok] at done
    obtain ⟨value, here, rfl⟩ := done
  case type | reference => exact { kept with }
  case format =>
    refine { kept with format := ?_ }
    rintro format rfl
    exact Format.ofName_name_of_read (Json.read_of_readOptional here)
  case items =>
    refine { kept with items := ?_ }
    rintro shape rfl
    exact inside levels draft shape (Json.read_of_readOptional here)
  case values =>
    refine { kept with values := ?_ }
    rintro shape rfl
    exact inside levels draft shape (Json.read_of_readOptional here)
  case oneOf =>
    refine { kept with oneOf := ?_ }
    rintro parts rfl
    exact documented_of_readList inside here
  case allOf =>
    refine { kept with allOf := ?_ }
    rintro parts rfl
    exact documented_of_readList inside here

theorem documented_of_readRecord {fields : Nat → List (Json.RecordField Record)}
    (keeps : ∀ levels, ∀ field ∈ fields levels, field.Keeps (Record.Documented levels))
    {draft : Draft} {shape : Shape}
    (done : Json.readRecord {} fields readWithin.finish levels draft = .ok shape) :
    shape.Documented levels := by
  obtain ⟨below, _, record, rfl, documented, done⟩ :=
    Json.of_readRecord Record.Documented (fun _ => by constructor <;> simp) keeps done
  rw [readWithin.finish] at done
  split at done
  next found =>
    cases done
    exact documented_of_ofRecord documented found
  next => cases done

/-- A shape that is read is settled and has no more levels than there were. -/
theorem documented_of_readWithin {draft : Draft} {shape : Shape}
    (done : readWithin steps levels draft = .ok shape) : shape.Documented levels := by
  induction steps generalizing levels draft shape with
  | zero => exact documented_of_readRecord (by simp) done
  | succ steps ih =>
      exact documented_of_readRecord (fields_keep fun _ _ _ => ih) done

/-- A shape is read from its document as it is if a document can say it. -/
theorem read_toJson {shape : Shape} :
    read levels shape.toJson.draft = .ok shape ↔ shape.Documented levels := by
  rw [read, readWithin_toJson shape (Nat.le_refl levels), documented_iff]

/-- A text of the document of a shape that has been read is read as that shape. -/
theorem parse_of_parse {shape : Shape} {text again : String}
    (done : parse text = .ok shape)
    (written : Json.Source.ofText again = ⟨shape.toJson.draft, false⟩) :
    parse again = .ok shape := by
  have documented := documented_of_readWithin (Json.Source.read_eq_ok.1 done).1
  rw [parse, Json.Source.read_eq_ok, written]
  exact ⟨read_toJson.2 documented, rfl⟩

end Shape

namespace Fragment

/-- The text of a fragment document. -/
def parse (text : String) : Reading Fragment :=
  (Json.Source.ofText text).read read

/-- A fragment as a document of so many levels can say it. -/
structure Documented (levels : Nat) (fragment : Fragment) : Prop where
  distinct : (fragment.properties.map Prod.fst).Nodup
  shapes : ∀ property ∈ fragment.properties, property.2.Documented levels

theorem read_toJson {levels : Nat} {fragment : Fragment}
    (documented : fragment.Documented levels) :
    read (levels + 2) fragment.toJson.draft = .ok fragment := by
  have distinct : (([] : List (String × Shape)).map Prod.fst ++
      fragment.properties.map Prod.fst).Nodup := documented.distinct
  have entries := Json.readEntries_draft distinct fun property member =>
    Shape.read_toJson.2 (documented.shapes property member)
  simp [toJson, Json.draft, Json.draftMembers, read, Json.readRecord, Json.enter,
    Json.readMembers, fields, Json.readMap, entries]
  exact ⟨_, rfl, rfl⟩

/-- The names and the shapes of a fragment are two levels below it. -/
theorem documented_of_read {levels : Nat} {draft : Draft} {fragment : Fragment}
    (done : read levels draft = .ok fragment) :
    ∃ below, levels = below + 2 ∧ fragment.Documented below := by
  have keeps (levels : Nat) : ∀ field ∈ fields levels, field.Keeps fun properties =>
      ∀ given ∈ properties, ∃ below, levels = below + 1 ∧
        Documented below ⟨given⟩ := by
    simp only [fields, List.forall_mem_singleton]
    rintro draft _ _ _ done given rfl
    have read : some <$> Json.readMap Shape.read levels draft = .ok (some given) := done
    obtain ⟨_, entries, ⟨⟩⟩ := map_eq_ok.1 read
    obtain ⟨below, rfl, distinct, shapes⟩ := Json.of_readMap entries
    refine ⟨below, rfl, distinct, fun property member => ?_⟩
    obtain ⟨draft, read⟩ := shapes property member
    exact Shape.documented_of_readWithin read
  obtain ⟨below, _, properties, rfl, kept, done⟩ :=
    Json.of_readRecord _ (by simp) keeps done
  simp only [ofRecord, bind_eq_ok, pure_eq_ok] at done
  obtain ⟨given, present, rfl⟩ := done
  cases properties with
  | none => cases present
  | some properties =>
      cases present
      obtain ⟨lower, rfl, documented⟩ := kept given rfl
      exact ⟨lower, rfl, documented⟩

/-- A text of the document of a fragment that has been read is read as that fragment. -/
theorem parse_of_parse {fragment : Fragment} {text again : String}
    (done : parse text = .ok fragment)
    (written : Json.Source.ofText again = ⟨fragment.toJson.draft, false⟩) :
    parse again = .ok fragment := by
  obtain ⟨below, limit, documented⟩ :=
    documented_of_read (Json.Source.read_eq_ok.1 done).1
  rw [parse, Json.Source.read_eq_ok, written, limit]
  exact ⟨read_toJson documented, rfl⟩

end Fragment

namespace Shape

/-- A shape or a fragment that has been read is read again from either text of its
document. A shape of any origin is the one that its fields describe, and is read from
its document exactly if the document is not too deep and no format of the shape, at
whatever depth, is kept under the name of a known one. -/
theorem read_back :
    (∀ text shape, parse text = .ok shape →
      parse shape.toJson.pretty = .ok shape ∧
        parse shape.toJson.compact = .ok shape) ∧
    (∀ text fragment, Fragment.parse text = .ok fragment →
      Fragment.parse fragment.toJson.pretty = .ok fragment ∧
        Fragment.parse fragment.toJson.compact = .ok fragment) ∧
    ∀ shape : Shape,
      shape.toRecord.toJson = shape.toJson ∧ ofRecord shape.toRecord = .ok shape ∧
      ∀ levels, read levels shape.toJson.draft = .ok shape ↔
        shape.depth ≤ levels ∧ ∀ name, .other name ∈ shape.formats →
          name ∉ ["date", "date-time", "time"] := by
  refine ⟨?shapes, ?fragments, ?values⟩
  case shapes =>
    intro text shape done
    exact ⟨parse_of_parse done (Json.Source.ofText_pretty _),
      parse_of_parse done (Json.Source.ofText_compact _)⟩
  case fragments =>
    intro text fragment done
    exact ⟨Fragment.parse_of_parse done (Json.Source.ofText_pretty _),
      Fragment.parse_of_parse done (Json.Source.ofText_compact _)⟩
  case values =>
    intro shape
    refine ⟨toJson_toRecord shape, ofRecord_toRecord shape, fun levels => ?_⟩
    rw [read_toJson, documented_iff, settled_eq_self]
    simp only [Format.ofName_name_eq_self]
    exact and_congr_right fun _ =>
      ⟨fun known name member => known _ member name rfl,
        fun known format member name same => known name (same ▸ member)⟩

/-- A fragment with shapes inside each other, among them a composition of nothing. -/
def household : Fragment where
  properties := [
    ("moved", .scalar .string (some .date)),
    ("pets", .collection .map (.composite .union [
      .reference "Pet",
      .composite .intersection [],
      .scalar .string (some (.other "uri"))]))]

/-- A document of the fragment that is written in another way: some fields are given by
position, some are not used, and a name is repeated. -/
def householdDocument : Json :=
  .array [.object [
    ("moved", .object [("type", .text "number")]),
    ("pets", .array [.text "object", .null, .null, .null,
      .object [
        ("type", .text "array"),
        ("oneOf", .array [
          .object [("$ref", .text "Pet"), ("allOf", .array [])],
          .object [("allOf", .array [])],
          .array [.text "string", .text "uri"]])]]),
    ("moved", .array [.text "string", .text "date"])]]

/-- The fragment is read, written on one line and read again. With the format `date`
kept as it is written it would not be the same. -/
theorem household_read_back :
    Fragment.parse householdDocument.pretty = .ok household ∧
      Fragment.parse household.toJson.compact = .ok household ∧
      parse (toJson (.scalar .string (some .date))).pretty =
        .ok (.scalar .string (some .date)) ∧
      read 1 (toJson (.scalar .string (some (.other "date")))).draft ≠
        .ok (.scalar .string (some (.other "date"))) := by
  obtain ⟨shapes, fragments, values⟩ := read_back
  have given : Fragment.parse householdDocument.pretty = .ok household := by
    rw [Fragment.parse, Json.Source.ofText_pretty]
    rfl
  have date : parse (Json.compact (.array [.text "string", .text "date"])) =
      .ok (.scalar .string (some .date)) := by
    rw [parse, Json.Source.ofText_compact]
    rfl
  refine ⟨given, (fragments _ household given).2, (shapes _ _ date).1, ?_⟩
  rw [Ne, (values _).2.2 1]
  simp [formats]

end Shape

end GraphSchema
