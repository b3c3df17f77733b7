import GraphSchema.Json.Reading
import GraphSchema.Storage.Layout

/-!
# Mapping tables

For those who write objects of a type: which property goes into which column. An
entry is a text of fields with colons between them, the property first:

* `title` is stored in the column as it is,
* `home:object` is stored as the number of an object's row,
* `tags:array:post_tag:post_id:tag_id` is stored in the rows of a table that
  connect the owner with what it holds.

A field of an entry is not empty and holds no colon.
-/

namespace GraphSchema.Storage

inductive Entry where
  | scalar (property : String)
  | object (property : String)
  | relation (property : String) (collection : Collection)
      (table ownerColumn foreignColumn : String)
  deriving DecidableEq, Repr

/-- A text cut at its colons. -/
def splitFields : List Char → List (List Char)
  | [] => [[]]
  | char :: rest =>
      if char = ':' then [] :: splitFields rest
      else (splitFields rest).modifyHead (char :: ·)

namespace Entry

def property : Entry → String
  | .scalar property => property
  | .object property => property
  | .relation property .. => property

/-- The fields of an entry. -/
def fields : Entry → List String
  | .scalar property => [property]
  | .object property => [property, "object"]
  | .relation property collection table ownerColumn foreignColumn =>
      [property, collection.name, table, ownerColumn, foreignColumn]

/-- The text of an entry. -/
def encode (entry : Entry) : String :=
  ":".intercalate entry.fields

/-- The entry of some fields, none of them empty. -/
def ofFields : List String → Except EntryProblem Entry
  | [property] => .ok (.scalar property)
  | [property, kind] =>
      if kind = "object" then .ok (.object property)
      else .error (.unknownKind kind)
  | [property, kind, table, ownerColumn, foreignColumn] =>
      if kind = "array" then
        .ok (.relation property .array table ownerColumn foreignColumn)
      else if kind = "map" then
        .ok (.relation property .map table ownerColumn foreignColumn)
      else
        .error (.unknownKind kind)
  | fields => .error (.fieldCount fields.length)

/-- The entry of a text. -/
def parse (text : String) : Except CompileError Entry :=
  let fields := splitFields text.toList
  let result :=
    if fields.any List.isEmpty then .error .emptyField
    else ofFields (fields.map String.ofList)
  result.mapError (.invalidEntry text)

/-- Read an entry that a document holds as a text. -/
def read : Json.Reader Entry :=
  fun levels draft => do
    let text ← Json.readText levels draft
    (parse text).mapError .invalid

end Entry

/-- The entry of a slot, under the name of its column or the name that stands
for it among the columns. -/
def Slot.entry? (slot : Slot) : Option (String × Entry) :=
  match slot.placement with
  | .column column _ => some (column, .scalar slot.property.name)
  | .foreignKey column _ => some (column, .object slot.property.name)
  | .junction junction =>
      some (junction.mappingKey,
        .relation slot.property.name junction.collection junction.table
          junction.ownerColumn junction.targetColumn)
  | .dropped _ => none

/-- The mapping table of a type, filled slot by slot. An entry takes the place of
an earlier one of its key. -/
def Layout.mapping (layout : Layout) : List (String × Entry) :=
  (layout.slots.filterMap Slot.entry?).foldl
    (fun table (key, entry) => Json.put key entry table) []

/-- A mapping table as a document. -/
def mappingJson (mapping : List (String × Entry)) : Json :=
  .object (mapping.map fun (key, entry) => (key, .text entry.encode))

end GraphSchema.Storage
