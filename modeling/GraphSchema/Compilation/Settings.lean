import GraphSchema.Json.Reading
import GraphSchema.Sql.Dialect

/-!
# Settings of a compilation

Everything about a compilation that depends neither on the graph nor on the
database. Each setting has a default, so a document mentions only what differs.
-/

namespace GraphSchema

open Json (RecordField Reader)
open Sql (Dialect)

structure Settings where
  /-- What the names of all tables begin with. -/
  tablePrefix : String := "app"
  /-- The dialect of the statements that create the schema. -/
  dialect : Dialect := .postgres
  /-- How many objects a page has. -/
  pageSize : UInt32 := 16
  /-- Whether a reference to a type outside the graph is an error. Otherwise the
  property that has it is left out. -/
  strictReferences : Bool := false
  deriving DecidableEq, Repr

def Sql.Dialect.read : Reader Dialect :=
  Json.readChoice ("postgres", .postgres) ("sqlite", .sqlite)

namespace Settings

def fields (levels : Nat) : List (RecordField Settings) :=
  [⟨"tablePrefix", fun draft settings => do
      let tablePrefix ← Json.readText levels draft
      return { settings with tablePrefix }⟩,
    ⟨"dialect", fun draft settings => do
      let dialect ← Dialect.read levels draft
      return { settings with dialect }⟩,
    ⟨"pageSize", fun draft settings => do
      let pageSize ← Json.readWord levels draft
      return { settings with pageSize }⟩,
    ⟨"strictReferences", fun draft settings => do
      let strictReferences ← Json.readBool levels draft
      return { settings with strictReferences }⟩]

/-- Read settings. What a document does not mention keeps its default. -/
def read : Reader Settings :=
  Json.readRecord {} fields fun _ settings => .ok settings

end Settings

end GraphSchema
