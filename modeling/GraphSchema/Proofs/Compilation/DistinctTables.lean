import GraphSchema.Proofs.Compilation.Artifacts

/-!
# Names of compiled tables

No table of a compiled schema has a name that the database has already. Two
tables of a schema can share a name, but only those of two collections that are
properties of one name of one type.
-/

namespace GraphSchema

open Relational (Schema)
open Storage

/-- The schemas of a graph in a database with the tables of a catalog. -/
inductive SchemaOf (graph : TypeGraph) (catalog : List String) : Schema → Prop where
  | compiled {settings : Settings} {compilation : Compilation}
      (made : compile settings graph catalog = .ok compilation) :
      SchemaOf graph catalog compilation.schema
  | synthesized {tablePrefix : String} {synthesis : Synthesis}
      (made : synthesize graph (TableNames.allocate graph tablePrefix catalog) =
        .ok synthesis) :
      SchemaOf graph catalog synthesis.schema

variable {graph : TypeGraph} {catalog : List String} {schema : Schema}

/-- A compilation has the schema of a synthesis. -/
theorem SchemaOf.exists_synthesis (made : SchemaOf graph catalog schema) :
    ∃ tablePrefix synthesis,
      synthesize graph (TableNames.allocate graph tablePrefix catalog) =
        .ok synthesis ∧ synthesis.schema = schema := by
  cases made with
  | compiled made =>
      obtain ⟨_, synthesis, types, synthesized, _, rfl⟩ := compile_eq_ok.1 made
      exact ⟨_, synthesis, synthesized, rfl⟩
  | synthesized made => exact ⟨_, _, made, rfl⟩

/-- The tables of a schema are new to the catalog, and they have distinct names
exactly when no type has two collections of objects of known types under one
property name. -/
theorem schema_tableNames (made : SchemaOf graph catalog schema) :
    (schema.tableNames.Nodup ↔ CollectionsDistinct graph) ∧
      ∀ name ∈ schema.tableNames, name ∉ catalog := by
  obtain ⟨tablePrefix, synthesis, succeeded, rfl⟩ := made.exists_synthesis
  have allocated :=
    TableNames.allocate_allocated graph tablePrefix catalog
  obtain ⟨layouts, relations, synthesized⟩ := exists_synthesized succeeded
  exact ⟨synthesized.tableNames_nodup_iff allocated,
    fun name => synthesized.tableNames_fresh allocated⟩

/-- A type with a list and a map of its own objects. -/
def family : TypeGraph where
  types := [⟨"Person", [⟨"children", .collection .array (.type "Person"), none⟩,
    ⟨"friends", .collection .map (.type "Person"), none⟩]⟩]
  names_nodup := by decide

theorem family_tableNames :
    ∃ compilation, compile {} family ["app_person"] = .ok compilation ∧
      compilation.schema.tableNames =
        ["app_person_1", "app_person_1_person", "app_person_1_person_1"] ∧
      (compilation.schema.tableNames.Nodup ↔ CollectionsDistinct family) ∧
      ∀ name ∈ compilation.schema.tableNames, name ∉ ["app_person"] := by
  have succeeds : ∃ compilation,
      compile {} family ["app_person"] = .ok compilation ∧
      compilation.schema.tableNames =
        ["app_person_1", "app_person_1_person", "app_person_1_person_1"] := by
    refine ⟨_, rfl, ?_⟩
    decide +kernel
  obtain ⟨compilation, made, tables⟩ := succeeds
  exact ⟨compilation, made, tables, schema_tableNames (.compiled made)⟩

/-- A type with two lists of its own objects under one name. -/
def namesakes : TypeGraph where
  types := [⟨"A", [⟨"x", .collection .array (.type "A"), none⟩,
    ⟨"x", .collection .array (.type "A"), none⟩]⟩]
  names_nodup := by decide

/-- Both lists are stored in tables of one name. -/
theorem namesakes_share_table :
    ∃ compilation, compile {} namesakes [] = .ok compilation ∧
      compilation.schema.tableNames = ["app_a", "app_a_a_1", "app_a_a_1"] ∧
      ¬ compilation.schema.tableNames.Nodup :=
  ⟨_, rfl, rfl, by decide⟩

end GraphSchema
