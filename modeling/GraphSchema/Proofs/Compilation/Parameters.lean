import GraphSchema.Proofs.Compilation.Artifacts
import GraphSchema.Proofs.Name.Spelling
import GraphSchema.Proofs.Query.Placeholders
import GraphSchema.Proofs.Storage.Columns

/-!
# Parameters of the queries of a compilation

The query for an object is given the number of its row in a parameter that has the
name of a column, and this name stands in the text as it is. So the placeholders
of all queries are their parameters exactly when the types that objects refer to
have names that are words in snake case.
-/

namespace GraphSchema

open Query (Node Part Select WordChars Runs placeholders)
open Storage

section

variable {settings : Settings} {graph : TypeGraph} {catalog : List String}
variable {names : TableNames} {compilation : Compilation}
variable {layouts : List Layout} {relations : List (List Relational.Relation)}
variable {layout : Layout} {parts : List Part} {context : Query.Context}

/-- Whether the placeholders in the text of a query are the parameters that it is
given. -/
def ParametersAgree (words : WordChars) (node : Node) (query : Select) : Prop :=
  ∀ name, name ∈ placeholders words query.text ↔ name ∈ node.params.map Prod.fst

/-- Whether all types of a graph that objects of it refer to have names that are
words in snake case. -/
def ReferencesCovered (words : WordChars) (graph : TypeGraph) : Prop :=
  ∀ type ∈ graph.types, ∀ property ∈ type.properties, ∀ target ∈ graph.names,
    property.kind = .object target → words.Covers (Name.snake target)

/-- A name stays a word when it is claimed. -/
theorem covers_claim (words : WordChars) (pool : Name.Pool) (wanted : String) :
    words.Covers (pool.claim wanted).1 ↔ words.Covers wanted := by
  have underscore : words.covers '_' = true := by
    simpa using words.ascii '_' (by decide)
  rw [WordChars.Covers, WordChars.Covers,
    pool.all_claim underscore fun char => words.covers_digit]

theorem covers_foreignKey (words : WordChars) (laid : LaidOut graph names layout)
    {slot : Slot} (member : slot ∈ layout.slots) {column target : String}
    (placement : slot.placement = .foreignKey column target) :
    words.Covers column ↔ words.Covers (Name.snake target) := by
  obtain ⟨pool, rfl⟩ := laid.foreignKey_claims member placement
  have suffix : words.Covers "_id" := words.covers_of_ascii (by decide)
  rw [covers_claim, rowColumn, words.covers_append, and_iff_left suffix]

/-- The columns for objects are words exactly when the types that the objects are
of are words in snake case. -/
theorem referencesCovered_iff (words : WordChars)
    (allocated : names.Allocated graph catalog) :
    ReferencesCovered words graph ↔
      ∀ layout, LaidOut graph names layout → ∀ slot ∈ layout.slots,
        ∀ column target, slot.placement = .foreignKey column target →
          words.Covers column := by
  constructor
  · intro covered layout laid slot member column target placement
    have kind := laid.foreignKey_refers member placement
    have known := laid.foreignKey_known member placement
    apply (covers_foreignKey words laid member placement).2
    exact covered layout.type laid.member slot.property (laid.property_mem member)
      target known kind
  · intro covered type member property owned target known kind
    obtain ⟨layout, laid, rfl⟩ := allocated.exists_layout member
    obtain ⟨slot, inside, rfl⟩ := laid.exists_slot owned
    obtain ⟨column, placement⟩ := laid.exists_foreignKey inside kind known
    apply (covers_foreignKey words laid inside placement).1
    exact covered layout laid slot inside column target placement

/-- The parameters of the queries of a type are words, apart from those for the
objects that it refers to. -/
theorem Query.Runs.covers_parameters (words : WordChars)
    (covered : ∀ slot ∈ layout.slots, ∀ column target,
      slot.placement = .foreignKey column target → words.Covers column)
    {node : Node} {query : Select} (runs : Runs context layout parts node)
    (found : node.query? = some query) :
    ∀ parameter ∈ query.parameters, words.Covers parameter := by
  have key : words.Covers Relational.primaryKey :=
    words.covers_of_ascii (by decide)
  have index : words.Covers Query.startIndex := words.covers_of_ascii (by decide)
  cases runs with
  | row | collection =>
      cases found
      simpa [Select.parameters] using key
  | page =>
      cases found
      simpa [Select.parameters] using index
  | count =>
      cases found
      simp [Select.parameters]
  | @object slot column target other member placement otherLaid named =>
      cases found
      simpa [Select.parameters] using
        covered slot member column target placement

/-- The placeholders of a query are the parameters that it is given exactly when
the names of these are words. -/
theorem Query.Runs.parametersAgree_iff (words : WordChars) {node : Node}
    {query : Select} (runs : Runs context layout parts node)
    (found : node.query? = some query) :
    ParametersAgree words node query ↔
      ∀ parameter ∈ query.parameters, words.Covers parameter := by
  rw [ParametersAgree, runs.params_eq found]
  exact query.placeholders_iff words

/-- The placeholders of all queries of a compilation are the parameters that the
queries are given exactly when the types that objects refer to are words in snake
case. A query whose parameters are words agrees with them in any case. -/
theorem placeholders_agree_iff (words : WordChars)
    (compiled : compile settings graph catalog = .ok compilation) :
    ((∀ artifacts ∈ compilation.types, ∀ node query,
        (node, query) ∈ artifacts.queryNodes → ParametersAgree words node query) ↔
      ReferencesCovered words graph) ∧
    ∀ artifacts ∈ compilation.types, ∀ node query,
      (node, query) ∈ artifacts.queryNodes →
        (∀ name ∈ node.params.map Prod.fst, words.Covers name) →
        ParametersAgree words node query := by
  obtain ⟨layouts, relations, compiled⟩ := exists_compiled compiled
  rw [referencesCovered_iff words compiled.allocated]
  refine ⟨⟨?_, ?_⟩, ?_⟩
  · intro agree layout laid slot member column target placement
    obtain ⟨artifacts, present, parts, runsQuery⟩ :=
      compiled.mem_queryNodes_of_runs laid
    obtain ⟨other, otherLaid, named⟩ := compiled.allocated.exists_layout_named
      (laid.foreignKey_known member placement)
    have runs : Runs ⟨graph, _, settings.pageSize⟩ layout parts
        (Query.objectNode column (Query.flatExpansion other)) :=
      .object member placement otherLaid named
    have agrees := agree artifacts present _ _ (runsQuery _ _ runs rfl)
    exact (runs.parametersAgree_iff words rfl).1 agrees column List.mem_cons_self
  · intro covered artifacts member node query inside
    obtain ⟨layout, parts, expanded, runs, found⟩ :=
      compiled.runs_of_mem_queryNodes member inside
    apply (runs.parametersAgree_iff words found).2
    exact runs.covers_parameters words (covered layout expanded.laid) found
  · intro artifacts member node query inside covered
    obtain ⟨layout, parts, expanded, runs, found⟩ :=
      compiled.runs_of_mem_queryNodes member inside
    rw [runs.params_eq found] at covered
    exact (runs.parametersAgree_iff words found).2 covered

end

/-- Posts whose type and whose tags have names that are written between quotes,
and a category with a plain name. -/
def posts : TypeGraph where
  types := [⟨"blog: \"post\"", [⟨"part of", .object "Category", none⟩,
      ⟨"a:b", .scalar .string, none⟩,
      ⟨"tags", .collection .map (.type "post-tag"), none⟩]⟩,
    ⟨"Category", [⟨"parent", .object "Category", none⟩]⟩,
    ⟨"post-tag", [⟨"select", .scalar .string, none⟩]⟩]
  names_nodup := by decide

theorem posts_placeholders :
    ∃ compilation, compile {} posts [] = .ok compilation ∧
      ReferencesCovered .basic posts ∧
      ∀ artifacts ∈ compilation.types, ∀ node query,
        (node, query) ∈ artifacts.queryNodes →
          ParametersAgree .basic node query := by
  have made : ∃ compilation, compile {} posts [] = .ok compilation := ⟨_, rfl⟩
  obtain ⟨compilation, compiled⟩ := made
  have covered : ReferencesCovered .basic posts := by
    intro type member property owned target known kind
    have targets : ∀ type ∈ posts.types, ∀ property ∈ type.properties,
        ∀ target ∈ posts.names, property.kind = .object target →
          target = "Category" := by decide
    rw [targets type member property owned target known kind]
    exact WordChars.covers_of_ascii _ (by decide)
  exact ⟨compilation, compiled, covered,
    (placeholders_agree_iff .basic compiled).1.2 covered⟩

/-- An object of a type whose name is no word. -/
def dashed : TypeGraph where
  types := [⟨"Blog", [⟨"label", .object "post-tag", none⟩]⟩, ⟨"post-tag", []⟩]
  names_nodup := by decide

theorem dashed_disagrees :
    ∃ compilation artifacts node query,
      compile {} dashed [] = .ok compilation ∧ artifacts ∈ compilation.types ∧
        (node, query) ∈ artifacts.queryNodes ∧
        query.text = "SELECT id FROM \"app_post-tag\" WHERE id = :post-tag_id" ∧
        placeholders .basic query.text = ["post"] ∧
        node.params.map Prod.fst = ["post-tag_id"] := by
  refine ⟨_, _, .entity (.row ["id"] "app_post-tag" "post-tag_id")
    [("post-tag_id", .field "post-tag_id")] [("id", .field "id" .integer)], _, rfl,
    List.mem_cons_self, List.mem_cons_of_mem _ List.mem_cons_self, ?_, ?_, rfl⟩
  · decide
  · decide

end GraphSchema
