import GraphSchema.Proofs.Query.Definitions

/-!
# Queries in documents

Which nodes of the documents of a type run queries: the one at the top of a
document, the count of a page, and one for each object and each collection that
the type refers to. Below these there are only columns of their rows.
-/

namespace GraphSchema.Query

open Relational (primaryKey)
open Storage

namespace Node

/-- A node comes first in its walk, and then what is below it. -/
theorem walk_eq (path : String) (node : Node) :
    walk path node = (path, node) :: walkFields path node.definition := by
  cases node <;> rfl

theorem mem_walkFields {path : String} {fields : List (String × Node)}
    {entry : String × Node} :
    entry ∈ walkFields path fields ↔
      ∃ field ∈ fields, entry ∈ walk (path ++ "/" ++ field.1) field.2 := by
  induction fields with
  | nil => simp [walkFields]
  | cons field rest ih =>
      rw [walkFields, List.mem_append, ih]
      simp

/-- The nodes right below a node are in its walk. -/
theorem exists_mem_walk {path field : String} {root node : Node}
    (member : (field, node) ∈ root.definition) :
    ∃ below, (below, node) ∈ walk path root := by
  refine ⟨path ++ "/" ++ field, ?_⟩
  rw [walk_eq]
  apply List.mem_cons_of_mem
  apply mem_walkFields.2
  refine ⟨(field, node), member, ?_⟩
  rw [walk_eq]
  exact List.mem_cons_self

end Node

variable {context : Context} {layout : Layout} {parts : List Part}
variable {path start : String} {node root : Node} {query : Select}

/-- The nodes of the documents of a type that run queries. -/
inductive Runs (context : Context) (layout : Layout) (parts : List Part) :
    Node → Prop where
  | row : Runs context layout parts
      (rowDocument ⟨layout.table, ofParts parts⟩).root
  | page : Runs context layout parts
      (pageNode context.pageSize ⟨layout.table, ofParts parts⟩)
  | count : Runs context layout parts (.value (.count layout.table) [] countColumn)
  | object {slot : Slot} {column target : String} {other : Layout}
      (member : slot ∈ layout.slots)
      (placement : slot.placement = .foreignKey column target)
      (laid : LaidOut context.graph context.names other)
      (named : other.type.name = target) :
      Runs context layout parts (objectNode column (flatExpansion other))
  | collection {slot : Slot} {junction : Junction} {other : Layout}
      (member : slot ∈ layout.slots)
      (placement : slot.placement = .junction junction)
      (laid : LaidOut context.graph context.names other)
      (named : other.type.name = junction.target) :
      Runs context layout parts
        (collectionNode context.pageSize junction (flatExpansion other))

namespace Runs

/-- What runs a query gives it its parameters. -/
theorem params_eq (runs : Runs context layout parts node)
    (found : node.query? = some query) :
    node.params.map Prod.fst = query.parameters := by
  cases runs with
  | row | page | count | object | collection =>
      cases found
      rfl

end Runs

/-- The documents of a type. -/
def documents (context : Context) (layout : Layout) (parts : List Part) :
    List Document :=
  [rowDocument ⟨layout.table, ofParts parts⟩,
    pageDocument context.pageSize ⟨layout.table, ofParts parts⟩]

/-- At the lowest level nothing runs a query. -/
theorem query?_flat {other : Layout}
    (member : (path, node) ∈ Node.walkFields start (flat other).fields) :
    node.query? = none := by
  obtain ⟨⟨name, leaf⟩, inside, walked⟩ := Node.mem_walkFields.1 member
  obtain ⟨field, column, type, same, _⟩ := mem_flat_fields inside
  obtain ⟨rfl, rfl⟩ := Prod.mk.inj same
  obtain ⟨rfl, rfl⟩ : path = start ++ "/" ++ name ∧ node = .field column type := by
    simpa [Node.walk] using walked
  rfl

/-- Above a lowest level only the node itself may run a query. -/
theorem eq_of_mem_walk {other : Layout}
    (below : root.definition = (flat other).fields)
    (member : (path, node) ∈ root.walk start)
    (found : node.query? = some query) : node = root := by
  rw [Node.walk_eq, List.mem_cons, below] at member
  rcases member with top | lower
  · exact (Prod.mk.inj top).2
  · rw [query?_flat lower] at found
    cases found

namespace Expanded

/-- What runs a query below the top of a document is the node of an object or of
a collection. -/
theorem runs_of_mem_walkFields (expanded : Expanded context layout parts)
    (member : (path, node) ∈ Node.walkFields start (ofParts parts).fields)
    (found : node.query? = some query) : Runs context layout parts node := by
  obtain ⟨⟨field, top⟩, inside, walked⟩ := Node.mem_walkFields.1 member
  rcases expanded.mem_fields inside with same | ⟨slot, present, part, _, partOf, made⟩
  · obtain ⟨rfl, rfl⟩ := Prod.mk.inj same
    obtain ⟨_, rfl⟩ : _ ∧ node = .field primaryKey .integer := by
      simpa [Node.walk] using walked
    cases found
  · cases partOf with
    | @column column type placement =>
        cases made
        obtain ⟨_, rfl⟩ : _ ∧ node = .field column type := by
          simpa [Node.walk] using walked
        cases found
    | object placement laid named =>
        cases made
        rw [eq_of_mem_walk rfl walked found]
        exact .object present placement laid named
    | collection placement laid named =>
        cases made
        rw [eq_of_mem_walk rfl walked found]
        exact .collection present placement laid named
    | dropped placement => cases made

/-- What runs a query in a document of a type. -/
theorem runs_of_mem_walk (expanded : Expanded context layout parts)
    {document : Document} (made : document ∈ documents context layout parts)
    (member : (path, node) ∈ document.root.walk start)
    (found : node.query? = some query) : Runs context layout parts node := by
  rw [documents, List.mem_pair] at made
  rcases made with rfl | rfl
  · rw [Node.walk_eq, List.mem_cons] at member
    rcases member with top | below
    · obtain ⟨_, rfl⟩ := Prod.mk.inj top
      exact .row
    · exact expanded.runs_of_mem_walkFields below found
  · simp only [pageDocument, Node.walk, Node.walkFields, List.mem_cons,
      List.mem_append, List.not_mem_nil, or_false, Prod.mk.injEq] at member
    rcases member with ⟨_, rfl⟩ | ⟨_, rfl⟩ | ⟨_, rfl⟩ | ⟨_, rfl⟩ | entry
    · cases found
    · exact .count
    · cases found
    · cases found
    · rw [Node.walk_eq, List.mem_cons] at entry
      rcases entry with top | below
      · obtain ⟨_, rfl⟩ := Prod.mk.inj top
        exact .page
      · exact expanded.runs_of_mem_walkFields below found

/-- The part of a slot is one of the parts. -/
theorem mem_fields_of_partOf (expanded : Expanded context layout parts)
    {slot : Slot} (member : slot ∈ layout.slots) {part : Part}
    (partOf : PartOf context slot part) {field : String}
    (found : part.field = some (field, node)) :
    (field, node) ∈ (ofParts parts).fields := by
  obtain ⟨other, present, otherPart⟩ :=
    exists_result_of_forall₂ expanded.each member
  have same : other = part := Except.ok.inj
    ((slotPart_eq_ok.2 otherPart).symm.trans (slotPart_eq_ok.2 partOf))
  rw [same] at present
  exact List.mem_cons_of_mem _ (List.mem_filterMap.2 ⟨part, present, found⟩)

/-- Every one of these nodes is in a document and runs a query. -/
theorem exists_document_of_runs (expanded : Expanded context layout parts)
    (runs : Runs context layout parts node) :
    ∃ document ∈ documents context layout parts,
      ∃ path, (path, node) ∈ document.root.walk start := by
  have row : rowDocument ⟨layout.table, ofParts parts⟩ ∈
      documents context layout parts := List.mem_cons_self
  have page : pageDocument context.pageSize ⟨layout.table, ofParts parts⟩ ∈
      documents context layout parts :=
    List.mem_cons_of_mem _ List.mem_cons_self
  cases runs with
  | row =>
      refine ⟨_, row, start, ?_⟩
      rw [Node.walk_eq]
      exact List.mem_cons_self
  | page =>
      have entry : ("entry", pageNode context.pageSize
            ⟨layout.table, ofParts parts⟩) ∈
          (pageDocument context.pageSize
            ⟨layout.table, ofParts parts⟩).root.definition := by
        simp [pageDocument, Node.definition]
      exact ⟨_, page, Node.exists_mem_walk entry⟩
  | count =>
      exact ⟨_, page, Node.exists_mem_walk List.mem_cons_self⟩
  | object member placement laid named =>
      have part : PartOf context _ _ := .object placement laid named
      exact ⟨_, row, Node.exists_mem_walk
        (expanded.mem_fields_of_partOf member part rfl)⟩
  | collection member placement laid named =>
      have part : PartOf context _ _ := .collection placement laid named
      exact ⟨_, row, Node.exists_mem_walk
        (expanded.mem_fields_of_partOf member part rfl)⟩

end Expanded

end GraphSchema.Query
