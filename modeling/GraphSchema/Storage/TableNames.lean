import GraphSchema.Graph.Basic
import GraphSchema.Name.Pool
import GraphSchema.Name.Snake

/-!
# Names of tables

Every type gets a table, and so does every collection of objects of a known
type: its rows connect the owner with what it holds. All names of one
compilation come from one pool, which begins with the tables that the database
has already. The tables of the types are named first, in graph order, and then
those of the collections, in graph and property order.
-/

namespace GraphSchema.Storage

open Name (Pool snake)

structure TableNames where
  /-- Type and table, in graph order. -/
  types : List (String × String)
  /-- Type and property, and the table of the collection. -/
  junctions : List ((String × String) × String)
  deriving DecidableEq, Repr

/-- The name that is wanted for the table of a type. -/
def wantedTable (tablePrefix type : String) : String :=
  tablePrefix ++ "_" ++ snake type

/-- The type of the objects that a collection property holds. -/
def heldType? (property : Property) : Option String :=
  match property.kind with
  | .collection _ (.type target) => some target
  | _ => none

/-- The collections of a type that need a table, with the wanted names. -/
def junctionsOf (graph : TypeGraph) (type : RecordType) (table : String) :
    List ((String × String) × String) :=
  type.properties.filterMap fun property =>
    match heldType? property with
    | some target =>
        if graph.contains target then
          some ((type.name, property.name), table ++ "_" ++ snake target)
        else
          none
    | none => none

namespace TableNames

/-- Name the tables of a graph. -/
def allocate (graph : TypeGraph) (tablePrefix : String)
    (catalog : List String) : TableNames :=
  let (tables, pool) :=
    Pool.claimAll ⟨catalog⟩ (graph.names.map (wantedTable tablePrefix))
  let wanted := (graph.types.zip tables).flatMap fun (type, table) =>
    junctionsOf graph type table
  let (junctions, _) := pool.claimAll (wanted.map Prod.snd)
  ⟨graph.names.zip tables, (wanted.map Prod.fst).zip junctions⟩

/-- The table of a type. -/
def table? (names : TableNames) (type : String) : Option String :=
  names.types.lookup type

/-- The table of a type that is expected to have one. -/
def table (names : TableNames) (type : String) : Except CompileError String :=
  match names.table? type with
  | some table => .ok table
  | none => .error (.unknownType type)

/-- The table of a collection. Of several properties of one name the last one
decides. -/
def junction? (names : TableNames) (type property : String) : Option String :=
  names.junctions.reverse.lookup (type, property)

end TableNames

end GraphSchema.Storage
