import GraphSchema.Json.Printer
import GraphSchema.Query.Select

/-!
# Query documents

A query document says how to fetch an object with the objects it refers to. It
is a tree of nodes: a query node runs a query for each row of the query above it
and puts together the objects that its definition describes, and the leaves are
columns of the row, values that the caller supplies, and constants.
-/

namespace GraphSchema.Query

open Relational (ColumnType)

/-- Where the value of a parameter comes from. -/
inductive Param where
  /-- From the caller, who may leave it out if there is a default. -/
  | context (name : String) (default : Option Nat)
  /-- From a column of the row that the query is run for. -/
  | field (column : String)
  deriving DecidableEq, Repr

inductive Node where
  /-- The objects of all rows of a query, by position or by a column. -/
  | collection (query : Select) (params : List (String × Param))
      (definition : List (String × Node)) (key : Option String)
  /-- The object of the only row of a query. -/
  | entity (query : Select) (params : List (String × Param))
      (definition : List (String × Node))
  /-- A column of the only row of a query. -/
  | value (query : Select) (params : List (String × Param)) (column : String)
  /-- A column of the row. -/
  | field (column : String) (type : ColumnType)
  /-- A value from the caller. -/
  | context (name : String) (default : Option Nat)
  | literal (value : Nat)
  | object (definition : List (String × Node))
  deriving Repr

/-- The name of the type of a field. -/
def fieldType : ColumnType → String
  | .float => "number"
  | type => type.name

/-- A value from the caller as a document. -/
def contextJson (name : String) (default : Option Nat) : Json :=
  .object (("$context", .text name) :: Json.optional "$default" .number default)

def Param.toJson : Param → Json
  | .context name default => contextJson name default
  | .field column => .object [("$field", .text column)]

/-- The parameters of a query as a member, if there are any. -/
def paramsMember (params : List (String × Param)) : List (String × Json) :=
  if params.isEmpty then []
  else [("$params", .object (params.map fun (name, param) => (name, param.toJson)))]

namespace Node

/-- The nodes below a node, by field. -/
def definition : Node → List (String × Node)
  | .collection _ _ definition _ => definition
  | .entity _ _ definition => definition
  | .object definition => definition
  | _ => []

/-- The query of a node that runs one. -/
def query? : Node → Option Select
  | .collection query .. => some query
  | .entity query .. => some query
  | .value query .. => some query
  | _ => none

/-- The parameters of the query of a node. -/
def params : Node → List (String × Param)
  | .collection _ params .. => params
  | .entity _ params _ => params
  | .value _ params _ => params
  | _ => []

mutual

/-- A node as a document. -/
def toJson : Node → Json
  | .collection query params definition key =>
      .object ([("$collection", .text query.text)] ++ paramsMember params ++
        [("$definition", .object (membersJson definition))] ++
        Json.optional "$key" .text key)
  | .entity query params definition =>
      .object ([("$entity", .text query.text)] ++ paramsMember params ++
        [("$definition", .object (membersJson definition))])
  | .value query params column =>
      .object ([("$value", .text query.text)] ++ paramsMember params ++
        [("$column", .text column)])
  | .field column type =>
      .object [("$field", .text column), ("$type", .text (fieldType type))]
  | .context name default => contextJson name default
  | .literal constant => .number constant
  | .object definition => .object (membersJson definition)

/-- The fields of a definition as members of a document. -/
def membersJson : List (String × Node) → List (String × Json)
  | [] => []
  | (name, node) :: rest => (name, toJson node) :: membersJson rest

end

mutual

/-- A node and all nodes below it, each with its path. -/
def walk (path : String) : Node → List (String × Node)
  | .collection query params definition key =>
      (path, .collection query params definition key) ::
        walkFields path definition
  | .entity query params definition =>
      (path, .entity query params definition) :: walkFields path definition
  | .object definition =>
      (path, .object definition) :: walkFields path definition
  | leaf => [(path, leaf)]

/-- All nodes of a definition, each with its path. -/
def walkFields (path : String) : List (String × Node) → List (String × Node)
  | [] => []
  | (name, node) :: rest =>
      walk (path ++ "/" ++ name) node ++ walkFields path rest

end

end Node

/-- The query document of a type. -/
structure Document where
  root : Node
  /-- The columns of the type's table that the document selects. -/
  columns : List String

namespace Document

def toJson (document : Document) : Json :=
  document.root.toJson

end Document

end GraphSchema.Query
