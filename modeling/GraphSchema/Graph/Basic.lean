import GraphSchema.Error

/-!
# Type graphs

A type graph is an ordered set of named record types. Properties refer to other
types by name, and a name may refer to the type itself, to a type that comes
later or to none of the graph.
-/

namespace GraphSchema

/-- The kinds of values that have no parts. -/
inductive Scalar where
  | boolean
  | integer
  | number
  | string
  deriving DecidableEq, Repr

namespace Scalar

def name : Scalar → String
  | .boolean => "boolean"
  | .integer => "integer"
  | .number => "number"
  | .string => "string"

def ofName? (name : String) : Option Scalar :=
  if name = "boolean" then some .boolean
  else if name = "integer" then some .integer
  else if name = "number" then some .number
  else if name = "string" then some .string
  else none

@[simp] theorem ofName?_name (scalar : Scalar) :
    ofName? scalar.name = some scalar := by
  cases scalar <;> decide

end Scalar

/-- What a text stands for. A format that is not one of the known three is kept
as it is written. -/
inductive Format where
  | date
  | dateTime
  | time
  | other (name : String)
  deriving DecidableEq, Repr

namespace Format

def name : Format → String
  | .date => "date"
  | .dateTime => "date-time"
  | .time => "time"
  | .other name => name

def ofName (name : String) : Format :=
  if name = "date" then .date
  else if name = "date-time" then .dateTime
  else if name = "time" then .time
  else .other name

@[simp] theorem name_ofName (name : String) : (ofName name).name = name := by
  unfold ofName
  split
  · simp_all [Format.name]
  · split
    · simp_all [Format.name]
    · split <;> simp_all [Format.name]

end Format

/-- The two kinds of collections: by position and by key. -/
inductive Collection where
  | array
  | map
  deriving DecidableEq, Repr

def Collection.name : Collection → String
  | .array => "array"
  | .map => "map"

/-- The two ways to put types together: either of them, or all at once. -/
inductive Composition where
  | union
  | intersection
  deriving DecidableEq, Repr

def Composition.name : Composition → String
  | .union => "union"
  | .intersection => "intersection"

/-- What a collection holds. -/
inductive Element where
  | scalar (scalar : Scalar)
  | type (name : String)
  deriving DecidableEq, Repr

/-- The kinds of properties. -/
inductive Kind where
  | scalar (scalar : Scalar)
  /-- One object of another type. -/
  | object (target : String)
  | collection (collection : Collection) (element : Element)
  | composite (composition : Composition) (targets : List String)
  deriving DecidableEq, Repr

namespace Kind

def name : Kind → String
  | .scalar basic => basic.name
  | .object _ => "object"
  | .collection ordering _ => ordering.name
  | .composite mode _ => mode.name

/-- The type names that a property of this kind refers to. -/
def references : Kind → List String
  | .object target => [target]
  | .collection _ (.type target) => [target]
  | .composite _ targets => targets
  | _ => []

end Kind

structure Property where
  name : String
  kind : Kind
  /-- Says something about texts only. -/
  format : Option Format
  deriving DecidableEq, Repr

structure RecordType where
  name : String
  properties : List Property
  deriving DecidableEq, Repr

/-- The first property of a name. -/
def RecordType.property? (type : RecordType) (name : String) :
    Option Property :=
  type.properties.find? (·.name = name)

/-- A name that a property refers to. -/
structure Reference where
  owner : String
  property : String
  target : String
  deriving DecidableEq, Repr

/-- The references of a type, property by property. -/
def RecordType.references (type : RecordType) : List Reference :=
  type.properties.flatMap fun property =>
    property.kind.references.map fun target =>
      ⟨type.name, property.name, target⟩

/-- Types in order, no two of one name. -/
structure TypeGraph where
  types : List RecordType
  names_nodup : (types.map RecordType.name).Nodup
  deriving DecidableEq, Repr

namespace TypeGraph

def empty : TypeGraph := ⟨[], by simp⟩

def names (graph : TypeGraph) : List String :=
  graph.types.map RecordType.name

def contains (graph : TypeGraph) (name : String) : Bool :=
  name ∈ graph.names

def find? (graph : TypeGraph) (name : String) : Option RecordType :=
  graph.types.find? (·.name = name)

/-- The type of a name that is expected to be there. -/
def resolve (graph : TypeGraph) (name : String) :
    Except CompileError RecordType :=
  match graph.find? name with
  | some type => .ok type
  | none => .error (.unknownType name)

/-- Put a type at the end, unless its name is in use. -/
def add (graph : TypeGraph) (type : RecordType) :
    Except CompileError TypeGraph :=
  if present : type.name ∈ graph.names then
    .error (.duplicateType type.name)
  else
    .ok ⟨graph.types ++ [type], by
      rw [List.map_append, List.nodup_append]
      refine ⟨graph.names_nodup, by simp, ?_⟩
      intro name member other single equal
      simp only [List.map_cons, List.map_nil, List.mem_singleton] at single
      subst single
      exact present (equal ▸ member)⟩

/-- The graph of some types, which must have distinct names. -/
def ofTypes (types : List RecordType) : Except CompileError TypeGraph :=
  types.foldlM add empty

/-- The references to names that are not in the graph, in graph order. -/
def unresolved (graph : TypeGraph) : List Reference :=
  graph.types.flatMap fun type =>
    type.references.filter fun reference => !graph.contains reference.target

end TypeGraph

end GraphSchema
