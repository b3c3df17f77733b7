/-!
# Errors and warnings

An error ends a compilation, a warning tells what a compilation left out. Both
are kept as causes. Their wording is in one place each, the two functions
`message`.
-/

namespace GraphSchema

/-- Why a property is not one of the properties that a type can have. -/
inductive PropertyProblem where
  | objectWithoutReference
  | compositeWithoutReferences
  | unknownKind (kind : String)
  | unsupportedShape
  deriving DecidableEq, Repr

def PropertyProblem.message : PropertyProblem → String
  | .objectWithoutReference => "object property requires a reference"
  | .compositeWithoutReferences => "composite property requires references"
  | .unknownKind kind => "unrecognized kind '" ++ kind ++ "'"
  | .unsupportedShape => "unsupported property schema"

/-- Why a text is no entry of a mapping. -/
inductive EntryProblem where
  | emptyField
  | unknownKind (kind : String)
  | fieldCount (count : Nat)
  deriving DecidableEq, Repr

def EntryProblem.message : EntryProblem → String
  | .emptyField => "empty field"
  | .unknownKind kind => "unknown relation kind '" ++ kind ++ "'"
  | .fieldCount count => "expected 1, 2 or 5 fields, got " ++ toString count

inductive CompileError where
  | unknownType (name : String)
  | unresolvedReference (owner property reference : String)
  | duplicateType (name : String)
  | invalidProperty (property : String) (problem : PropertyProblem)
  | invalidEntry (entry : String) (problem : EntryProblem)
  | migration (reason : String)
  deriving DecidableEq, Repr

namespace CompileError

def message : CompileError → String
  | .unknownType name => "Unknown type: " ++ name
  | .unresolvedReference owner property reference =>
      "Unresolved reference '" ++ reference ++ "' on property '" ++ owner ++
        "." ++ property ++ "'"
  | .duplicateType name => "Duplicate type name: " ++ name
  | .invalidProperty property problem =>
      "Invalid property '" ++ property ++ "': " ++ problem.message
  | .invalidEntry entry problem =>
      "Invalid relation mapping '" ++ entry ++ "': " ++ problem.message
  | .migration reason => "Schema migration failed: " ++ reason

/-- Whether a name was not found. -/
def isResolution : CompileError → Bool
  | .unknownType _ | .unresolvedReference .. => true
  | _ => false

/-- Whether the input itself is at fault. -/
def isConfiguration : CompileError → Bool
  | .invalidProperty .. | .invalidEntry .. | .duplicateType _ => true
  | _ => false

end CompileError

inductive Warning where
  /-- A property refers to a type outside the graph and is not stored. -/
  | unresolvedReference (owner property reference : String)
  /-- A union or intersection is not stored. -/
  | compositeProperty (owner property : String)
  deriving DecidableEq, Repr

def Warning.message : Warning → String
  | .unresolvedReference owner property reference =>
      "Property '" ++ owner ++ "." ++ property ++ "' references unknown type '" ++
        reference ++ "' and was skipped"
  | .compositeProperty owner property =>
      "Composite property '" ++ owner ++ "." ++ property ++
        "' is not stored in a column"

end GraphSchema
