/-!
# JSON values

The values that documents are written as. Members of an object keep the order
in which they were put there, and the only numbers are natural ones.
-/

namespace GraphSchema

inductive Json where
  | null
  | bool (value : Bool)
  | number (value : Nat)
  | text (value : String)
  | array (items : List Json)
  | object (members : List (String × Json))
  deriving Repr

namespace Json

/-- An array of texts. -/
def texts (values : List String) : Json :=
  .array (values.map .text)

/-- A member that an object has only if there is something to write. -/
def optional {α : Type} (name : String) (write : α → Json) (value : Option α) :
    List (String × Json) :=
  (value.map fun value => (name, write value)).toList

end Json

end GraphSchema
