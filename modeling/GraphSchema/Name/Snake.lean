import GraphSchema.Text.LetterCase

/-!
# Snake case

The spelling of a type or property name in the database: lower case throughout,
with an underscore where a capital begins a word. Different names may get the
same spelling (`FooBar` and `Foo_Bar`), so names of tables and columns are made
distinct afterwards.
-/

namespace GraphSchema.Name

open Text

/-- What stands before a character, as far as it decides about a word break. -/
inductive Before where
  /-- The start of the name, or an underscore. -/
  | boundary
  | capital
  | other
  deriving DecidableEq, Repr

/-- Whether a capital begins a word, given what stands before it and the
characters after it. Within a run of capitals only the last one does, and only
when a small letter follows: `HTTPServer` is `http_server`. -/
def beginsWord (before : Before) (after : List Char) : Bool :=
  match before with
  | .boundary => false
  | .capital => after.head?.any isLower
  | .other => true

/-- The snake case spelling of the rest of a name. -/
def snakeChars (before : Before) : List Char → List Char
  | [] => []
  | char :: after =>
      if char = '_' then
        '_' :: snakeChars .boundary after
      else if isUpper char then
        (if beginsWord before after then ['_'] else []) ++ lower char ++
          snakeChars .capital after
      else
        lower char ++ snakeChars .other after

/-- The snake case spelling of a name. -/
def snake (name : String) : String :=
  String.ofList (snakeChars .boundary name.toList)

end GraphSchema.Name
