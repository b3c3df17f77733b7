import GraphSchema.Json.Basic

/-!
# Writing JSON

Two layouts of the same text: one line without blanks, and one member or item a
line, indented by two blanks a level. In both, a character of a text is escaped
only where it has to be.
-/

namespace GraphSchema.Json

/-- A digit below sixteen. -/
def hexDigit (value : Nat) : Char :=
  Nat.digitChar value

/-- A character as it stands between quotes. Quote, backslash and the control
characters are escaped, with the short escapes where there is one. -/
def escape (char : Char) : List Char :=
  match char with
  | '"' => ['\\', '"']
  | '\\' => ['\\', '\\']
  | '\x08' => ['\\', 'b']
  | '\x0c' => ['\\', 'f']
  | '\n' => ['\\', 'n']
  | '\r' => ['\\', 'r']
  | '\t' => ['\\', 't']
  | _ =>
      if char.toNat < 0x20 then
        ['\\', 'u', '0', '0', hexDigit (char.toNat / 16),
          hexDigit (char.toNat % 16)]
      else
        [char]

/-- A text between quotes. -/
def quote (text : String) : List Char :=
  '"' :: text.toList.flatMap escape ++ ['"']

/-- The text of a value that has no parts. -/
def leaf : Json → List Char
  | .null => ['n', 'u', 'l', 'l']
  | .bool true => ['t', 'r', 'u', 'e']
  | .bool false => ['f', 'a', 'l', 's', 'e']
  | .number value => Nat.toDigits 10 value
  | .text value => quote value
  | .array _ => ['[', ']']
  | .object _ => ['\x7b', '\x7d']

mutual

/-- The text of a value on one line. -/
def compactChars : Json → List Char
  | .array (first :: rest) =>
      '[' :: compactChars first ++ compactItems rest ++ [']']
  | .object ((name, first) :: rest) =>
      '\x7b' :: quote name ++ ':' :: compactChars first ++ compactMembers rest ++
        ['\x7d']
  | value => leaf value

/-- Further items of an array, each after a comma. -/
def compactItems : List Json → List Char
  | [] => []
  | item :: rest => ',' :: compactChars item ++ compactItems rest

/-- Further members of an object, each after a comma. -/
def compactMembers : List (String × Json) → List Char
  | [] => []
  | (name, value) :: rest =>
      ',' :: quote name ++ ':' :: compactChars value ++ compactMembers rest

end

/-- The start of a new line at a level of nesting. -/
def newLine (level : Nat) : List Char :=
  '\n' :: List.replicate (2 * level) ' '

mutual

/-- The text of a value over several lines, its parts one level deeper than
`level`. -/
def prettyChars (level : Nat) : Json → List Char
  | .array (first :: rest) =>
      '[' :: newLine (level + 1) ++ prettyChars (level + 1) first ++
        prettyItems (level + 1) rest ++ newLine level ++ [']']
  | .object ((name, first) :: rest) =>
      '\x7b' :: newLine (level + 1) ++ quote name ++ ':' :: ' ' ::
        prettyChars (level + 1) first ++ prettyMembers (level + 1) rest ++
        newLine level ++ ['\x7d']
  | value => leaf value

/-- Further items of an array, each on its own line. -/
def prettyItems (level : Nat) : List Json → List Char
  | [] => []
  | item :: rest =>
      ',' :: newLine level ++ prettyChars level item ++ prettyItems level rest

/-- Further members of an object, each on its own line. -/
def prettyMembers (level : Nat) : List (String × Json) → List Char
  | [] => []
  | (name, value) :: rest =>
      ',' :: newLine level ++ quote name ++ ':' :: ' ' ::
        prettyChars level value ++ prettyMembers level rest

end

/-- The text of a value on one line, without blanks. -/
def compact (value : Json) : String :=
  String.ofList (compactChars value)

/-- The text of a value with one member or item a line. -/
def pretty (value : Json) : String :=
  String.ofList (prettyChars 0 value)

end GraphSchema.Json
