import GraphSchema.Json.Numeral

/-!
# Positions in reports

A report on a document says what is wrong and then where, as a line and a
column. The place is no part of the wording. A wording can itself end like a
place, because it can quote a name, and that end is taken for the place then.
-/

namespace GraphSchema.Json

/-- What stands before the number at the end of a text. A line or column has at
most 64 bits. -/
def beforeNumber? (text : List Char) : Option (List Char) :=
  match text.reverse.takeWhile Char.isDigit with
  | [] => none
  | digits =>
      if decimal digits.reverse < wordLimit then
        some (text.reverse.dropWhile Char.isDigit).reverse
      else
        none

/-- What stands before the position at the end of a text. -/
def beforePosition? (text : List Char) : Option (List Char) := do
  let throughWord ← beforeNumber? text
  let throughLine ← " column ".toList.isSuffixOf? throughWord
  let throughMark ← beforeNumber? throughLine
  " at line ".toList.isSuffixOf? throughMark

/-- A wording without the position at its end, if it ends with one. -/
def withoutPosition (wording : String) : String :=
  match beforePosition? wording.toList with
  | some rest => String.ofList rest
  | none => wording

end GraphSchema.Json
