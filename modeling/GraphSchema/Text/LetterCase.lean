import GraphSchema.Text.LetterCase.Tables

/-!
# Letter case

The case properties of a character and its lower-casing, one character at a
time: no mapping here looks at the neighbours of a character.
-/

namespace GraphSchema.Text

/-- Whether a character has the property `Uppercase`. -/
def isUpper (char : Char) : Bool :=
  uppercase.any (·.covers char.toNat)

/-- Whether a character has the property `Lowercase`. -/
def isLower (char : Char) : Bool :=
  lowercase.any (·.covers char.toNat)

/-- The lower-case form of a character. A capital `İ` is the one character
whose form takes two: an `i` and a combining dot. -/
def lower (char : Char) : List Char :=
  if char = 'İ' then
    ['i', '\u0307']
  else
    match lowerings.find? (·.capitals.covers char.toNat) with
    | some lowering =>
        [Char.ofNat (lowering.image + (char.toNat - lowering.capitals.first))]
    | none => [char]

end GraphSchema.Text
