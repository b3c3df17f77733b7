import GraphSchema.Json.Draft

/-!
# Drafts of texts

How a text is made out as a draft. After a place where the text goes wrong
nothing is made out any more: whoever reads or skips the draft stops there.
-/

namespace GraphSchema.Json

def isBlank (char : Char) : Bool :=
  char == ' ' || char == '\n' || char == '\t' || char == '\r'

/-- A text without the blanks at its start. -/
def skipBlanks (text : List Char) : List Char :=
  text.dropWhile isBlank

/-- The rest of a word, and what follows it. -/
def scanWord (word : List Char) (value : Draft) (text : List Char) :
    Draft × List Char :=
  match word, text with
  | [], rest => (value, rest)
  | _ :: _, [] => (.brokenWord (.both .truncated), [])
  | expected :: word, char :: rest =>
      if char = expected then
        scanWord word value rest
      else
        (.brokenWord (.both .malformed), [])

/-- The fault of a text that goes on where it must not. -/
def strayFault (text : List Char) : Fault :=
  if text.isEmpty then .truncated else .malformed

/-- A value without parts at the start of a text, and what follows it. -/
def scanLeaf (text : List Char) : Draft × List Char :=
  match text with
  | 'n' :: rest => scanWord ['u', 'l', 'l'] .null rest
  | 't' :: rest => scanWord ['r', 'u', 'e'] (.bool true) rest
  | 'f' :: rest => scanWord ['a', 'l', 's', 'e'] (.bool false) rest
  | '"' :: rest =>
      match scanQuoted rest with
      | .ok (contents, rest) => (.text (contents.map String.ofList), rest)
      | .error flaw => (.brokenText flaw, [])
  | char :: _ =>
      if char = '-' ∨ char.isDigit then
        match scanNumeral text with
        | .ok (numeral, rest) => (.number numeral, rest)
        | .error flaw => (.brokenWord flaw, [])
      else
        (.absent .malformed, [])
  | [] => (.absent .truncated, [])

mutual

/-- A value at the start of a text, and what follows it. The first argument
bounds the steps; twice the length of the text is enough. -/
def scanValue : Nat → List Char → Draft × List Char
  | 0, _ => (.absent .truncated, [])
  | steps + 1, chars =>
      match skipBlanks chars with
      | '[' :: rest =>
          match skipBlanks rest with
          | ']' :: rest => (.array .closed, rest)
          | [] => (.array (.broken .truncated), [])
          | rest =>
              let (items, rest) := scanItems steps rest
              (.array items, rest)
      | '\x7b' :: rest =>
          match skipBlanks rest with
          | '\x7d' :: rest => (.object .closed, rest)
          | [] => (.object (.broken .truncated), [])
          | rest =>
              let (members, rest) := scanMembers steps rest
              (.object members, rest)
      | chars => scanLeaf chars

/-- The items of an array, from one that is due on. -/
def scanItems : Nat → List Char → Items × List Char
  | 0, _ => (.broken .truncated, [])
  | steps + 1, chars =>
      let (value, rest) := scanValue steps chars
      match skipBlanks rest with
      | ',' :: rest =>
          let (items, rest) := scanItems steps rest
          (.item value items, rest)
      | ']' :: rest => (.item value .closed, rest)
      | rest => (.item value (.broken (strayFault rest)), [])

/-- The members of an object, from one that is due on. -/
def scanMembers : Nat → List Char → Members × List Char
  | 0, _ => (.broken .truncated, [])
  | steps + 1, chars =>
      match skipBlanks chars with
      | '"' :: rest =>
          match scanQuoted rest with
          | .error flaw => (.keyless (.brokenText flaw), [])
          | .ok (contents, rest) =>
              let key := contents.map String.ofList
              match skipBlanks rest with
              | ':' :: rest =>
                  let (value, rest) := scanValue steps rest
                  match skipBlanks rest with
                  | ',' :: rest =>
                      let (members, rest) := scanMembers steps rest
                      (.member key value members, rest)
                  | '\x7d' :: rest => (.member key value .closed, rest)
                  | rest =>
                      (.member key value (.broken (strayFault rest)), [])
              | rest =>
                  (.member key (.absent (strayFault rest))
                    (.broken (strayFault rest)), [])
      | chars => (.keyless (scanValue steps chars).1, [])

end

/-- A text that is to hold one value: the draft of the value, and whether
anything but blanks follows it. -/
structure Source where
  draft : Draft
  trailing : Bool

/-- Make out a text. -/
def Source.ofText (text : String) : Source :=
  let chars := text.toList
  let (draft, rest) := scanValue (2 * chars.length + 2) chars
  ⟨draft, !(skipBlanks rest).isEmpty⟩

end GraphSchema.Json
