import GraphSchema.Json.Numeral
import GraphSchema.Json.Quoted

/-!
# Drafts of JSON values

A draft is a JSON text as far as it can be made out. Where the text breaks off or
goes wrong, the draft says so at that place, so that a document can be read from
left to right and the first problem in reading order is the one that is
reported: contents of a wrong kind before a later fault of the text, and a fault
before later contents.
-/

namespace GraphSchema.Json

mutual

inductive Draft where
  | null
  | bool (value : Bool)
  | number (numeral : Numeral)
  /-- A text between quotes, without contents if a surrogate stands alone. -/
  | text (contents : Option String)
  | array (items : Items)
  | object (members : Members)
  /-- No value begins here. -/
  | absent (fault : Fault)
  /-- A text that breaks off before its closing quote. -/
  | brokenText (flaw : Flaw)
  /-- A numeral or a word that breaks off. -/
  | brokenWord (flaw : Flaw)

/-- The items of an array from some place on. -/
inductive Items where
  /-- The closing bracket. -/
  | closed
  /-- Neither a comma nor the closing bracket. -/
  | broken (fault : Fault)
  | item (value : Draft) (rest : Items)

/-- The members of an object from some place on. -/
inductive Members where
  /-- The closing brace. -/
  | closed
  /-- Neither a comma nor the closing brace. -/
  | broken (fault : Fault)
  /-- A member is due here, and something else than a text begins. -/
  | keyless (found : Draft)
  /-- A member, without a key if a surrogate stands alone in it. -/
  | member (key : Option String) (value : Draft) (rest : Members)

end

/-- What is wrong with a place where the key of a member is due. -/
def Draft.keyFlaw : Draft → Flaw
  | .absent fault => .both fault
  | .brokenText flaw => flaw
  | _ => .both .malformed

mutual

/-- The first fault that stops somebody who skips the value. -/
def Draft.skip : Draft → Except Fault Unit
  | .array items => items.skip
  | .object members => members.skip
  | .absent fault => .error fault
  | .brokenText flaw => .error flaw.whenSkipped
  | .brokenWord flaw => .error flaw.whenSkipped
  | _ => .ok ()

def Items.skip : Items → Except Fault Unit
  | .closed => .ok ()
  | .broken fault => .error fault
  | .item value rest => do
      value.skip
      rest.skip

def Members.skip : Members → Except Fault Unit
  | .closed => .ok ()
  | .broken fault => .error fault
  | .keyless found => .error found.keyFlaw.whenSkipped
  | .member _ value rest => do
      value.skip
      rest.skip

end

end GraphSchema.Json
