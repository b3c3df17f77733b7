import GraphSchema.Error
import GraphSchema.Json.Position
import GraphSchema.Json.Scan

/-!
# Reading documents

How the contents of a draft are read. Every reader goes from left to right and
reports the first problem it meets, and reports a value of a wrong kind as soon
as it begins. Arrays and objects that are read may be nested in each other to a
limited depth; what is skipped may not be.

A record is written as an object, or as the array of its fields in their order.
-/

namespace GraphSchema.Json

inductive ReadError where
  /-- The text is no JSON. -/
  | fault (fault : Fault)
  | wrongType
  | outOfRange
  | wrongLength
  | missingField (name : String)
  | repeatedField (name : String)
  | unknownVariant (name : String) (first second : String)
  /-- The contents describe nothing that exists in the domain. -/
  | invalid (error : CompileError)
  deriving DecidableEq, Repr

/-- The wording of a problem with the contents. It tells no position, even where
a quoted name ends like one. -/
def ReadError.message : ReadError → String
  | .fault .malformed => "malformed text"
  | .fault .truncated => "truncated text"
  | .wrongType => "invalid type"
  | .outOfRange => "invalid value"
  | .wrongLength => "invalid length"
  | .missingField name => "missing field `" ++ name ++ "`"
  | .repeatedField name => "duplicate field `" ++ name ++ "`"
  | .unknownVariant name first second =>
      "unknown variant `" ++ name ++ "`, expected `" ++ first ++ "` or `" ++
        second ++ "`"
  | .invalid error => withoutPosition error.message

abbrev Reading (α : Type) := Except ReadError α

/-- A reader of a kind of value, given how many levels of arrays and objects it
may still enter. -/
abbrev Reader (α : Type) := Nat → Draft → Reading α

/-- How many levels of arrays and objects a document may have. -/
def levelLimit : Nat := 127

/-- What a reader reports about a value that is not of the kind it wants. -/
def Draft.mismatch : Draft → ReadError
  | .number numeral => if numeral.finite then .wrongType else .fault .malformed
  | .text none => .fault .malformed
  | .absent fault => .fault fault
  | .brokenText flaw => .fault flaw.whenRead
  | .brokenWord flaw => .fault flaw.whenRead
  | _ => .wrongType

def readText : Reader String
  | _, .text (some contents) => .ok contents
  | _, draft => .error draft.mismatch

def readBool : Reader Bool
  | _, .bool value => .ok value
  | _, draft => .error draft.mismatch

/-- A whole number of 32 bits. Beyond 64 bits, and as a negative zero, a numeral
no longer counts as a whole number. -/
def readWord : Reader UInt32
  | _, .number numeral =>
      let value := decimal numeral.digits
      if numeral.whole ∧ ¬ numeral.negative ∧ value < wordLimit then
        if value < 1 <<< 32 then .ok (UInt32.ofNat value) else .error .outOfRange
      else if numeral.whole ∧ numeral.negative ∧ 0 < value ∧
          value ≤ 1 <<< 63 then
        .error .outOfRange
      else
        .error (Draft.number numeral).mismatch
  | _, draft => .error draft.mismatch

/-- A value that may be absent, which is written `null`. -/
def readOptional {α : Type} (read : Reader α) : Reader (Option α)
  | _, .null => .ok none
  | levels, draft => (read levels draft).map some

/-- Go on below an array or object, if that is not too deep. -/
def enter {α : Type} (levels : Nat) (below : Nat → Reading α) : Reading α :=
  match levels with
  | 0 => .error (.fault .malformed)
  | levels + 1 => below levels

def readItems {α : Type} (read : Draft → Reading α) : Items → Reading (List α)
  | .closed => .ok []
  | .broken fault => .error (.fault fault)
  | .item value rest => do
      let value ← read value
      let rest ← readItems read rest
      return value :: rest

/-- An array of values of one kind. -/
def readList {α : Type} (read : Reader α) : Reader (List α)
  | levels, .array items => enter levels fun levels =>
      readItems (read levels) items
  | _, draft => .error draft.mismatch

/-- Put a member where its key first stood, or at the end. -/
def put {α : Type} (key : String) (value : α) :
    List (String × α) → List (String × α)
  | [] => [(key, value)]
  | (other, old) :: rest =>
      if other = key then (key, value) :: rest
      else (other, old) :: put key value rest

def readEntries {α : Type} (read : Draft → Reading α)
    (entries : List (String × α)) : Members → Reading (List (String × α))
  | .closed => .ok entries
  | .broken fault => .error (.fault fault)
  | .keyless found => .error (.fault found.keyFlaw.whenRead)
  | .member none _ _ => .error (.fault .malformed)
  | .member (some key) value rest => do
      let value ← read value
      readEntries read (put key value entries) rest

/-- An object whose keys are not fixed. A repeated key keeps its first place and
its last value. -/
def readMap {α : Type} (read : Reader α) : Reader (List (String × α))
  | levels, .object members => enter levels fun levels =>
      readEntries (read levels) [] members
  | _, draft => .error draft.mismatch

/-- A field of a record that is put together as a `σ`. -/
structure RecordField (σ : Type) where
  name : String
  read : Draft → σ → Reading σ

/-- The members of a record, given the fields that it has already. Members that
are no fields are skipped. -/
def readMembers {σ : Type} (fields : List (RecordField σ)) (given : List String)
    (record : σ) : Members → Reading σ
  | .closed => .ok record
  | .broken fault => .error (.fault fault)
  | .keyless found => .error (.fault found.keyFlaw.whenRead)
  | .member none _ _ => .error (.fault .malformed)
  | .member (some key) value rest =>
      match fields.find? (·.name = key) with
      | some field =>
          if key ∈ given then
            .error (.repeatedField key)
          else do
            let record ← field.read value record
            readMembers fields (key :: given) record rest
      | none =>
          match value.skip with
          | .error fault => .error (.fault fault)
          | .ok () => readMembers fields given record rest

/-- The fields of a record in their order, of which the last may be left out. -/
def readPositions {σ : Type} :
    List (RecordField σ) → σ → Items → Reading σ
  | _, record, .closed => .ok record
  | _, _, .broken fault => .error (.fault fault)
  | [], _, .item _ _ => .error (.fault .malformed)
  | field :: fields, record, .item value rest => do
      let record ← field.read value record
      readPositions fields record rest

/-- A record in either form. Its last step sees all that was given and is told
how to report a field that is missing. -/
def readRecord {σ α : Type} (empty : σ) (fields : Nat → List (RecordField σ))
    (finish : (String → ReadError) → σ → Reading α) : Reader α
  | levels, .object members => enter levels fun levels => do
      finish .missingField (← readMembers (fields levels) [] empty members)
  | levels, .array items => enter levels fun levels => do
      finish (fun _ => .wrongLength)
        (← readPositions (fields levels) empty items)
  | _, draft => .error draft.mismatch

/-- A field that a record cannot do without. -/
def required {α : Type} (missing : String → ReadError) (name : String)
    (value : Option α) : Reading α :=
  match value with
  | some value => .ok value
  | none => .error (missing name)

/-- One of two words, or the object that has the word as its only key and
nothing as its value. -/
def readChoice {α : Type} (first second : String × α) : Reader α
  | _, .text (some word) => choose word
  | _, .text none => .error (.fault .malformed)
  | levels, .object members => enter levels fun _ =>
      match members with
      | .closed => .error (.fault .malformed)
      | .broken fault => .error (.fault fault)
      | .keyless found => .error (.fault found.keyFlaw.whenRead)
      | .member none _ _ => .error (.fault .malformed)
      | .member (some word) value rest => do
          let choice ← choose word
          match value, rest with
          | .null, .closed => .ok choice
          | .null, .broken fault => .error (.fault fault)
          | .null, _ => .error (.fault .malformed)
          | value, _ => .error value.mismatch
  | _, .absent fault => .error (.fault fault)
  | _, .brokenText flaw => .error (.fault flaw.whenRead)
  | _, _ => .error (.fault .malformed)
where
  choose (word : String) : Reading α :=
    if word = first.1 then .ok first.2
    else if word = second.1 then .ok second.2
    else .error (.unknownVariant word first.1 second.1)

/-- Read a text that is to hold one value. -/
def Source.read {α : Type} (source : Source) (read : Reader α) : Reading α := do
  let value ← read levelLimit source.draft
  if source.trailing then
    throw (.fault .malformed)
  return value

end GraphSchema.Json
