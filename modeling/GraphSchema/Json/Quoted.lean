import GraphSchema.Json.Fault

/-!
# Text between quotes

A text is first cut into pieces, characters and the 16-bit units that `\u`
escapes stand for, up to the closing quote. Only a reader then puts the units
together: a pair of surrogates is one character, and a surrogate without its
partner is none.
-/

namespace GraphSchema.Json

inductive Piece where
  | char (char : Char)
  /-- A unit of UTF-16, written with `\u`. -/
  | unit (value : Nat)
  deriving DecidableEq, Repr

def isHighSurrogate (unit : Nat) : Bool :=
  0xD800 ≤ unit && unit < 0xDC00

def isLowSurrogate (unit : Nat) : Bool :=
  0xDC00 ≤ unit && unit < 0xE000

/-- The character of a pair of surrogates. -/
def joinSurrogates (high low : Nat) : Char :=
  Char.ofNat (0x10000 + (high - 0xD800) * 0x400 + (low - 0xDC00))

/-- The characters of some pieces, unless a surrogate stands alone. -/
def joinPieces : List Piece → Option (List Char)
  | [] => some []
  | .char char :: rest => (joinPieces rest).map (char :: ·)
  | .unit high :: .unit low :: rest =>
      if isHighSurrogate high then
        if isLowSurrogate low then
          (joinPieces rest).map (joinSurrogates high low :: ·)
        else
          none
      else if isLowSurrogate high then
        none
      else
        (joinPieces (.unit low :: rest)).map (Char.ofNat high :: ·)
  | .unit unit :: rest =>
      if isHighSurrogate unit || isLowSurrogate unit then
        none
      else
        (joinPieces rest).map (Char.ofNat unit :: ·)

/-- The value of a hexadecimal digit. -/
def hexValue? (char : Char) : Option Nat :=
  if char.isDigit then
    some (char.toNat - '0'.toNat)
  else if 'a' ≤ char ∧ char ≤ 'f' then
    some (char.toNat - 'a'.toNat + 10)
  else if 'A' ≤ char ∧ char ≤ 'F' then
    some (char.toNat - 'A'.toNat + 10)
  else
    none

/-- The value of four hexadecimal digits. -/
def hexUnit? (first second third fourth : Char) : Option Nat := do
  let first ← hexValue? first
  let second ← hexValue? second
  let third ← hexValue? third
  let fourth ← hexValue? fourth
  return ((first * 16 + second) * 16 + third) * 16 + fourth

/-- The character that a short escape stands for. -/
def shortEscape? (char : Char) : Option Char :=
  match char with
  | '"' => some '"'
  | '\\' => some '\\'
  | '/' => some '/'
  | 'b' => some '\x08'
  | 'f' => some '\x0c'
  | 'n' => some '\n'
  | 'r' => some '\r'
  | 't' => some '\t'
  | _ => none

/-- The number of bytes of a text in UTF-8. -/
def byteCount (text : List Char) : Nat :=
  text.foldr (fun char count => char.utf8Size + count) 0

/-- The pieces of a text up to its closing quote and what follows the quote, or
what is wrong after the last whole piece. A `\u` too close to the end of the
text for four bytes is a truncated one. -/
def scanPieces : List Char → List Piece × Except Fault (List Char)
  | [] => ([], .error .truncated)
  | '"' :: rest => ([], .ok rest)
  | ['\\'] => ([], .error .truncated)
  | '\\' :: 'u' :: first :: second :: third :: fourth :: rest =>
      match hexUnit? first second third fourth with
      | some unit =>
          let (pieces, ending) := scanPieces rest
          (.unit unit :: pieces, ending)
      | none => ([], .error .malformed)
  | '\\' :: 'u' :: rest =>
      ([], .error (if byteCount rest < 4 then .truncated else .malformed))
  | '\\' :: char :: rest =>
      match shortEscape? char with
      | some char =>
          let (pieces, ending) := scanPieces rest
          (.char char :: pieces, ending)
      | none => ([], .error .malformed)
  | char :: rest =>
      if char.toNat < 0x20 then
        ([], .error .malformed)
      else
        let (pieces, ending) := scanPieces rest
        (.char char :: pieces, ending)

/-- The pieces without a high surrogate at their end, whose partner might still
have come. -/
def withoutOpenPair : List Piece → List Piece
  | [] => []
  | [.unit unit] => if isHighSurrogate unit then [] else [.unit unit]
  | piece :: rest => piece :: withoutOpenPair rest

/-- What is wrong with a text that breaks off after some pieces. A reader takes
offence at a lone surrogate among them first. -/
def brokenQuote (pieces : List Piece) (fault : Fault) : Flaw where
  whenRead :=
    if (joinPieces (withoutOpenPair pieces)).isSome then fault else .malformed
  whenSkipped := fault

/-- A text after its opening quote: its characters, or none if a surrogate
stands alone, and what follows the closing quote. -/
def scanQuoted (text : List Char) :
    Except Flaw (Option (List Char) × List Char) :=
  match scanPieces text with
  | (pieces, .ok rest) => .ok (joinPieces pieces, rest)
  | (pieces, .error fault) => .error (brokenQuote pieces fault)

end GraphSchema.Json
