import GraphSchema.Json.Fault

/-!
# JSON numerals

A numeral is kept as it is written: its digits and its exponent. Documents here
ask for whole numbers only, but every numeral that is read has to be a finite
double, so its size matters even where its value does not.
-/

namespace GraphSchema.Json

structure Numeral where
  negative : Bool
  /-- The digits before and after the point. -/
  digits : List Char
  /-- The power of ten that scales the digits. -/
  exponent : Int
  /-- Written with neither a point nor an exponent. -/
  whole : Bool
  deriving DecidableEq, Repr

/-- The value of a string of decimal digits. -/
def decimal (digits : List Char) : Nat :=
  Nat.ofDigitChars 10 digits 0

/-- The first number that takes more than 64 bits. -/
def wordLimit : Nat := 1 <<< 64

/-- The digits that fit into 64 bits, as a number, and how many digits are
left over. -/
def leading (value : Nat) : List Char → Nat × Nat
  | [] => (value, 0)
  | digit :: rest =>
      let longer := 10 * value + (digit.toNat - '0'.toNat)
      if longer < wordLimit then leading longer rest else (value, rest.length + 1)

/-- The nearest number with 53 significant bits, an even one if two are
equally near. -/
def toDouble (value : Nat) : Nat :=
  if value.log2 < 53 then
    value
  else
    let unit := 1 <<< (value.log2 - 52)
    let count := value / unit
    let rest := value % unit
    if 2 * rest < unit ∨ (2 * rest = unit ∧ count % 2 = 0) then
      count * unit
    else
      (count + 1) * unit

namespace Numeral

/-- Whether the numeral stands for a finite double. Its value is computed as the
product of two doubles, the leading digits and a power of ten, and has to stay
below the middle between the largest double and the next power of two. -/
def finite (numeral : Numeral) : Bool :=
  let (digits, dropped) := leading 0 numeral.digits
  let power := numeral.exponent + dropped
  digits == 0 || power < 0 ||
    (power ≤ 308 &&
      toDouble digits * toDouble (Nat.pow 10 power.toNat) <
        1 <<< 1024 - 1 <<< 970)

end Numeral

/-- A numeral at the start of a text and what follows it, or what is wrong. -/
abbrev ScannedNumeral := Except Flaw (Numeral × List Char)

/-- A digit is due. At the end of a text the reader misses it, whereas skipping
takes the end for a wrong character. -/
def digitMissing (text : List Char) : Flaw :=
  if text.isEmpty then ⟨.truncated, .malformed⟩ else .both .malformed

/-- An exponent, if the text goes on with one. -/
def scanExponent (numeral : Numeral) (text : List Char) : ScannedNumeral :=
  match text with
  | 'e' :: rest | 'E' :: rest =>
      let (negative, rest) := match rest with
        | '+' :: rest => (false, rest)
        | '-' :: rest => (true, rest)
        | _ => (false, rest)
      match rest.takeWhile Char.isDigit with
      | [] => .error (digitMissing rest)
      | digits =>
          let power : Int := decimal digits
          .ok ({ numeral with
            exponent := numeral.exponent + if negative then -power else power
            whole := false }, rest.dropWhile Char.isDigit)
  | _ => .ok (numeral, text)

/-- A fraction, if the text goes on with one, and an exponent. -/
def scanFraction (numeral : Numeral) (text : List Char) : ScannedNumeral :=
  match text with
  | '.' :: rest =>
      match rest.takeWhile Char.isDigit with
      | [] => .error (digitMissing rest)
      | digits =>
          scanExponent { numeral with
            digits := numeral.digits ++ digits
            exponent := -(digits.length : Int)
            whole := false } (rest.dropWhile Char.isDigit)
  | _ => scanExponent numeral text

/-- A numeral after its sign. Only a lone zero may begin with one. -/
def scanUnsigned (negative : Bool) (text : List Char) : ScannedNumeral :=
  match text with
  | '0' :: rest =>
      if rest.head?.any Char.isDigit then
        .error (.both .malformed)
      else
        scanFraction ⟨negative, ['0'], 0, true⟩ rest
  | _ =>
      match text.takeWhile Char.isDigit with
      | [] => .error (digitMissing text)
      | digits =>
          scanFraction ⟨negative, digits, 0, true⟩ (text.dropWhile Char.isDigit)

/-- A numeral at the start of a text. -/
def scanNumeral (text : List Char) : ScannedNumeral :=
  match text with
  | '-' :: rest => scanUnsigned true rest
  | _ => scanUnsigned false text

end GraphSchema.Json
