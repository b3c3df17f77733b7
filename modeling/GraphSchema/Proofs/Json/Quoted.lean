import GraphSchema.Json.Printer
import GraphSchema.Json.Quoted

/-!
# Written texts are made out

A character between quotes stands for itself or is written as an escape. Either way
one piece of a text is made out of it, and the piece stands for the character. So the
characters of a text that is written are made out again, whatever they are.
-/

namespace GraphSchema.Json

theorem hexValue?_hexDigit :
    ∀ value < 16, hexValue? (hexDigit value) = some value := by
  decide

/-- The two digits of a small number are those of its unit. -/
theorem hexUnit?_small {value : Nat} (small : value < 256) :
    hexUnit? '0' '0' (hexDigit (value / 16)) (hexDigit (value % 16)) =
      some value := by
  have zero : hexValue? '0' = some 0 := by decide
  have high := hexValue?_hexDigit (value / 16) (by omega)
  have low := hexValue?_hexDigit (value % 16) (by omega)
  simp [hexUnit?, zero, high, low]
  omega

/-- A unit that is no surrogate is a character by itself. -/
theorem joinPieces_unit {unit : Nat} (small : unit < 0xD800)
    (pieces : List Piece) :
    joinPieces (.unit unit :: pieces) =
      (joinPieces pieces).map (Char.ofNat unit :: ·) := by
  have noHigh : isHighSurrogate unit = false := by
    simp [isHighSurrogate]
    omega
  have noLow : isLowSurrogate unit = false := by
    simp [isLowSurrogate]
    omega
  rw [joinPieces.eq_def]
  split <;> simp_all

theorem scanPieces_unit {first second third fourth : Char} {unit : Nat}
    (digits : hexUnit? first second third fourth = some unit)
    (rest : List Char) :
    scanPieces ('\\' :: 'u' :: first :: second :: third :: fourth :: rest) =
      (.unit unit :: (scanPieces rest).1, (scanPieces rest).2) := by
  rw [scanPieces, digits]

theorem scanPieces_char {char : Char} (quote : char ≠ '"')
    (backslash : char ≠ '\\') (control : ¬ char.toNat < 0x20)
    (rest : List Char) :
    scanPieces (char :: rest) =
      (.char char :: (scanPieces rest).1, (scanPieces rest).2) := by
  simp [scanPieces, backslash, control]

/-- One piece is made out of a character that is written, and it stands for the
character. -/
theorem scanPieces_escape (char : Char) (rest : List Char) :
    ∃ piece,
      scanPieces (escape char ++ rest) =
        (piece :: (scanPieces rest).1, (scanPieces rest).2) ∧
      ∀ pieces, joinPieces (piece :: pieces) =
        (joinPieces pieces).map (char :: ·) := by
  unfold escape
  split
  case h_1 | h_2 | h_3 | h_4 | h_5 | h_6 | h_7 =>
    exact ⟨.char _, rfl, fun pieces => rfl⟩
  case h_8 quote backslash _ _ _ _ _ =>
    split
    next control =>
      refine ⟨.unit char.toNat, scanPieces_unit (hexUnit?_small (by omega)) rest, ?_⟩
      intro pieces
      rw [joinPieces_unit (by omega), Char.ofNat_toNat]
    next plain =>
      exact ⟨.char char, scanPieces_char quote backslash plain rest,
        fun pieces => rfl⟩

/-- The characters of a text that is written are made out, and what follows the
closing quote is left. -/
theorem scanQuoted_escape (chars rest : List Char) :
    scanQuoted (chars.flatMap escape ++ '"' :: rest) = .ok (some chars, rest) := by
  have made : ∃ pieces,
      scanPieces (chars.flatMap escape ++ '"' :: rest) = (pieces, .ok rest) ∧
        joinPieces pieces = some chars := by
    induction chars with
    | nil => exact ⟨[], rfl, rfl⟩
    | cons char after ih =>
        obtain ⟨pieces, scanned, joined⟩ := ih
        obtain ⟨piece, first, stands⟩ :=
          scanPieces_escape char (after.flatMap escape ++ '"' :: rest)
        refine ⟨piece :: pieces, ?_, ?_⟩
        · rw [List.flatMap_cons, List.append_assoc, first, scanned]
        · rw [stands, joined]
          rfl
  obtain ⟨pieces, scanned, joined⟩ := made
  rw [scanQuoted, scanned, ← joined]

end GraphSchema.Json
