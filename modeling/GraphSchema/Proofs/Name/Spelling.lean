import GraphSchema.Name.Snake
import GraphSchema.Proofs.Name.Claims

/-!
# Characters of names

A name that is claimed is the wanted one, perhaps with an underscore and a number
behind it. Snake case changes letters and adds underscores. So the signs that
neither of them adds, a colon for instance, are in the name of a table or a
column exactly when they are in the names that it is made from.
-/

namespace GraphSchema

open Name

/-! ## Claimed names -/

namespace Name

theorem isDigit_of_mem_toString {number : Nat} {char : Char}
    (member : char ∈ (toString number).toList) : char.isDigit = true := by
  rw [Nat.toString_eq_repr, Nat.toList_repr] at member
  exact Nat.isDigit_of_mem_toDigits (by omega) (by omega) member

/-- A number adds nothing but an underscore and digits to a name. -/
theorem all_numbered {accept : Char → Bool} (underscore : accept '_' = true)
    (digits : ∀ char, char.isDigit = true → accept char = true)
    (name : String) (number : Nat) :
    (numbered name number).toList.all accept = name.toList.all accept := by
  have counted : (toString number).toList.all accept = true := by
    rw [List.all_eq_true]
    intro char member
    exact digits char (isDigit_of_mem_toString member)
  rw [numbered, String.toList_append, String.toList_append, List.all_append,
    List.all_append, counted, Bool.and_true]
  simp [underscore]

namespace Pool

theorem claim_cases (pool : Pool) (wanted : String) :
    (pool.claim wanted).1 = wanted ∨
      ∃ number, (pool.claim wanted).1 = numbered wanted number := by
  simp only [claim, firstFree]
  split
  · cases found : (attempts wanted pool.used).find? (· ∉ pool.used) with
    | none => exact Or.inl rfl
    | some name =>
        right
        have member := List.mem_of_find?_eq_some found
        obtain ⟨index, _, same⟩ := List.mem_map.1 member
        exact ⟨index + 1, same.symm⟩
  · exact Or.inl rfl

/-- A claim adds nothing but an underscore and digits to the wanted name. -/
theorem all_claim {accept : Char → Bool} (underscore : accept '_' = true)
    (digits : ∀ char, char.isDigit = true → accept char = true)
    (pool : Pool) (wanted : String) :
    (pool.claim wanted).1.toList.all accept = wanted.toList.all accept := by
  rcases pool.claim_cases wanted with same | ⟨number, same⟩
  · rw [same]
  · rw [same, all_numbered underscore digits]

/-- A claimed name ends as the wanted one does, or with a digit. -/
theorem getLast?_claim (pool : Pool) (wanted : String) :
    (pool.claim wanted).1.toList.getLast? = wanted.toList.getLast? ∨
      ∃ digit, digit.isDigit = true ∧
        (pool.claim wanted).1.toList.getLast? = some digit := by
  rcases pool.claim_cases wanted with same | ⟨number, same⟩
  · exact Or.inl (by rw [same])
  · right
    have nonempty : (toString number).toList ≠ [] := by
      simp [Nat.toString_eq_repr, Nat.toList_repr, Nat.toDigits_ne_nil]
    refine ⟨(toString number).toList.getLast nonempty,
      isDigit_of_mem_toString (List.getLast_mem nonempty), ?_⟩
    rw [same, numbered, String.toList_append, List.getLast?_append,
      List.getLast?_eq_some_getLast nonempty]
    rfl

theorem claim_ne_empty (pool : Pool) {wanted : String}
    (nonempty : wanted ≠ "") : (pool.claim wanted).1 ≠ "" := by
  rcases pool.claim_cases wanted with same | ⟨number, same⟩
  · rwa [same]
  · rw [same, numbered, ne_eq, ← String.toList_inj]
    simp

end Pool

end Name

/-! ## Signs -/

/-- Whether a character comes before the letters in the order of code points: the
digits and most of the signs that a keyboard has. -/
def IsSign (char : Char) : Prop :=
  0 < char.toNat ∧ char.toNat < 'A'.toNat

instance (char : Char) : Decidable (IsSign char) :=
  inferInstanceAs (Decidable (_ ∧ _))

namespace Text

theorem lowerings_letters :
    ∀ lowering ∈ lowerings,
      'A'.toNat ≤ lowering.capitals.first ∧ 'A'.toNat ≤ lowering.image := by
  decide +kernel

/-- What has the code point of a letter or a later one is no sign. -/
theorem ne_ofNat {sign : Char} (isSign : IsSign sign) {point : Nat}
    (letter : 'A'.toNat ≤ point) : sign ≠ Char.ofNat point := by
  rintro rfl
  by_cases valid : point.isValidChar
  · have same : Char.ofNat point = Char.ofNatAux point valid := dif_pos valid
    rw [same] at isSign
    have bound : point < 'A'.toNat := isSign.2
    exact absurd letter (Nat.not_le.2 bound)
  · have same : Char.ofNat point = '\u0000' := dif_neg valid
    rw [same] at isSign
    exact absurd isSign.1 (by decide)

/-- No sign is the lower-case form of another character. -/
theorem mem_lower {sign other : Char} (isSign : IsSign sign) :
    sign ∈ lower other ↔ other = sign := by
  rw [lower]
  split
  next dotted =>
    rw [dotted]
    have first : sign ≠ 'i' := ne_ofNat isSign (by decide)
    have second : sign ≠ '\u0307' := ne_ofNat isSign (by decide)
    have capital : sign ≠ 'İ' := ne_ofNat isSign (by decide)
    simp [first, second, capital.symm]
  next plain =>
    cases found : lowerings.find? (·.capitals.covers other.toNat) with
    | none => simp [eq_comm]
    | some lowering =>
        have letters :=
          lowerings_letters lowering (List.mem_of_find?_eq_some found)
        have covered := List.find?_some found
        simp only [Stride.covers, Bool.and_eq_true, decide_eq_true_eq] at covered
        have small : sign ≠ Char.ofNat
            (lowering.image + (other.toNat - lowering.capitals.first)) :=
          ne_ofNat isSign (by omega)
        have capital : other ≠ sign := by
          rintro rfl
          exact absurd isSign.2 (by omega)
        simp [small, capital]

end Text

namespace Name

/-- The signs of a snake case spelling are those of the name. -/
theorem mem_snakeChars {sign : Char} (isSign : IsSign sign) (before : Before)
    (chars : List Char) : sign ∈ snakeChars before chars ↔ sign ∈ chars := by
  have underscore : sign ≠ '_' := Text.ne_ofNat isSign (by decide)
  induction chars generalizing before with
  | nil => simp [snakeChars]
  | cons char after ih =>
      rw [snakeChars, List.mem_cons]
      split
      next same => simp [same, underscore, ih]
      next =>
        have lowered : sign ∈ Text.lower char ↔ sign = char := by
          rw [Text.mem_lower isSign, eq_comm]
        split
        · split <;> simp [underscore, lowered, ih]
        · simp [lowered, ih]

theorem mem_snake {sign : Char} (isSign : IsSign sign) (name : String) :
    sign ∈ (snake name).toList ↔ sign ∈ name.toList := by
  rw [snake, String.toList_ofList]
  exact mem_snakeChars isSign _ _

/-- The signs of a claimed name are those of the wanted one. -/
theorem mem_claim {sign : Char} (isSign : IsSign sign)
    (noDigit : sign.isDigit = false) (pool : Pool) (wanted : String) :
    sign ∈ (pool.claim wanted).1.toList ↔ sign ∈ wanted.toList := by
  have underscore : sign ≠ '_' := Text.ne_ofNat isSign (by decide)
  have same : (pool.claim wanted).1.toList.all (· != sign) =
      wanted.toList.all (· != sign) := by
    apply pool.all_claim
    · simpa using underscore.symm
    · rintro char digit
      have different : char ≠ sign := by
        rintro rfl
        rw [digit] at noDigit
        cases noDigit
      simpa using different
  have absent : ∀ chars : List Char,
      chars.all (· != sign) = true ↔ sign ∉ chars := by
    intro chars
    simp only [List.all_eq_true, bne_iff_ne]
    exact ⟨fun all member => all sign member rfl,
      fun free char member same => free (same ▸ member)⟩
  rw [← not_iff_not, ← absent, ← absent, same]

end Name

end GraphSchema
