import GraphSchema.Proofs.Name.Spelling

/-!
# Names without capitals

Snake case leaves no capital letter of ASCII in a name, and a claim adds no
letters. So names that are made in this way differ even where letter case is
ignored, as long as they differ at all, and so do names that have the same words
before them.
-/

namespace GraphSchema

/-! ## Characters -/

namespace Text

/-- What comes before the capitals or after them has no small letter. -/
theorem toLower_eq_self {char : Char}
    (outside : char.toNat < 'A'.toNat ∨ 'Z'.toNat < char.toNat) :
    char.toLower = char := by
  have capital : ¬ (char.val ≥ 'A'.val ∧ char.val ≤ 'Z'.val) := by
    intro inside
    have first : 'A'.toNat ≤ char.toNat := inside.1
    have last : char.toNat ≤ 'Z'.toNat := inside.2
    omega
  exact dif_neg capital

theorem toLower_digit {char : Char} (digit : char.isDigit = true) :
    char.toLower = char := by
  have bounds := Char.isDigit_iff_toNat.1 digit
  have before : '9'.toNat < 'A'.toNat := by decide
  exact toLower_eq_self (Or.inl (by omega))

/-- The code points of small letters and those after them are no capitals. -/
theorem toLower_ofNat {point : Nat} (small : 'a'.toNat ≤ point) :
    (Char.ofNat point).toLower = Char.ofNat point := by
  have after : 'Z'.toNat < 'a'.toNat := by decide
  by_cases valid : point.isValidChar
  · have same : Char.ofNat point = Char.ofNatAux point valid := dif_pos valid
    have code : (Char.ofNatAux point valid).toNat = point := rfl
    rw [same]
    exact toLower_eq_self (by omega)
  · have same : Char.ofNat point = '\u0000' := dif_neg valid
    rw [same]
    decide

theorem lowerings_small :
    ∀ lowering ∈ lowerings, 'a'.toNat ≤ lowering.image := by
  decide +kernel

/-- The capitals of ASCII are the first of the letters that have a lower-case
form. -/
theorem capitals_mem_lowerings :
    ∃ lowering ∈ lowerings, ∀ point,
      lowering.capitals.covers point = true ↔
        'A'.toNat ≤ point ∧ point ≤ 'Z'.toNat := by
  refine ⟨⟨⟨'A'.toNat, 'Z'.toNat, 1⟩, 'a'.toNat⟩, List.mem_cons_self, ?_⟩
  intro point
  simp [Stride.covers, Nat.mod_one]

/-- No capital of ASCII is in the lower-case form of a character. -/
theorem toLower_of_mem_lower {char other : Char} (member : other ∈ lower char) :
    other.toLower = other := by
  rw [lower] at member
  split at member
  next dotted =>
    rcases List.mem_pair.1 member with rfl | rfl
    · decide
    · decide
  next plain =>
    cases found : lowerings.find? (·.capitals.covers char.toNat) with
    | some lowering =>
        rw [found, List.mem_singleton] at member
        have small :=
          lowerings_small lowering (List.mem_of_find?_eq_some found)
        rw [member]
        exact toLower_ofNat (by omega)
    | none =>
        rw [found, List.mem_singleton] at member
        rw [member]
        obtain ⟨capitals, present, covers⟩ := capitals_mem_lowerings
        have uncovered := List.find?_eq_none.1 found capitals present
        rw [covers] at uncovered
        exact toLower_eq_self (by omega)

end Text

/-! ## Names -/

namespace Name

/-- Whether a name has no capital letters of ASCII. -/
def Lowered (name : String) : Prop :=
  ∀ char ∈ name.toList, char.toLower = char

instance (name : String) : Decidable (Lowered name) :=
  List.decidableBAll (fun char : Char => char.toLower = char) name.toList

theorem toList_toLower (name : String) :
    name.toLower.toList = name.toList.map Char.toLower :=
  String.toList_map

theorem toLower_append (left right : String) :
    (left ++ right).toLower = left.toLower ++ right.toLower := by
  rw [← String.toList_inj]
  simp [toList_toLower]

namespace Lowered

/-- A name without capitals stays the same when letter case is ignored. -/
theorem toLower_eq {name : String} (lowered : Lowered name) :
    name.toLower = name := by
  rw [← String.toList_inj, toList_toLower]
  exact (List.map_congr_left lowered).trans (List.map_id' _)

theorem append {left right : String} (leftLowered : Lowered left)
    (rightLowered : Lowered right) : Lowered (left ++ right) := by
  rw [Lowered, String.toList_append, List.forall_mem_append]
  exact ⟨leftLowered, rightLowered⟩

/-- What has the same words before it is told apart by its letters alone. -/
theorem eq_of_toLower_eq {before left right : String}
    (leftLowered : Lowered left) (rightLowered : Lowered right)
    (same : (before ++ left).toLower = (before ++ right).toLower) :
    left = right := by
  rw [toLower_append, toLower_append, leftLowered.toLower_eq,
    rightLowered.toLower_eq] at same
  simpa using same

/-- Distinct names without capitals are distinct when letter case is ignored. -/
theorem nodup_toLower {names : List String}
    (lowered : ∀ name ∈ names, Lowered name) (distinct : names.Nodup) :
    (names.map String.toLower).Nodup := by
  have same : names.map String.toLower = names := by
    apply (List.map_congr_left fun name member =>
      (lowered name member).toLower_eq).trans
    exact List.map_id' names
  rwa [same]

end Lowered

theorem lowered_number (number : Nat) : Lowered (toString number) := by
  intro char member
  exact Text.toLower_digit (isDigit_of_mem_toString member)

/-- There is nothing but small letters and the underscores between words in snake
case, as far as ASCII goes. -/
theorem lowered_snakeChars (before : Before) (chars : List Char) :
    ∀ char ∈ snakeChars before chars, char.toLower = char := by
  induction chars generalizing before with
  | nil => simp [snakeChars]
  | cons first after ih =>
      intro char member
      rw [snakeChars] at member
      split at member
      · rcases List.mem_cons.1 member with rfl | later
        · decide
        · exact ih _ char later
      · split at member
        · rw [List.mem_append, List.mem_append] at member
          rcases member with (broken | lowered) | later
          · split at broken
            · obtain rfl := List.mem_singleton.1 broken
              decide
            · exact absurd broken List.not_mem_nil
          · exact Text.toLower_of_mem_lower lowered
          · exact ih _ char later
        · rcases List.mem_append.1 member with lowered | later
          · exact Text.toLower_of_mem_lower lowered
          · exact ih _ char later

theorem lowered_snake (name : String) : Lowered (snake name) := by
  rw [Lowered, snake, String.toList_ofList]
  exact lowered_snakeChars _ _

/-- A claimed name has capitals exactly when the wanted one has. -/
theorem lowered_claim {pool : Pool} {wanted : String} :
    Lowered (pool.claim wanted).1 ↔ Lowered wanted := by
  have same : (pool.claim wanted).1.toList.all (fun char => char.toLower == char) =
      wanted.toList.all fun char => char.toLower == char := by
    apply pool.all_claim
    · decide
    · intro char digit
      simpa using Text.toLower_digit digit
  have lowered : ∀ name : String,
      name.toList.all (fun char => char.toLower == char) = true ↔ Lowered name := by
    intro name
    simp [Lowered]
  rw [← lowered, ← lowered, same]

/-- A claim changes a name only behind the words that it begins with. -/
theorem exists_claim_eq_append {before after : String} (pool : Pool)
    (lowered : Lowered after) :
    ∃ rest, Lowered rest ∧ (pool.claim (before ++ after)).1 = before ++ rest := by
  rcases pool.claim_cases (before ++ after) with same | ⟨number, same⟩
  · exact ⟨after, lowered, same⟩
  · refine ⟨after ++ "_" ++ toString number, ?_, ?_⟩
    · exact (lowered.append (by decide)).append (lowered_number number)
    · rw [same, numbered]
      simp only [String.append_assoc]

end Name

end GraphSchema
