import GraphSchema.Proofs.Name.Breaks

/-!
# Snake case of snake case

Spelling a name takes nothing from it but the letter case: without the underscores, the
spelling is the lower case of the name. An underscore is added between two other characters
only, so the spelling begins with one, or has two side by side, exactly if the name does.
This holds of every rule that breaks no word at the start or behind an underscore.

A name of ASCII keeps no capital, and where there is none no word begins. So to spell the
spelling changes nothing any more. Beyond ASCII some capitals have no small letter.
-/

namespace GraphSchema

/-! ## Characters that stay -/

namespace Text

/-- Whether a character is no capital and its own lower case. -/
def Stays (char : Char) : Prop :=
  isUpper char = false ∧ lower char = [char]

theorem stays_underscore : Stays '_' :=
  ⟨isUpper_underscore, lower_underscore⟩

/-- The capitals of ASCII are its letters from `A` to `Z`. -/
theorem uppercase_ascii :
    ∀ stride ∈ uppercase, stride.first < 128 →
      'A'.toNat ≤ stride.first ∧ stride.last ≤ 'Z'.toNat := by
  decide +kernel

/-- The only stride of capitals that begins in ASCII is that of its letters. -/
theorem lowerings_ascii :
    ∀ lowering ∈ lowerings, lowering.capitals.first < 128 →
      lowering.capitals.first = 'A'.toNat ∧ lowering.capitals.last = 'Z'.toNat ∧
        lowering.image = 'a'.toNat := by
  decide +kernel

theorem toLower_letters :
    ∀ point ≤ 'Z'.toNat, 'A'.toNat ≤ point →
      (Char.ofNat point).toLower = Char.ofNat ('a'.toNat + (point - 'A'.toNat)) ∧
        (Char.ofNat point).toLower ≠ Char.ofNat point := by
  decide +kernel

theorem toLower_ascii : ∀ point < 128, (Char.ofNat point).toLower.toNat < 128 := by
  decide +kernel

/-- The lower case of a character of ASCII is one character, the usual one. -/
theorem lower_ascii {char : Char} (ascii : char.toNat < 128) :
    lower char = [char.toLower] := by
  have plain : char ≠ 'İ' := by
    rintro rfl
    exact absurd ascii (by decide)
  rw [lower, if_neg plain]
  cases found : lowerings.find? (·.capitals.covers char.toNat) with
  | none =>
      obtain ⟨capitals, present, covers⟩ := capitals_mem_lowerings
      have uncovered := List.find?_eq_none.1 found capitals present
      rw [covers] at uncovered
      have same : char.toLower = char := toLower_eq_self (by omega)
      rw [same]
  | some lowering =>
      have covered := List.find?_some found
      simp only [Stride.covers, Bool.and_eq_true, decide_eq_true_eq] at covered
      obtain ⟨first, last, image⟩ :=
        lowerings_ascii lowering (List.mem_of_find?_eq_some found) (by omega)
      have letter := (toLower_letters char.toNat (by omega) (by omega)).1
      rw [Char.ofNat_toNat] at letter
      simp only [first, image, letter]

/-- A character of ASCII that is its own lower case is no capital. -/
theorem stays_of_toLower_eq {char : Char} (ascii : char.toNat < 128)
    (same : char.toLower = char) : Stays char := by
  have single := lower_ascii ascii
  rw [same] at single
  refine ⟨List.any_eq_false.2 fun stride member covered => ?_, single⟩
  simp only [Stride.covers, Bool.and_eq_true, decide_eq_true_eq] at covered
  have letters := uppercase_ascii stride member (by omega)
  have letter := (toLower_letters char.toNat (by omega) (by omega)).2
  rw [Char.ofNat_toNat] at letter
  exact letter same

/-- In ASCII the lower case of a character stays. -/
theorem stays_toLower {char : Char} (ascii : char.toNat < 128) : Stays char.toLower := by
  have bound := toLower_ascii char.toNat ascii
  rw [Char.ofNat_toNat] at bound
  have lowered : char.toLower ∈ lower char := by
    rw [lower_ascii ascii]
    exact List.mem_singleton_self _
  exact stays_of_toLower_eq bound (toLower_of_mem_lower lowered)

end Text

namespace Name

open Text

/-! ## Any rule -/

section Rules

variable {rule : BreakRule} {before : Option Char} {chars : List Char}

/-- A spelling without its underscores is the lower case without its underscores. -/
theorem filter_spell (rule : BreakRule) (before : Option Char) (chars : List Char) :
    (spell rule before chars).filter (· != '_') =
      (chars.flatMap lower).filter (· != '_') := by
  induction chars generalizing before with
  | nil => rfl
  | cons char after ih =>
      have broken : ∀ breaks : Bool,
          (if breaks then ['_'] else []).filter (· != '_') = [] := by decide
      rw [spell, List.flatMap_cons, List.filter_append, List.filter_append,
        List.filter_append, broken, List.nil_append, ih]

/-- A spelling has underscores, and else what lower case makes of the name. -/
theorem mem_spell {char : Char} (member : char ∈ spell rule before chars) :
    char = '_' ∨ ∃ other ∈ chars, char ∈ lower other := by
  induction chars generalizing before with
  | nil => exact absurd member List.not_mem_nil
  | cons first after ih =>
      rw [spell, List.mem_append, List.mem_append] at member
      rcases member with (broken | here) | later
      · left
        split at broken
        · exact List.mem_singleton.1 broken
        · exact absurd broken List.not_mem_nil
      · exact Or.inr ⟨first, List.mem_cons_self, here⟩
      · refine (ih later).imp_right ?_
        rintro ⟨other, inside, lowered⟩
        exact ⟨other, List.mem_cons_of_mem _ inside, lowered⟩

/-- Where every character stays, no rule changes anything. -/
theorem spell_eq_self (stay : ∀ char ∈ chars, Stays char) :
    spell rule before chars = chars := by
  induction chars generalizing before with
  | nil => rfl
  | cons char after ih =>
      have here := stay char List.mem_cons_self
      have later : spell rule (some char) after = after := ih fun other member =>
        stay other (List.mem_cons_of_mem _ member)
      simp [spell, here.1, here.2, later]

/-! ## Underscores side by side -/

theorem doubled_cons {rest : List Char} :
    ['_', '_'] <:+: '_' :: rest ↔ rest.head? = some '_' ∨ ['_', '_'] <:+: rest := by
  cases rest with
  | nil => simp [List.infix_cons_iff]
  | cons char rest => simp [List.infix_cons_iff, List.cons_prefix_cons, eq_comm]

theorem doubled_append {front rest : List Char} (absent : '_' ∉ front) :
    ['_', '_'] <:+: front ++ rest ↔ ['_', '_'] <:+: rest := by
  induction front with
  | nil => rfl
  | cons char front ih =>
      rw [List.mem_cons, not_or] at absent
      rw [List.cons_append, List.infix_cons_iff, List.cons_prefix_cons, ih absent.2]
      simp [absent.1]

/-- Nothing but an underscore has a lower case that begins with one. -/
theorem head?_lower_append {char : Char} (other : char ≠ '_') (rest : List Char) :
    (lower char ++ rest).head? ≠ some '_' := by
  have absent := underscore_not_mem_lower other
  obtain ⟨low, more, lowered⟩ := List.exists_cons_of_ne_nil (lower_ne_nil char)
  rw [lowered, List.mem_cons, not_or] at absent
  simpa [lowered] using Ne.symm absent.1

/-- Behind an underscore, as at the start, nothing is added. So the spelling begins with
an underscore exactly if the characters do. -/
theorem head?_spell (still : ∀ after, rule before after = false) :
    (spell rule before chars).head? = some '_' ↔ chars.head? = some '_' := by
  cases chars with
  | nil => rfl
  | cons char after =>
      have spelled : spell rule before (char :: after) =
          lower char ++ spell rule (some char) after := by
        simp [spell, still]
      rw [spelled]
      by_cases same : char = '_'
      · simp [same, lower_underscore]
      · have different : (char :: after).head? ≠ some '_' := by simpa using same
        exact iff_of_false (head?_lower_append same _) different

/-- A rule that breaks no word behind an underscore puts no two of them side by side. -/
theorem doubled_spell (still : ∀ after, rule (some '_') after = false) :
    ['_', '_'] <:+: spell rule before chars ↔ ['_', '_'] <:+: chars := by
  induction chars generalizing before with
  | nil => rfl
  | cons char after ih =>
      by_cases same : char = '_'
      · have spelled : spell rule before (char :: after) =
            '_' :: spell rule (some '_') after := by
          simp [spell, same, isUpper_underscore, lower_underscore]
        rw [spelled, same, doubled_cons, doubled_cons, head?_spell still, ih]
      · have single : '_' ∉ [char] := by simpa using Ne.symm same
        have behind : ['_', '_'] <:+: lower char ++ spell rule (some char) after ↔
            ['_', '_'] <:+: char :: after := by
          rw [doubled_append (underscore_not_mem_lower same), ih]
          exact (doubled_append single).symm
        rw [spell, List.append_assoc]
        split
        · -- What follows the added underscore is a letter.
          rw [List.singleton_append, doubled_cons, behind]
          exact or_iff_right (head?_lower_append same _)
        · exact behind

end Rules

/-! ## Names -/

/-- Where the lower case of every character stays, all of a spelling does. -/
theorem stays_snake {name : String}
    (lowers : ∀ char ∈ name.toList, ∀ low ∈ lower char, Stays low) :
    ∀ char ∈ (snake name).toList, Stays char := by
  intro char member
  rw [toList_snake] at member
  rcases mem_spell member with rfl | ⟨other, inside, lowered⟩
  · exact stays_underscore
  · exact lowers other inside char lowered

/-- A name of characters that stay is spelled as it is. -/
theorem snake_eq_self {name : String} (stay : ∀ char ∈ name.toList, Stays char) :
    snake name = name := by
  rw [← String.toList_inj, toList_snake]
  exact spell_eq_self stay

/-- Whether a name is one of ASCII. -/
def IsAscii (name : String) : Prop :=
  ∀ char ∈ name.toList, char.toNat < 128

instance (name : String) : Decidable (IsAscii name) :=
  List.decidableBAll (fun char : Char => char.toNat < 128) name.toList

/-- The spelling of a name of ASCII has no capital and is its own spelling. But for
underscores it is the lower case of the name, and it begins with an underscore, or has two
side by side, exactly if the name does. -/
theorem snake_ascii {name : String} (ascii : IsAscii name) :
    (∀ char ∈ (snake name).toList, isUpper char = false) ∧
      snake (snake name) = snake name ∧
      (snake name).toList.filter (· != '_') = name.toLower.toList.filter (· != '_') ∧
      ((snake name).toList.head? = some '_' ↔ name.toList.head? = some '_') ∧
      (['_', '_'] <:+: (snake name).toList ↔ ['_', '_'] <:+: name.toList) := by
  have stay : ∀ char ∈ (snake name).toList, Stays char := by
    refine stays_snake fun char member low lowered => ?_
    rw [lower_ascii (ascii char member), List.mem_singleton] at lowered
    rw [lowered]
    exact stays_toLower (ascii char member)
  have lowered : name.toList.flatMap lower = name.toLower.toList := by
    rw [toList_toLower, List.map_eq_flatMap]
    exact List.flatMap_congr fun char member => lower_ascii (ascii char member)
  refine ⟨fun char member => (stay char member).1, snake_eq_self stay, ?_, ?_, ?_⟩
  · rw [toList_snake, filter_spell, lowered]
  · rw [toList_snake]
    exact head?_spell fun _ => rfl
  · rw [toList_snake]
    exact doubled_spell fun _ => rfl

theorem snake_ascii_acronym :
    IsAscii "_getHTTP__Response" ∧
      snake "_getHTTP__Response" = "_get_http__response" ∧
      snake "_get_http__response" = "_get_http__response" ∧
      ['_', '_'] <:+: "_get_http__response".toList := by
  have ascii : IsAscii "_getHTTP__Response" := by decide
  have spelled : snake "_getHTTP__Response" = "_get_http__response" := by decide +kernel
  have doubled : ['_', '_'] <:+: "_getHTTP__Response".toList :=
    ⟨"_getHTTP".toList, "Response".toList, by decide⟩
  obtain ⟨_, again, _, _, kept⟩ := snake_ascii ascii
  rw [spelled] at again kept
  exact ⟨ascii, spelled, again, kept.2 doubled⟩

/-- A capital without a small letter stays one. It begins a word only in the second
spelling, where a small letter is before it. -/
example : snake "Aℂ" = "aℂ" ∧ snake "aℂ" = "a_ℂ" := by decide +kernel

end Name

end GraphSchema
