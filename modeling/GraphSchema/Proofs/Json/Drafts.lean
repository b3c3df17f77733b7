import GraphSchema.Json.Scan
import GraphSchema.Proofs.Json.Quoted
import GraphSchema.Proofs.Lists

/-!
# Written values are made out

The text of a value is made out as the draft of the value, and nothing of the text is
left, whatever blanks stand between its parts. So it does not matter whether it is
written on one line or over several. A value is made out of the start of a longer text
as well, as long as what follows is no part of a numeral: a value inside another one is
followed by a comma, a blank or a closing bracket.
-/

namespace GraphSchema.Json

mutual

/-- A value as it is made out of its text. -/
def draft : Json → Draft
  | .null => .null
  | .bool value => .bool value
  | .number value => .number ⟨false, Nat.toDigits 10 value, 0, true⟩
  | .text value => .text (some value)
  | .array items => .array (draftItems items)
  | .object members => .object (draftMembers members)

/-- Items as they are made out, up to the closing bracket. -/
def draftItems : List Json → Items
  | [] => .closed
  | item :: rest => .item (draft item) (draftItems rest)

/-- Members as they are made out, up to the closing brace. -/
def draftMembers : List (String × Json) → Members
  | [] => .closed
  | (name, value) :: rest => .member (some name) (draft value) (draftMembers rest)

end

/-! ## Texts with blanks -/

/-- The blanks of a text: those at the start of each item and member and before each
closing bracket, by the level of nesting, and those behind the colon of a member. -/
structure Spacing where
  gap : Nat → List Char
  space : List Char
  gap_blank : ∀ level, ∀ char ∈ gap level, isBlank char = true
  space_blank : ∀ char ∈ space, isBlank char = true

namespace Spacing

/-- The blanks of a text over several lines. -/
def lines : Spacing where
  gap := newLine
  space := [' ']
  gap_blank level char member := by
    rcases List.mem_cons.1 member with rfl | blank
    · rfl
    · rw [List.eq_of_mem_replicate blank]
      rfl
  space_blank := by simp [isBlank]

def tight : Spacing where
  gap _ := []
  space := []
  gap_blank := by simp
  space_blank := by simp

end Spacing

mutual

/-- The text of a value with the blanks of a spacing. -/
def spacedChars (spacing : Spacing) (level : Nat) : Json → List Char
  | .array (first :: rest) =>
      '[' :: spacing.gap (level + 1) ++ spacedChars spacing (level + 1) first ++
        spacedItems spacing (level + 1) rest ++ spacing.gap level ++ [']']
  | .object ((name, first) :: rest) =>
      '\x7b' :: spacing.gap (level + 1) ++ quote name ++ ':' :: spacing.space ++
        spacedChars spacing (level + 1) first ++
        spacedMembers spacing (level + 1) rest ++ spacing.gap level ++ ['\x7d']
  | value => leaf value

def spacedItems (spacing : Spacing) (level : Nat) : List Json → List Char
  | [] => []
  | item :: rest =>
      ',' :: spacing.gap level ++ spacedChars spacing level item ++
        spacedItems spacing level rest

def spacedMembers (spacing : Spacing) (level : Nat) :
    List (String × Json) → List Char
  | [] => []
  | (name, value) :: rest =>
      ',' :: spacing.gap level ++ quote name ++ ':' :: spacing.space ++
        spacedChars spacing level value ++ spacedMembers spacing level rest

end

mutual

theorem prettyChars_eq (level : Nat) (value : Json) :
    prettyChars level value = spacedChars .lines level value := by
  match value with
  | .null | .bool _ | .number _ | .text _ | .array [] | .object [] => rfl
  | .array (first :: rest) =>
    rw [prettyChars, spacedChars, prettyChars_eq _ first, prettyItems_eq _ rest]
    rfl
  | .object ((name, first) :: rest) =>
    rw [prettyChars, spacedChars, prettyChars_eq _ first, prettyMembers_eq _ rest]
    simp [Spacing.lines]

theorem prettyItems_eq (level : Nat) (items : List Json) :
    prettyItems level items = spacedItems .lines level items := by
  match items with
  | [] => rfl
  | item :: rest =>
    rw [prettyItems, spacedItems, prettyChars_eq _ item, prettyItems_eq _ rest]
    rfl

theorem prettyMembers_eq (level : Nat) (members : List (String × Json)) :
    prettyMembers level members = spacedMembers .lines level members := by
  match members with
  | [] => rfl
  | (name, value) :: rest =>
    rw [prettyMembers, spacedMembers, prettyChars_eq _ value, prettyMembers_eq _ rest]
    simp [Spacing.lines]

end

mutual

theorem compactChars_eq (level : Nat) (value : Json) :
    compactChars value = spacedChars .tight level value := by
  match value with
  | .null | .bool _ | .number _ | .text _ | .array [] | .object [] => rfl
  | .array (first :: rest) =>
    rw [compactChars, spacedChars, compactChars_eq (level + 1) first,
      compactItems_eq (level + 1) rest]
    simp [Spacing.tight]
  | .object ((name, first) :: rest) =>
    rw [compactChars, spacedChars, compactChars_eq (level + 1) first,
      compactMembers_eq (level + 1) rest]
    simp [Spacing.tight]

theorem compactItems_eq (level : Nat) (items : List Json) :
    compactItems items = spacedItems .tight level items := by
  match items with
  | [] => rfl
  | item :: rest =>
    rw [compactItems, spacedItems, compactChars_eq level item, compactItems_eq level rest]
    rfl

theorem compactMembers_eq (level : Nat) (members : List (String × Json)) :
    compactMembers members = spacedMembers .tight level members := by
  match members with
  | [] => rfl
  | (name, value) :: rest =>
    rw [compactMembers, spacedMembers, compactChars_eq level value,
      compactMembers_eq level rest]
    simp [Spacing.tight]

end

/-! ## Numerals -/

section Numerals

/-- A text before which a numeral ends. -/
def EndsNumeral (text : List Char) : Prop :=
  ∀ char ∈ text.head?,
    char.isDigit = false ∧ char ≠ '.' ∧ char ≠ 'e' ∧ char ≠ 'E'

/-- A number begins with a digit, and with zero only if it is zero. -/
theorem toDigits_head (value : Nat) :
    ∃ first more, Nat.toDigits 10 value = first :: more ∧
      first.isDigit = true ∧ (first = '0' → more = []) := by
  induction value using Nat.strongRecOn with
  | ind value ih =>
      by_cases single : value < 10
      · have digits := Nat.toDigits_of_lt_base single
        refine ⟨_, [], digits, ?_, fun _ => rfl⟩
        exact Nat.isDigit_of_mem_toDigits (by omega) (by omega)
          (digits ▸ List.mem_singleton_self _)
      · obtain ⟨first, more, digits, digit, zero⟩ := ih (value / 10) (by omega)
        refine ⟨first, more ++ [(value % 10).digitChar], ?_, digit, ?_⟩
        · rw [Nat.toDigits_of_base_le (by omega) (by omega), digits, List.cons_append]
        · intro isZero
          -- A number of at least ten has a tenth that is not zero.
          have tenth : Nat.ofDigitChars 10 (Nat.toDigits 10 (value / 10)) 0 =
              value / 10 := Nat.ofDigitChars_ten_toDigits
          rw [digits, isZero, zero isZero] at tenth
          simp [Nat.ofDigitChars] at tenth
          omega

theorem scanFraction_end (numeral : Numeral) {text : List Char}
    (ends : EndsNumeral text) : scanFraction numeral text = .ok (numeral, text) := by
  cases text with
  | nil => rfl
  | cons char rest =>
      obtain ⟨-, point, lower, upper⟩ := ends char rfl
      simp [scanFraction, scanExponent, point, lower, upper]

/-- The digits of a number are made out as its numeral. -/
theorem scanNumeral_toDigits (value : Nat) {text : List Char}
    (ends : EndsNumeral text) :
    scanNumeral (Nat.toDigits 10 value ++ text) =
      .ok (⟨false, Nat.toDigits 10 value, 0, true⟩, text) := by
  obtain ⟨first, more, digits, -, zero⟩ := toDigits_head value
  have isDigit : ∀ char ∈ first :: more, char.isDigit = true := by
    intro char member
    rw [← digits] at member
    exact Nat.isDigit_of_mem_toDigits (by omega) (by omega) member
  have unsigned : first ≠ '-' := by
    rintro rfl
    exact absurd (isDigit '-' (by simp)) (by decide)
  obtain ⟨taken, left⟩ :=
    takeWhile_dropWhile_append isDigit fun char follows => (ends char follows).1
  rw [digits, List.cons_append, scanNumeral.eq_2 _ (by simpa using unsigned)]
  by_cases isZero : first = '0'
  · have noDigit : text.head?.any Char.isDigit = false := by
      cases text with
      | nil => rfl
      | cons char rest => simpa using (ends char rfl).1
    rw [zero isZero, isZero, List.nil_append, scanUnsigned, noDigit]
    exact scanFraction_end _ ends
  · rw [List.cons_append] at taken left
    rw [scanUnsigned.eq_2 _ _ (by simpa using isZero), taken]
    simp only [left]
    exact scanFraction_end _ ends

end Numerals

/-! ## Parts of a text -/

theorem skipBlanks_cons {first : Char} (blank : isBlank first = false)
    (more : List Char) : skipBlanks (first :: more) = first :: more :=
  List.dropWhile_cons_of_neg (by simp [blank])

/-! What follows some blanks is made out as if it stood alone. -/

section Blanks

variable {blanks : List Char} (blank : ∀ char ∈ blanks, isBlank char = true)
  (steps : Nat) (text : List Char)

include blank

theorem skipBlanks_append : skipBlanks (blanks ++ text) = skipBlanks text :=
  List.dropWhile_append_of_pos blank

theorem scanValue_blanks : scanValue steps (blanks ++ text) = scanValue steps text := by
  cases steps with
  | zero => rfl
  | succ steps => rw [scanValue, scanValue, skipBlanks_append blank]

theorem scanItems_blanks : scanItems steps (blanks ++ text) = scanItems steps text := by
  cases steps with
  | zero => rfl
  | succ steps => rw [scanItems, scanItems, scanValue_blanks blank]

theorem scanMembers_blanks :
    scanMembers steps (blanks ++ text) = scanMembers steps text := by
  cases steps with
  | zero => rfl
  | succ steps => rw [scanMembers, scanMembers, skipBlanks_append blank]

theorem endsNumeral_blanks (ends : EndsNumeral text) : EndsNumeral (blanks ++ text) := by
  cases blanks with
  | nil => exact ends
  | cons first more =>
      rintro char ⟨⟩
      have first_blank := blank first List.mem_cons_self
      simp only [isBlank, Bool.or_eq_true, beq_iff_eq] at first_blank
      rcases first_blank with ((rfl | rfl) | rfl) | rfl <;> decide

end Blanks

theorem isBlank_of_isDigit {char : Char} (digit : char.isDigit = true) :
    isBlank char = false := by
  rw [Bool.eq_false_iff]
  intro blank
  simp only [isBlank, Bool.or_eq_true, beq_iff_eq] at blank
  rcases blank with ((rfl | rfl) | rfl) | rfl <;> exact absurd digit (by decide)

/-- Where neither an array nor an object begins, a value without parts is made
out. -/
theorem scanValue_leaf (steps : Nat) {first : Char} (more : List Char)
    (blank : isBlank first = false) (array : first ≠ '[') (object : first ≠ '\x7b') :
    scanValue (steps + 1) (first :: more) = scanLeaf (first :: more) := by
  rw [scanValue, skipBlanks_cons blank]
  split <;> simp_all

theorem scanValue_toDigits (steps value : Nat) {rest : List Char}
    (ends : EndsNumeral rest) :
    scanValue (steps + 1) (Nat.toDigits 10 value ++ rest) =
      (draft (.number value), rest) := by
  have scanned := scanNumeral_toDigits value ends
  obtain ⟨first, more, digits, digit, -⟩ := toDigits_head value
  have other : ∀ char : Char, char.isDigit = false → first ≠ char := by
    rintro _ noDigit rfl
    exact absurd digit (by simp [noDigit])
  rw [digits, List.cons_append] at scanned ⊢
  rw [scanValue_leaf steps _ (isBlank_of_isDigit digit) (other _ rfl) (other _ rfl),
    scanLeaf.eq_5 _ _ (other _ rfl) (other _ rfl) (other _ rfl) (other _ rfl),
    if_pos (Or.inr digit), scanned, draft, digits]

theorem scanValue_quote (steps : Nat) (text : String) (rest : List Char) :
    scanValue (steps + 1) (quote text ++ rest) = (draft (.text text), rest) := by
  have scanned := scanQuoted_escape text.toList rest
  rw [quote, List.append_assoc, List.cons_append,
    scanValue_leaf steps _ (by decide) (by decide) (by decide), scanLeaf]
  simp [scanned, draft]

section Spaced

variable (spacing : Spacing)

/-- A text of a value begins with neither a blank nor the end of an array. -/
theorem spacedChars_head (level : Nat) (value : Json) :
    ∃ first more, spacedChars spacing level value = first :: more ∧
      isBlank first = false ∧ first ≠ ']' := by
  match value with
  | .null | .bool true | .bool false | .text _ | .array [] | .object [] =>
    exact ⟨_, _, rfl, by decide, by decide⟩
  | .array (_ :: _) | .object ((_, _) :: _) =>
    exact ⟨_, _, by rw [spacedChars]; rfl, by decide, by decide⟩
  | .number value =>
    obtain ⟨first, more, digits, digit, -⟩ := toDigits_head value
    refine ⟨first, more, digits, isBlank_of_isDigit digit, ?_⟩
    rintro rfl
    exact absurd digit (by decide)

/-- Behind the bracket and some blanks the items of an array are made out. -/
theorem scanValue_array (steps level : Nat) (first : Json) (more : List Char) :
    scanValue (steps + 1)
        ('[' :: (spacing.gap level ++ (spacedChars spacing level first ++ more))) =
      (.array (scanItems steps (spacedChars spacing level first ++ more)).1,
        (scanItems steps (spacedChars spacing level first ++ more)).2) := by
  obtain ⟨head, tail, starts, blank, close⟩ := spacedChars_head spacing level first
  rw [scanValue, skipBlanks_cons (by decide)]
  simp only [skipBlanks_append (spacing.gap_blank level), starts, List.cons_append,
    skipBlanks_cons blank]
  split
  next same => exact absurd (List.head_eq_of_cons_eq same) close
  next same => simp at same
  next => rfl

/-- Behind the brace and some blanks the members of an object are made out. -/
theorem scanValue_object (steps level : Nat) (name : String) (more : List Char) :
    scanValue (steps + 1) ('\x7b' :: (spacing.gap level ++ (quote name ++ more))) =
      (.object (scanMembers steps (quote name ++ more)).1,
        (scanMembers steps (quote name ++ more)).2) := by
  have blank : isBlank '"' = false := by decide
  rw [scanValue, skipBlanks_cons (by decide)]
  simp only [skipBlanks_append (spacing.gap_blank level), quote, List.cons_append,
    skipBlanks_cons blank]
  rfl

theorem endsNumeral_spacedItems (level outer : Nat) (items : List Json)
    (text : List Char) :
    EndsNumeral (spacedItems spacing level items ++
      (spacing.gap outer ++ ']' :: text)) := by
  cases items with
  | nil =>
      refine endsNumeral_blanks (spacing.gap_blank outer) _ ?_
      rintro char ⟨⟩
      decide
  | cons item rest =>
      rw [spacedItems]
      rintro char ⟨⟩
      decide

theorem endsNumeral_spacedMembers (level outer : Nat)
    (members : List (String × Json)) (text : List Char) :
    EndsNumeral (spacedMembers spacing level members ++
      (spacing.gap outer ++ '\x7d' :: text)) := by
  cases members with
  | nil =>
      refine endsNumeral_blanks (spacing.gap_blank outer) _ ?_
      rintro char ⟨⟩
      decide
  | cons member rest =>
      rw [spacedMembers]
      rintro char ⟨⟩
      decide

/-- The key of a member is made out and its value after the colon, and then the object
ends or goes on. -/
theorem scanMembers_quote {steps : Nat} {name : String} {more left : List Char}
    {value : Draft} (made : scanValue steps more = (value, left)) (rest : List Char) :
    (skipBlanks left = '\x7d' :: rest →
      scanMembers (steps + 1) (quote name ++ (':' :: (spacing.space ++ more))) =
        (.member (some name) value .closed, rest)) ∧
    (skipBlanks left = ',' :: rest →
      scanMembers (steps + 1) (quote name ++ (':' :: (spacing.space ++ more))) =
        (.member (some name) value (scanMembers steps rest).1,
          (scanMembers steps rest).2)) := by
  have scanned := scanQuoted_escape name.toList (':' :: (spacing.space ++ more))
  have colon : isBlank ':' = false := by decide
  rw [quote, List.append_assoc, List.cons_append, scanMembers,
    skipBlanks_cons (by decide)]
  simp only [List.singleton_append, scanned, skipBlanks_cons colon,
    scanValue_blanks spacing.space_blank, made, Option.map_some, String.ofList_toList]
  constructor
  · intro ends
    rw [ends]
    rfl
  · intro goesOn
    rw [goesOn]
    rfl

/-! A value is made out part by part. Each part takes a step of its own and has at least
one character before it, so twice the length of the text is enough. -/

mutual

theorem scanValue_spaced (steps level : Nat) (value : Json) {rest : List Char}
    (ends : EndsNumeral rest)
    (enough : 2 * (spacedChars spacing level value).length ≤ steps) :
    scanValue steps (spacedChars spacing level value ++ rest) = (draft value, rest) := by
  obtain ⟨head, more, starts, -, -⟩ := spacedChars_head spacing level value
  obtain ⟨steps, rfl⟩ : ∃ fewer, steps = fewer + 1 :=
    Nat.exists_eq_add_one_of_ne_zero (by rw [starts] at enough; simp at enough; omega)
  match value with
  | .null | .bool true | .bool false | .array [] | .object [] => rfl
  | .number value => exact scanValue_toDigits steps value ends
  | .text value => exact scanValue_quote steps value rest
  | .array (first :: items) =>
    rw [spacedChars] at enough ⊢
    simp only [List.cons_append, List.append_assoc, List.nil_append,
      List.length_cons, List.length_append] at enough ⊢
    rw [scanValue_array, scanItems_spaced steps (level + 1) level first items rest
      (by simp only [List.length_append]; omega), draft]
  | .object ((name, first) :: members) =>
    rw [spacedChars] at enough ⊢
    simp only [List.cons_append, List.append_assoc, List.nil_append,
      List.length_cons, List.length_append] at enough ⊢
    rw [scanValue_object, scanMembers_spaced steps (level + 1) level name first
      members rest (by simp only [List.length_cons, List.length_append]; omega), draft]

theorem scanItems_spaced (steps level outer : Nat) (first : Json)
    (items : List Json) (rest : List Char)
    (enough : 2 * (spacedChars spacing level first ++
      spacedItems spacing level items).length < steps) :
    scanItems steps (spacedChars spacing level first ++
        (spacedItems spacing level items ++ (spacing.gap outer ++ ']' :: rest))) =
      (draftItems (first :: items), rest) := by
  obtain ⟨steps, rfl⟩ := Nat.exists_eq_add_one_of_ne_zero (Nat.ne_zero_of_lt enough)
  rw [List.length_append] at enough
  rw [scanItems, scanValue_spaced steps level first
    (endsNumeral_spacedItems spacing level outer items _) (by omega)]
  match items with
  | [] =>
    simp only [spacedItems, List.nil_append, skipBlanks_append (spacing.gap_blank outer)]
    rfl
  | second :: items =>
    rw [spacedItems] at enough ⊢
    simp only [List.cons_append, List.append_assoc, List.length_cons,
      List.length_append] at enough ⊢
    rw [skipBlanks_cons (by decide)]
    simp only [scanItems_blanks (spacing.gap_blank level)]
    rw [scanItems_spaced steps level outer second items rest
      (by simp only [List.length_append]; omega)]
    rfl

theorem scanMembers_spaced (steps level outer : Nat) (name : String) (first : Json)
    (members : List (String × Json)) (rest : List Char)
    (enough : 2 * (quote name ++ (':' :: (spacing.space ++
      (spacedChars spacing level first ++
        spacedMembers spacing level members)))).length < steps) :
    scanMembers steps (quote name ++ (':' :: (spacing.space ++
        (spacedChars spacing level first ++ (spacedMembers spacing level members ++
          (spacing.gap outer ++ '\x7d' :: rest)))))) =
      (draftMembers ((name, first) :: members), rest) := by
  obtain ⟨steps, rfl⟩ := Nat.exists_eq_add_one_of_ne_zero (Nat.ne_zero_of_lt enough)
  simp only [List.length_cons, List.length_append] at enough
  have made := scanValue_spaced steps level first
    (endsNumeral_spacedMembers spacing level outer members rest) (by omega)
  match members with
  | [] =>
    refine (scanMembers_quote spacing made rest).1 ?_
    rw [spacedMembers, List.nil_append, skipBlanks_append (spacing.gap_blank outer)]
    rfl
  | (second, value) :: members =>
    rw [spacedMembers] at enough made ⊢
    simp only [List.cons_append, List.append_assoc, List.length_cons,
      List.length_append] at enough made ⊢
    rw [(scanMembers_quote spacing made _).2 (skipBlanks_cons (by decide) _),
      scanMembers_blanks (spacing.gap_blank level),
      scanMembers_spaced steps level outer second value members rest
        (by simp only [List.length_cons, List.length_append]; omega)]
    rfl

end

/-- A text of a value is made out, and nothing is left. -/
theorem Source.ofText_spaced (value : Json) :
    Source.ofText (String.ofList (spacedChars spacing 0 value)) =
      ⟨value.draft, false⟩ := by
  have ends : EndsNumeral [] := by simp [EndsNumeral]
  have scanned := scanValue_spaced spacing (2 * (spacedChars spacing 0 value).length + 2)
    0 value ends (by omega)
  rw [List.append_nil] at scanned
  simp [Source.ofText, scanned, skipBlanks]

end Spaced

theorem Source.ofText_pretty (value : Json) :
    Source.ofText value.pretty = ⟨value.draft, false⟩ := by
  rw [pretty, prettyChars_eq, ofText_spaced]

theorem Source.ofText_compact (value : Json) :
    Source.ofText value.compact = ⟨value.draft, false⟩ := by
  rw [compact, compactChars_eq 0, ofText_spaced]

end GraphSchema.Json
