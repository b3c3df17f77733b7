import GraphSchema.Proofs.Name.Lowered

/-!
# Where words break

The snake case spelling of a name goes through the name once and remembers only what kind
of character came last. Said place by place: every character is put into lower case, and
before a capital goes an underscore if a rule about the two characters beside the capital
says so. The strict rule wants a small letter or a digit before the capital, or a capital
before it and a small letter behind it. The rule that is followed takes whatever is
neither an underscore nor a capital for a small letter. So the two part at capitals that
follow a blank or some other sign, and nowhere else.
-/

namespace GraphSchema

/-! ## Capitals and small letters -/

namespace Text

/-- Whether all code points of a stride are as odd as its first. -/
def Stride.keepsParity (stride : Stride) : Bool :=
  stride.step == 2 || stride.first == stride.last

/-- Whether the ends of two strides, or the parity of their code points, keep them apart. -/
def Stride.apart (left right : Stride) : Bool :=
  left.last.blt right.first || right.last.blt left.first ||
    (left.keepsParity && right.keepsParity && left.first % 2 != right.first % 2)

theorem Stride.mod_two_of_covers {stride : Stride} (keeps : stride.keepsParity = true)
    {point : Nat} (covered : stride.covers point = true) :
    point % 2 = stride.first % 2 := by
  simp only [covers, Bool.and_eq_true, decide_eq_true_eq, beq_iff_eq] at covered
  simp only [keepsParity, Bool.or_eq_true, beq_iff_eq] at keeps
  cases keeps with
  | inl second =>
      rw [second] at covered
      omega
  | inr single => omega

theorem Stride.not_covers_of_apart {left right : Stride} (apart : left.apart right = true)
    {point : Nat} (covered : left.covers point = true) : right.covers point = false := by
  rw [Bool.eq_false_iff]
  intro both
  have leftParity := fun keeps => left.mod_two_of_covers keeps covered
  have rightParity := fun keeps => right.mod_two_of_covers keeps both
  simp only [covers, Bool.and_eq_true, decide_eq_true_eq] at covered both
  simp only [Stride.apart, Bool.or_eq_true, Bool.and_eq_true, Nat.blt_eq,
    bne_iff_ne] at apart
  rcases apart with (before | behind) | ⟨⟨leftKeeps, rightKeeps⟩, different⟩
  · omega
  · omega
  · exact different ((leftParity leftKeeps).symm.trans (rightParity rightKeeps))

theorem uppercase_letters : ∀ stride ∈ uppercase, 'A'.toNat ≤ stride.first := by
  decide +kernel

theorem uppercase_apart :
    (uppercase.all fun left => lowercase.all fun right => left.apart right) = true := by
  decide +kernel

/-- No character is a capital and a small letter at once. -/
theorem isLower_of_isUpper {char : Char} (capital : isUpper char = true) :
    isLower char = false := by
  obtain ⟨left, present, covered⟩ := List.any_eq_true.1 capital
  have apart := List.all_eq_true.1 uppercase_apart left present
  refine List.any_eq_false.2 fun right member => ?_
  rw [Stride.not_covers_of_apart (List.all_eq_true.1 apart right member) covered]
  exact Bool.false_ne_true

theorem isUpper_underscore : isUpper '_' = false := by decide +kernel

theorem isLower_underscore : isLower '_' = false := by decide +kernel

theorem lower_underscore : lower '_' = ['_'] := by decide +kernel

/-- No code point of a small letter or a later one is that of the underscore. -/
theorem ofNat_ne_underscore {point : Nat} (small : 'a'.toNat ≤ point) :
    Char.ofNat point ≠ '_' := by
  have before : '_'.toNat < 'a'.toNat := by decide
  intro same
  by_cases valid : point.isValidChar
  · have char : Char.ofNat point = Char.ofNatAux point valid := dif_pos valid
    have code : (Char.ofNatAux point valid).toNat = point := rfl
    rw [← char, same] at code
    omega
  · have char : Char.ofNat point = '\u0000' := dif_neg valid
    rw [char] at same
    exact absurd same (by decide)

theorem underscore_not_mem_lower {char : Char} (other : char ≠ '_') :
    '_' ∉ lower char := by
  rw [lower]
  split
  next => decide
  next =>
    cases found : lowerings.find? (·.capitals.covers char.toNat) with
    | none => simpa using other.symm
    | some lowering =>
        have small := lowerings_small lowering (List.mem_of_find?_eq_some found)
        simpa using (ofNat_ne_underscore (by omega)).symm

theorem lower_ne_nil (char : Char) : lower char ≠ [] := by
  rw [lower]
  split
  next => simp
  next => split <;> simp

/-- Lower case keeps an underscore and makes none of another character. -/
theorem count_lower (char : Char) :
    (lower char).count '_' = if char = '_' then 1 else 0 := by
  split
  next same => rw [same, lower_underscore, List.count_singleton_self]
  next other => exact List.count_eq_zero.2 (underscore_not_mem_lower other)

end Text

namespace Name

open Text

/-! ## Rules -/

/-- Whether a capital begins a word, given the character before it and the one behind it,
if there are any. -/
abbrev BreakRule := Option Char → Option Char → Bool

/-- The lower case of some characters that follow another one, with an underscore before
every capital that begins a word. -/
def spell (rule : BreakRule) (before : Option Char) : List Char → List Char
  | [] => []
  | char :: after =>
      (if isUpper char && rule before after.head? then ['_'] else []) ++ lower char ++
        spell rule (some char) after

/-- What may stand for a digit. The digits of ASCII do and no other characters of ASCII,
and no capital does. Which other characters do is left open. -/
structure DigitChars where
  covers : Char → Bool
  ascii : ∀ char : Char, char.toNat < 128 → covers char = char.isDigit
  small : ∀ char, covers char = true → isUpper char = false

/-- A word begins after a small letter or a digit, and with the last one of some capitals
if a small letter follows. -/
def strictRule (digits : DigitChars) : BreakRule
  | none, _ => false
  | some before, after =>
      isLower before || digits.covers before || (isUpper before && after.any isLower)

/-- A word begins after whatever is neither an underscore nor a capital, and with the last
one of some capitals if a small letter follows. -/
def laxRule : BreakRule
  | none, _ => false
  | some before, after =>
      before != '_' && (!isUpper before || after.any isLower)

/-- Whether every capital is the first character, or follows an underscore, a letter that
has a case or a digit. -/
def NoStrayCapital (digits : DigitChars) (chars : List Char) : Prop :=
  ∀ first before capital last, chars = first ++ before :: capital :: last →
    isUpper capital = true →
    before = '_' ∨ isUpper before = true ∨ isLower before = true ∨
      digits.covers before = true

/-- What is remembered of the character that came last. -/
def remembered : Option Char → Before
  | none => .boundary
  | some before =>
      if before = '_' then .boundary else if isUpper before then .capital else .other

theorem beginsWord_remembered (before : Option Char) (after : List Char) :
    beginsWord (remembered before) after = laxRule before after.head? := by
  cases before with
  | none => rfl
  | some before =>
      rw [remembered, laxRule]
      split
      next same => simp [beginsWord, same]
      next other =>
        cases upper : isUpper before <;> simp [beginsWord, other]

/-- The spelling of a name is that of the lax rule. -/
theorem snakeChars_eq_spell (before : Option Char) (chars : List Char) :
    snakeChars (remembered before) chars = spell laxRule before chars := by
  induction chars generalizing before with
  | nil => rfl
  | cons char after ih =>
      have later := ih (some char)
      rw [snakeChars, spell, ← later, beginsWord_remembered, remembered]
      split
      next same => simp [same, isUpper_underscore, lower_underscore]
      next other =>
        cases isUpper char <;> simp

theorem toList_snake (name : String) :
    (snake name).toList = spell laxRule none name.toList := by
  rw [snake, String.toList_ofList]
  exact snakeChars_eq_spell none name.toList

/-! ## Two rules -/

/-- At a capital, an underscore or none makes a difference, whatever follows. -/
theorem break_inj {char : Char} (capital : isUpper char = true) {left right : Bool}
    {rest others : List Char} :
    (if left then ['_'] else []) ++ lower char ++ rest =
        (if right then ['_'] else []) ++ lower char ++ others ↔
      left = right ∧ rest = others := by
  have other : char ≠ '_' := by
    rintro rfl
    rw [isUpper_underscore] at capital
    cases capital
  have absent := underscore_not_mem_lower other
  obtain ⟨first, more, lowered⟩ := List.exists_cons_of_ne_nil (lower_ne_nil char)
  rw [lowered, List.mem_cons, not_or] at absent
  cases left <;> cases right <;> simp [lowered, absent.1, Ne.symm absent.1]

theorem spell_cons_eq_iff {left right : BreakRule} {before : Option Char} {char : Char}
    {after : List Char} :
    spell left before (char :: after) = spell right before (char :: after) ↔
      (isUpper char = true → left before after.head? = right before after.head?) ∧
        spell left (some char) after = spell right (some char) after := by
  rw [spell, spell]
  cases capital : isUpper char with
  | false => simp
  | true => simpa using break_inj capital

/-- What holds wherever a list is cut before an item. -/
theorem forall_cut_cons {α : Type} {holds : List α → α → List α → Prop} {head : α}
    {tail : List α} :
    (∀ first item last, head :: tail = first ++ item :: last → holds first item last) ↔
      holds [] head tail ∧
        ∀ first item last, tail = first ++ item :: last →
          holds (head :: first) item last := by
  constructor
  · intro all
    refine ⟨all [] head tail rfl, fun first item last cut => ?_⟩
    exact all (head :: first) item last (congrArg (head :: ·) cut)
  · intro parts first item last cut
    cases first with
    | nil =>
        cases cut
        exact parts.1
    | cons other first =>
        cases cut
        exact parts.2 first item last rfl

/-- Two rules spell alike exactly if they agree about every capital. -/
theorem spell_eq_iff {left right : BreakRule} {before : Option Char} {chars : List Char} :
    spell left before chars = spell right before chars ↔
      ∀ first capital last, chars = first ++ capital :: last → isUpper capital = true →
        left (first.getLast?.or before) last.head? =
          right (first.getLast?.or before) last.head? := by
  induction chars generalizing before with
  | nil => simp [spell]
  | cons char after ih =>
      have behind : ∀ first : List Char,
          (char :: first).getLast?.or before = first.getLast?.or (some char) := by
        intro first
        rw [List.getLast?_cons]
        cases first.getLast? <;> rfl
      simp only [spell_cons_eq_iff, ih, forall_cut_cons, behind, List.getLast?_nil,
        Option.none_or]

/-- The two rules agree about a capital exactly if nothing is before it, or one of the
characters that are told apart. -/
theorem laxRule_eq_strictRule {digits : DigitChars} {before : Char} {after : Option Char} :
    laxRule (some before) after = strictRule digits (some before) after ↔
      before = '_' ∨ isUpper before = true ∨ isLower before = true ∨
        digits.covers before = true := by
  rw [laxRule, strictRule]
  by_cases underscore : before = '_'
  · have noDigit : digits.covers '_' = false := digits.ascii '_' (by decide)
    simp [underscore, isLower_underscore, isUpper_underscore, noDigit]
  · cases capital : isUpper before with
    | true =>
        have noDigit : digits.covers before = false := by
          rw [Bool.eq_false_iff]
          intro digit
          rw [digits.small before digit] at capital
          cases capital
        simp [underscore, isLower_of_isUpper capital, noDigit]
    | false => cases isLower before <;> cases digits.covers before <;> simp [underscore]

theorem spell_lax_eq_strict {digits : DigitChars} {chars : List Char} :
    spell laxRule none chars = spell (strictRule digits) none chars ↔
      NoStrayCapital digits chars := by
  rw [spell_eq_iff]
  constructor
  · intro agree first before capital last cut upper
    have here := agree (first ++ [before]) capital last (by simp [cut]) upper
    rw [List.getLast?_concat, Option.some_or] at here
    exact laxRule_eq_strictRule.1 here
  · intro plain first capital last cut upper
    cases List.eq_nil_or_concat first with
    | inl start =>
        rw [start]
        rfl
    | inr longer =>
        obtain ⟨first, before, rfl⟩ := longer
        rw [List.concat_eq_append, List.append_assoc, List.singleton_append] at cut
        rw [List.concat_eq_append, List.getLast?_concat, Option.some_or]
        exact laxRule_eq_strictRule.2 (plain first before capital last cut upper)

/-- Snake case is lower case with the underscores of the lax rule. That is what the strict
rule asks for exactly if no capital follows a blank, a sign or a letter without case. -/
theorem snake_spelled (digits : DigitChars) (name : String) :
    (snake name).toList = spell laxRule none name.toList ∧
    (∀ char, (lower char).count '_' = if char = '_' then 1 else 0) ∧
    ((snake name).toList = spell (strictRule digits) none name.toList ↔
      NoStrayCapital digits name.toList) := by
  refine ⟨toList_snake name, count_lower, ?_⟩
  rw [toList_snake]
  exact spell_lax_eq_strict

/-- No digit of ASCII is a capital. -/
theorem isUpper_of_isDigit (char : Char) (digit : char.isDigit = true) :
    isUpper char = false := by
  have bounds := Char.isDigit_iff_toNat.1 digit
  have before : '9'.toNat < 'A'.toNat := by decide
  refine List.any_eq_false.2 fun stride member covered => ?_
  have first := uppercase_letters stride member
  simp only [Stride.covers, Bool.and_eq_true, decide_eq_true_eq] at covered
  omega

/-- The digits of ASCII alone. -/
def DigitChars.basic : DigitChars where
  covers := Char.isDigit
  ascii := fun _ _ => rfl
  small := isUpper_of_isDigit

theorem snake_spelled_acronym :
    NoStrayCapital .basic "getHTTP2Response_ID".toList ∧
      (snake "getHTTP2Response_ID").toList =
        spell (strictRule .basic) none "getHTTP2Response_ID".toList := by
  have spelled : (snake "getHTTP2Response_ID").toList =
      spell (strictRule .basic) none "getHTTP2Response_ID".toList := by decide +kernel
  exact ⟨(snake_spelled .basic "getHTTP2Response_ID").2.2.1 spelled, spelled⟩

theorem snake_spelled_blank :
    (snake "First Name").toList = "first _name".toList ∧
      spell (strictRule .basic) none "First Name".toList = "first name".toList := by
  decide +kernel

end Name

end GraphSchema
