import GraphSchema.Json.Reading
import GraphSchema.Proofs.Lists
import Mathlib.Data.List.Basic
import Mathlib.Data.List.TakeWhile

/-!
# Wordings that end like a position

The report of an error loses a position at the end of the error's wording, even where the
position belongs to a name that the wording quotes. Only the words ` at line ` and
` column ` with a number of 64 bits behind each are a position, so no wording that ends
with something else than a digit loses anything.
-/

namespace GraphSchema.Json

/-- Whether some digits are the number of a line or column. -/
structure IsPlace (digits : List Char) : Prop where
  nonempty : digits ≠ []
  decimal : ∀ char ∈ digits, char.isDigit = true
  word : Json.decimal digits < wordLimit

/-- Whether a text is a wording with a position behind it. -/
def EndsWithPosition (text wording : String) : Prop :=
  ∃ line column, IsPlace line ∧ IsPlace column ∧
    text.toList = wording.toList ++ " at line ".toList ++ line ++ " column ".toList ++ column

/-- The number at the end of a text takes all the digits there. -/
theorem beforeNumber?_eq_some {text rest : List Char} :
    beforeNumber? text = some rest ↔
      ∃ digits, IsPlace digits ∧ text = rest ++ digits ∧
        ∀ char ∈ rest.getLast?, char.isDigit = false := by
  constructor
  · intro found
    rw [beforeNumber?] at found
    split at found
    next => cases found
    next some_digits =>
      split at found
      next word =>
        obtain rfl := Option.some.inj found
        refine ⟨(text.reverse.takeWhile Char.isDigit).reverse, ⟨?_, ?_, word⟩, ?_, ?_⟩
        · simpa using some_digits
        · intro char member
          exact List.mem_takeWhile_imp (List.mem_reverse.1 member)
        · rw [← List.reverse_append, List.takeWhile_append_dropWhile, List.reverse_reverse]
        · have stop := List.head?_dropWhile_not Char.isDigit text.reverse
          intro char last
          rw [List.getLast?_reverse, Option.mem_def] at last
          rw [last] at stop
          exact stop
      next => cases found
  · intro written
    obtain ⟨digits, place, rfl, stop⟩ := written
    have all : ∀ char ∈ digits.reverse, char.isDigit = true :=
      fun char member => place.decimal char (List.mem_reverse.1 member)
    have ended : ∀ char ∈ rest.reverse.head?, char.isDigit = false := by
      rwa [List.head?_reverse]
    obtain ⟨taken, left⟩ := takeWhile_dropWhile_append all ended
    rw [beforeNumber?, List.reverse_append, taken, left]
    split
    next empty => exact absurd (List.reverse_eq_nil_iff.1 empty) place.nonempty
    next => rw [List.reverse_reverse, List.reverse_reverse, if_pos place.word]

/-- What ends with a word that ends with no digit does not end with one either. -/
theorem noDigit_behind {word : List Char} (before : List Char)
    (ends : word.getLast?.any (fun char => !char.isDigit) = true) :
    ∀ char ∈ (before ++ word).getLast?, char.isDigit = false := by
  intro char last
  obtain ⟨end_of_word, found, noDigit⟩ := (Option.any_eq_true _ _).1 ends
  rw [List.getLast?_append, found, Option.some_or] at last
  cases last
  simpa using noDigit

theorem beforePosition?_eq_some {text rest : List Char} :
    beforePosition? text = some rest ↔
      ∃ line column, IsPlace line ∧ IsPlace column ∧
        text = rest ++ " at line ".toList ++ line ++ " column ".toList ++ column := by
  simp only [beforePosition?, Option.bind_eq_bind, Option.bind_eq_some_iff,
    beforeNumber?_eq_some, List.isSuffixOf?_eq_some_iff_append_eq]
  constructor
  · rintro ⟨_, ⟨column, columnPlace, rfl, _⟩, _, rfl, _, ⟨line, linePlace, rfl, _⟩, rfl⟩
    exact ⟨line, column, linePlace, columnPlace, rfl⟩
  · rintro ⟨line, column, linePlace, columnPlace, rfl⟩
    exact ⟨_, ⟨column, columnPlace, rfl, noDigit_behind _ (by decide)⟩, _, rfl, _,
      ⟨line, linePlace, rfl, noDigit_behind _ (by decide)⟩, rfl⟩

theorem endsWithPosition_iff {text wording : String} :
    EndsWithPosition text wording ↔ beforePosition? text.toList = some wording.toList :=
  beforePosition?_eq_some.symm

/-- A wording loses the position at its end, and nothing if there is none. -/
theorem withoutPosition_eq {text wording : String} :
    withoutPosition text = wording ↔
      EndsWithPosition text wording ∨
        wording = text ∧ ∀ other, ¬ EndsWithPosition text other := by
  simp only [endsWithPosition_iff, withoutPosition]
  cases found : beforePosition? text.toList with
  | none => simp [eq_comm]
  | some rest =>
      obtain ⟨other, rfl⟩ : ∃ other : String, rest = other.toList :=
        ⟨String.ofList rest, String.toList_ofList.symm⟩
      simp [String.toList_inj]

/-- A wording that does not end with a digit is kept. -/
theorem withoutPosition_of_getLast? {text : String}
    (last : ∀ char ∈ text.toList.getLast?, char.isDigit = false) :
    withoutPosition text = text := by
  refine withoutPosition_eq.2 (Or.inr ⟨rfl, ?_⟩)
  intro other ends
  obtain ⟨line, column, -, place, written⟩ := ends
  obtain ⟨before, digit, rfl⟩ := (List.eq_nil_or_concat column).resolve_left place.nonempty
  rw [List.concat_eq_append, ← List.append_assoc] at written
  have noDigit := last digit (by rw [written, List.getLast?_concat, Option.mem_def])
  rw [place.decimal digit (by simp)] at noDigit
  cases noDigit

end GraphSchema.Json
