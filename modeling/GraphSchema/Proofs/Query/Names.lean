import GraphSchema.Proofs.Lists
import GraphSchema.Proofs.Name.Lowered
import GraphSchema.Proofs.Query.Texts

/-!
# Names in the texts of queries

A database reads a name without quotes as far as there are small letters, digits and
underscores, and a name between quotes up to the quote that ends it. Whatever characters
a name has, what is written for it is read as that name, and what is behind it is left, as
long as that does not go on with the name. A name without quotes is no reserved word. So
the columns that a query selects from one table can be read off its text.
-/

namespace GraphSchema

/-! ## Reading a name -/

namespace Sql

/-- Whether a name without quotes may begin with a character. -/
def isNameStart (char : Char) : Bool :=
  'a' ≤ char && char ≤ 'z' || char == '_'

/-- Whether a name without quotes goes on with a character. -/
def isNamePart (char : Char) : Bool :=
  'a' ≤ char && char ≤ 'z' || '0' ≤ char && char ≤ '9' || char == '_'

/-- The characters up to the quote that ends a name, and what is behind it. Two quotes
are one character of the name. -/
def readQuoted : List Char → Option (List Char × List Char)
  | [] => none
  | '"' :: '"' :: rest => (readQuoted rest).map fun read => ('"' :: read.1, read.2)
  | '"' :: rest => some ([], rest)
  | char :: rest => (readQuoted rest).map fun read => (char :: read.1, read.2)

/-- The name that a text begins with, and what is behind it. -/
def readName : List Char → Option (String × List Char)
  | [] => none
  | '"' :: rest => (readQuoted rest).map fun read => (String.ofList read.1, read.2)
  | char :: rest =>
      if isNameStart char then
        some (String.ofList (char :: rest.takeWhile isNamePart), rest.dropWhile isNamePart)
      else none

/-- Whether a name ends where a text begins. It does unless the text begins with a quote,
a small letter, a digit or an underscore. -/
def EndsName (rest : List Char) : Prop :=
  ∀ char ∈ rest.head?, char ≠ '"' ∧ isNamePart char = false

instance : (rest : List Char) → Decidable (EndsName rest)
  | [] => isTrue fun _ first => nomatch first
  | char :: rest =>
      decidable_of_iff (char ≠ '"' ∧ isNamePart char = false) (by simp [EndsName])

theorem readQuoted_doubleQuotes (chars : List Char) {rest : List Char}
    (ended : rest.head? ≠ some '"') :
    readQuoted (doubleQuotes chars ++ '"' :: rest) = some (chars, rest) := by
  induction chars with
  | nil =>
      cases rest with
      | nil => rfl
      | cons char rest =>
          have other : char ≠ '"' := by simpa using ended
          simp [doubleQuotes, readQuoted, other]
  | cons char chars ih =>
      rw [doubleQuotes] at ih ⊢
      by_cases quote : char = '"'
      · simp [quote, readQuoted, ih]
      · simp [quote, readQuoted, ih]

theorem readName_quoted (name : String) {rest : List Char} (ended : rest.head? ≠ some '"') :
    readName ((quoted name).toList ++ rest) = some (name, rest) := by
  simp [quoted, readName, readQuoted_doubleQuotes name.toList ended]

theorem isBare_iff {name : String} :
    isBare name = true ↔
      name.toList.head?.any isNameStart = true ∧
        (∀ char ∈ name.toList, isNamePart char = true) ∧ name ∉ reservedWords := by
  have start : isBareStart = isNameStart := rfl
  have part : isBarePart = isNamePart := rfl
  simp [isBare, start, part, and_assoc]

theorem readName_bare {name : String} (bare : isBare name = true) {rest : List Char}
    (ended : ∀ char ∈ rest.head?, isNamePart char = false) :
    readName (name.toList ++ rest) = some (name, rest) := by
  obtain ⟨start, parts, -⟩ := isBare_iff.1 bare
  cases chars : name.toList with
  | nil => simp [chars] at start
  | cons first more =>
      rw [chars, List.head?_cons, Option.any_some] at start
      rw [chars] at parts
      have unquoted : first ≠ '"' := by
        rintro rfl
        exact absurd start (by decide)
      obtain ⟨taken, left⟩ := takeWhile_dropWhile_append
        (fun char member => parts char (List.mem_cons_of_mem _ member)) ended
      rw [List.cons_append, readName.eq_3 _ _ (by simpa using unquoted), if_pos start, taken,
        left, ← chars, String.ofList_toList]

/-- What is written for a name is read as that name. -/
theorem readName_written (name : String) {rest : List Char} (ends : EndsName rest) :
    readName ((written name).toList ++ rest) = some (name, rest) := by
  rw [written]
  split
  next bare => exact readName_bare bare fun char first => (ends char first).2
  next => exact readName_quoted name fun first => (ends '"' first).1 rfl

/-! ## Reserved words -/

theorem lowered_reservedWords : ∀ word ∈ reservedWords, Name.Lowered word := by
  decide +kernel

theorem toLower_namePart {char : Char} (part : isNamePart char = true) :
    char.toLower = char := by
  apply Text.toLower_eq_self
  simp only [isNamePart, Bool.or_eq_true, Bool.and_eq_true, decide_eq_true_eq,
    beq_iff_eq] at part
  rcases part with (letter | digit) | rfl
  · have first : 'a'.toNat ≤ char.toNat := letter.1
    have capitals : 'Z'.toNat < 'a'.toNat := by decide
    exact Or.inr (by omega)
  · have last : char.toNat ≤ '9'.toNat := digit.2
    have capitals : '9'.toNat < 'A'.toNat := by decide
    exact Or.inl (by omega)
  · decide

/-- A name that may stand without quotes is no reserved word in any letter case. -/
theorem isBare_not_reserved {name : String} (bare : isBare name = true) :
    ∀ word ∈ reservedWords, name.toLower ≠ word.toLower := by
  obtain ⟨-, parts, free⟩ := isBare_iff.1 bare
  have lowered : Name.Lowered name := fun char member => toLower_namePart (parts char member)
  intro word member same
  rw [lowered.toLower_eq, (lowered_reservedWords word member).toLower_eq] at same
  exact free (same ▸ member)

/-- Where there is no quote at its start, a name is written as it is. -/
theorem isBare_of_unquoted {name : String}
    (unquoted : (written name).toList.head? ≠ some '"') : isBare name = true := by
  by_contra quotes
  rw [written, if_neg quotes, quoted, String.toList_ofList] at unquoted
  exact unquoted rfl

/-! ## Reading a list of names -/

/-- A change of what is read keeps what is left. -/
theorem exists_of_map_fst {α β : Type} {read : Option (α × List Char)} {image : α → β}
    {value : β} {rest : List Char}
    (mapped : read.map (fun found => (image found.1, found.2)) = some (value, rest)) :
    ∃ first, read = some (first, rest) := by
  obtain ⟨⟨first, left⟩, found, same⟩ := Option.map_eq_some_iff.1 mapped
  cases same
  exact ⟨first, found⟩

theorem readQuoted_shorter {text name rest : List Char}
    (read : readQuoted text = some (name, rest)) : rest.length < text.length := by
  induction text using readQuoted.induct generalizing name with
  | case1 => cases read
  | case2 behind ih =>
      rw [readQuoted] at read
      obtain ⟨more, found⟩ := exists_of_map_fst read
      have shorter := ih found
      simp only [List.length_cons]
      omega
  | case3 behind single =>
      rw [readQuoted.eq_3 _ single] at read
      cases read
      simp
  | case4 char behind single other ih =>
      rw [readQuoted.eq_4 _ _ single other] at read
      obtain ⟨more, found⟩ := exists_of_map_fst read
      have shorter := ih found
      simp only [List.length_cons]
      omega

theorem readName_shorter {text rest : List Char} {name : String}
    (read : readName text = some (name, rest)) : rest.length < text.length := by
  revert read
  fun_cases readName text with
  | case1 => simp
  | case2 behind =>
      intro read
      obtain ⟨chars, found⟩ := exists_of_map_fst read
      have shorter := readQuoted_shorter found
      simp only [List.length_cons]
      omega
  | case3 char behind unquoted start =>
      intro read
      cases read
      have shorter := (List.dropWhile_sublist (p := isNamePart) (l := behind)).length_le
      simp only [List.length_cons]
      omega
  | case4 => simp

/-- The names that follow commas, as long as there are any, and what is behind them. A
comma that no name follows is left. -/
def readMore (text : List Char) : List String × List Char :=
  match text with
  | ',' :: ' ' :: behind =>
      match _ : readName behind with
      | some (name, rest) => (name :: (readMore rest).1, (readMore rest).2)
      | none => ([], text)
  | _ => ([], text)
termination_by text.length
decreasing_by
  all_goals
    have shorter := readName_shorter ‹_›
    simp only [List.length_cons]
    omega

/-- The names with commas between them that a text begins with, and what is behind them. -/
def readNames (text : List Char) : List String × List Char :=
  match readName text with
  | some (name, rest) => (name :: (readMore rest).1, (readMore rest).2)
  | none => ([], text)

/-- Names with a comma before each. -/
def behindCommas (names : List String) : List Char :=
  names.flatMap fun name => ", ".toList ++ (written name).toList

/-- Whether a list of names ends where a text begins. -/
def EndsNames (rest : List Char) : Prop :=
  EndsName rest ∧ rest.head? ≠ some ','

instance (rest : List Char) : Decidable (EndsNames rest) :=
  inferInstanceAs (Decidable (_ ∧ _))

/-- In a list a name ends where the next comma is, or where the list does. -/
theorem endsName_behindCommas (names : List String) {rest : List Char}
    (ends : EndsName rest) : EndsName (behindCommas names ++ rest) := by
  cases names with
  | nil => exact ends
  | cons name names =>
      intro char first
      obtain rfl := Option.some.inj first
      decide

theorem readMore_behindCommas (names : List String) {rest : List Char}
    (ends : EndsNames rest) : readMore (behindCommas names ++ rest) = (names, rest) := by
  induction names with
  | nil =>
      refine readMore.eq_2 rest ?_
      rintro behind rfl
      exact ends.2 rfl
  | cons name names ih =>
      have text : behindCommas (name :: names) ++ rest =
          ',' :: ' ' :: ((written name).toList ++ (behindCommas names ++ rest)) := by
        simp [behindCommas]
      have here := readName_written name (endsName_behindCommas names ends.1)
      rw [text, readMore.eq_1]
      split
      next other behind found =>
        rw [here] at found
        cases found
        rw [ih]
      next missing =>
        rw [here] at missing
        cases missing

/-- No name is read where one ends. -/
theorem readName_of_endsName {rest : List Char} (ends : EndsName rest) :
    readName rest = none := by
  cases rest with
  | nil => rfl
  | cons char rest =>
      obtain ⟨unquoted, part⟩ := ends char rfl
      have start : isNameStart char = false := by
        simp only [isNamePart, isNameStart, Bool.or_eq_false_iff] at part ⊢
        exact ⟨part.1.1, part.2⟩
      rw [readName.eq_3 _ _ (by simpa using unquoted), start, if_neg Bool.false_ne_true]

end Sql

namespace Query

open Sql

/-- The names of a list that is written with commas between them are those of the list. -/
theorem readNames_commaList (names : List String) {rest : List Char} (ends : EndsNames rest) :
    readNames ((commaList (names.map written)).toList ++ rest) = (names, rest) := by
  rw [readNames]
  cases names with
  | nil =>
      have empty : (commaList ([].map written)).toList = [] := rfl
      rw [empty, List.nil_append, readName_of_endsName ends.1]
  | cons name names =>
      have text : (commaList ((name :: names).map written)).toList =
          (written name).toList ++ behindCommas names := by
        rw [commaList, String.toList_intercalate, List.map_map, List.map_cons,
          intercalate_cons, behindCommas, List.flatMap_map]
        rfl
      rw [text, List.append_assoc, readName_written name (endsName_behindCommas names ends.1)]
      simp only [readMore_behindCommas names ends]

/-- The columns that a query selects from one table can be read off its text. -/
theorem Select.readNames_text {query : Select}
    (single : query.selection = query.columns.map written) :
    ∃ behind, query.text = "SELECT " ++ behind ∧
      readNames behind.toList =
        (query.columns, (" FROM " ++ (query.source ++ query.restriction)).toList) := by
  have ends : EndsNames (" FROM " ++ (query.source ++ query.restriction)).toList := by
    constructor
    · intro char first
      obtain rfl : ' ' = char := by simpa using first
      decide
    · simp
  refine ⟨commaList (query.columns.map written) ++
    (" FROM " ++ (query.source ++ query.restriction)), ?_, ?_⟩
  · rw [Select.text_eq, single]
    simp only [String.append_assoc]
  · rw [String.toList_append]
    exact readNames_commaList query.columns ends

/-- What is written for a name is read as that name, and what is behind it is left, unless
that goes on with the name. What is written without quotes is the name itself, and no
reserved word in any letter case. So a list of columns is read as it was before. -/
theorem names_read_back :
    (∀ name rest, EndsName rest →
        readName ((written name).toList ++ rest) = some (name, rest)) ∧
      (∀ name, (written name).toList.head? ≠ some '"' →
        written name = name ∧ ∀ word ∈ reservedWords, name.toLower ≠ word.toLower) ∧
      ∀ columns rest, EndsNames rest →
        readNames ((commaList (columns.map written)).toList ++ rest) = (columns, rest) := by
  refine ⟨fun name _ => readName_written name, ?_, fun columns _ => readNames_commaList columns⟩
  intro name unquoted
  have bare := isBare_of_unquoted unquoted
  exact ⟨if_pos bare, isBare_not_reserved bare⟩

theorem names_read_back_hostile :
    EndsName ".x".toList ∧ EndsNames " FROM a".toList ∧
      (written "user_1").toList.head? ≠ some '"' ∧
      readName "\"say \"\"hi\"\", all\".x".toList = some ("say \"hi\", all", ".x".toList) ∧
      "user_1".toLower ≠ "user".toLower ∧
      readNames "id, \"order\", \"\" FROM a".toList =
        (["id", "order", ""], " FROM a".toList) := by
  have ends : EndsName ".x".toList := by decide
  have last : EndsNames " FROM a".toList := by decide
  have unquoted : (written "user_1").toList.head? ≠ some '"' := by decide +kernel
  obtain ⟨single, bare, list⟩ := names_read_back
  have quoted := single "say \"hi\", all" ".x".toList ends
  have columns := list ["id", "order", ""] " FROM a".toList last
  exact ⟨ends, last, unquoted, quoted, (bare "user_1" unquoted).2 "user" (by decide), columns⟩

end Query

end GraphSchema
