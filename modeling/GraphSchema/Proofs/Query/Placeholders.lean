import GraphSchema.Proofs.Name.Spelling
import GraphSchema.Proofs.Query.Texts
import Mathlib.Data.List.TakeWhile

/-!
# Placeholders in the texts of queries

A database reads a colon outside of quotes, with the word behind it, as the place
of a parameter. Names of tables and columns hold no such places, because a name
with a colon is written between quotes. The names of parameters are written as
they are. So the places in the text of a query are those of its parameters exactly
when the names of the parameters are words.
-/

namespace GraphSchema.Query

open Relational (primaryKey)
open Sql (written)

/-- The characters of words: letters, digits and underscores. Which characters
beyond ASCII are letters or digits is left open. -/
structure WordChars where
  covers : Char → Bool
  ascii : ∀ char : Char, char.toNat < 128 →
    (covers char = true ↔ char.isAlphanum = true ∨ char = '_')

namespace WordChars

/-- Whether all characters of a name are word characters. -/
def Covers (words : WordChars) (name : String) : Prop :=
  name.toList.all words.covers = true

/-- Words in ASCII. -/
def basic : WordChars where
  covers char := char.isAlphanum || char == '_'
  ascii := by simp

theorem not_covers_quote (words : WordChars) :
    words.covers '"' = false := by
  have quote := words.ascii '"' (by decide)
  simpa using quote

theorem not_covers_colon (words : WordChars) :
    words.covers ':' = false := by
  have colon := words.ascii ':' (by decide)
  simpa using colon

/-- Whether a character is a word character of ASCII. -/
def isAsciiWord (char : Char) : Bool :=
  char.toNat < 128 && (char.isAlphanum || char == '_')

theorem covers_of_ascii (words : WordChars) {name : String}
    (plain : name.toList.all isAsciiWord = true) : words.Covers name := by
  rw [List.all_eq_true] at plain
  rw [Covers, List.all_eq_true]
  intro char member
  have word := plain char member
  simp only [isAsciiWord, Bool.and_eq_true, Bool.or_eq_true, decide_eq_true_eq,
    beq_iff_eq] at word
  exact (words.ascii char word.1).2 word.2

theorem covers_append (words : WordChars) (left right : String) :
    words.Covers (left ++ right) ↔ words.Covers left ∧ words.Covers right := by
  simp only [Covers, String.toList_append, List.all_append,
    Bool.and_eq_true]

theorem covers_digit (words : WordChars) {char : Char}
    (digit : char.isDigit = true) : words.covers char = true := by
  have bounds := digit
  simp only [Char.isDigit, Bool.and_eq_true, decide_eq_true_eq] at bounds
  have small : char.toNat < 128 := by
    have bound : char.val.toNat ≤ 57 := UInt32.le_iff_toNat_le.1 bounds.2
    exact Nat.lt_of_le_of_lt bound (by decide)
  exact (words.ascii char small).2 (Or.inl (by simp [Char.isAlphanum, digit]))

end WordChars

/-- A text without what stands between quotes. A quote that is written twice ends
what is quoted and begins it again. -/
def outside (quoted : Bool) : List Char → List Char
  | [] => []
  | char :: rest =>
      if char = '"' then '"' :: outside (!quoted) rest
      else if quoted then outside quoted rest
      else char :: outside quoted rest

/-- The words behind the colons of a text. -/
def wordsBehindColons (words : WordChars) : List Char → List String
  | [] => []
  | char :: rest =>
      if char = ':' then
        String.ofList (rest.takeWhile words.covers) ::
          wordsBehindColons words rest
      else wordsBehindColons words rest

/-- The names of the placeholders in the text of a query. -/
def placeholders (words : WordChars) (text : String) : List String :=
  wordsBehindColons words (outside false text.toList)

variable {words : WordChars}

/-! ## Texts without placeholders -/

theorem outside_append {plain : List Char} (noQuote : '"' ∉ plain)
    (rest : List Char) :
    outside false (plain ++ rest) = plain ++ outside false rest := by
  induction plain with
  | nil => rfl
  | cons char others ih =>
      have quote : char ≠ '"' := fun same => noQuote (by simp [same])
      have later : '"' ∉ others := fun member => noQuote (by simp [member])
      simp [outside, quote, ih later]

/-- What is left of a quoted name are quotes. -/
theorem outside_doubleQuotes (chars rest : List Char) :
    ∃ count, outside true (Sql.doubleQuotes chars ++ rest) =
      List.replicate count '"' ++ outside true rest := by
  induction chars with
  | nil => exact ⟨0, rfl⟩
  | cons char others ih =>
      obtain ⟨count, same⟩ := ih
      by_cases quote : char = '"'
      · refine ⟨count + 2, ?_⟩
        simpa [Sql.doubleQuotes, outside, quote, List.replicate_succ] using same
      · refine ⟨count, ?_⟩
        simpa [Sql.doubleQuotes, outside, quote] using same

/-- Whether a part of a text adds no colons outside of quotes, whatever comes
behind it. -/
def Quiet (part : String) : Prop :=
  ∀ rest, ∃ before, ':' ∉ before ∧
    outside false (part.toList ++ rest) = before ++ outside false rest

/-- Whether a character is neither a quote nor a colon. -/
def isPlain (char : Char) : Bool :=
  char != '"' && char != ':'

namespace Quiet

theorem of_plain {part : String} (plain : part.toList.all isPlain = true) :
    Quiet part := by
  rw [List.all_eq_true] at plain
  have noQuote : '"' ∉ part.toList := fun member =>
    absurd (plain _ member) (by decide)
  have noColon : ':' ∉ part.toList := fun member =>
    absurd (plain _ member) (by decide)
  intro rest
  exact ⟨part.toList, noColon, outside_append noQuote rest⟩

/-- A text all of whose characters are of a kind that no quote and no colon is of
is quiet. -/
theorem of_all {part : String} {accept : Char → Bool}
    (all : ∀ char ∈ part.toList, accept char = true)
    (noQuote : accept '"' = false) (noColon : accept ':' = false) :
    Quiet part := by
  apply of_plain
  rw [List.all_eq_true]
  intro char member
  have accepted := all char member
  by_cases quote : char = '"'
  · rw [quote, noQuote] at accepted
    cases accepted
  · by_cases colon : char = ':'
    · rw [colon, noColon] at accepted
      cases accepted
    · simp [isPlain, quote, colon]

theorem append {left right : String} (leftQuiet : Quiet left)
    (rightQuiet : Quiet right) : Quiet (left ++ right) := by
  intro rest
  obtain ⟨first, noColon, same⟩ := leftQuiet (right.toList ++ rest)
  obtain ⟨second, noOther, other⟩ := rightQuiet rest
  refine ⟨first ++ second, by simp [noColon, noOther], ?_⟩
  rw [String.toList_append, List.append_assoc, same, other, List.append_assoc]

/-- A name between quotes is quiet, whatever characters it has. -/
theorem quoted (name : String) : Quiet (Sql.quoted name) := by
  intro rest
  obtain ⟨count, same⟩ :=
    outside_doubleQuotes name.toList ('"' :: rest)
  refine ⟨'"' :: (List.replicate count '"' ++ ['"']), by simp, ?_⟩
  simpa [Sql.quoted, outside] using same

/-- A name is quiet as it is written. -/
theorem written (name : String) : Quiet (Sql.written name) := by
  rw [Sql.written]
  split
  next bare =>
    have plain : ∀ char ∈ name.toList, Sql.isBarePart char = true := by
      simp only [Sql.isBare, Bool.and_eq_true, List.all_eq_true] at bare
      exact bare.1.2
    exact of_all plain (by decide) (by decide)
  next => exact quoted name

theorem commaList {texts : List String} (all : ∀ text ∈ texts, Quiet text) :
    Quiet (Query.commaList texts) := by
  induction texts with
  | nil => exact of_plain (by decide)
  | cons first others ih =>
      have firstQuiet := all first List.mem_cons_self
      have othersQuiet := ih fun text member =>
        all text (List.mem_cons_of_mem _ member)
      cases others with
      | nil => simpa [Query.commaList] using firstQuiet
      | cons second rest =>
          have comma : Quiet ", " := of_plain (by decide)
          rw [Query.commaList, String.intercalate_cons_cons]
          exact (firstQuiet.append comma).append othersQuiet

theorem number (count : Nat) : Quiet (toString count) :=
  of_all (fun _ => Name.isDigit_of_mem_toString) (by decide) (by decide)

end Quiet

namespace Select

theorem selection_quiet (query : Select) : Quiet (commaList query.selection) := by
  apply Quiet.commaList
  have qualified : ∀ name, Quiet ("entity." ++ written name) := fun name =>
    (Quiet.of_plain (by decide)).append (Quiet.written name)
  intro text member
  cases query with
  | row columns table parameter | page columns table size parameter =>
      obtain ⟨name, _, rfl⟩ := List.mem_map.1 member
      exact Quiet.written name
  | count table =>
      obtain rfl := List.mem_singleton.1 member
      exact Quiet.of_plain (by decide)
  | linked link size =>
      rcases List.mem_append.1 member with key | column
      · simp only [Option.mem_toList, Option.map_eq_some_iff] at key
        obtain ⟨name, _, rfl⟩ := key
        have before : Quiet "rel." := Quiet.of_plain (by decide)
        have between : Quiet " AS " := Quiet.of_plain (by decide)
        have behind : Quiet mapKeyAlias := Quiet.of_plain (by decide)
        exact ((before.append (Quiet.written name)).append between).append behind
      · obtain ⟨name, _, rfl⟩ := List.mem_map.1 column
        exact qualified name

theorem source_quiet (query : Select) : Quiet query.source := by
  cases query with
  | row columns table parameter | page columns table size parameter
  | count table => exact Quiet.written _
  | linked link size =>
      have join : Quiet " rel INNER JOIN " :=
        Quiet.of_plain (by decide)
      exact ((Quiet.written _).append join).append (Quiet.written _)

/-- What stands before the restriction of a query holds no placeholder. -/
theorem head_quiet (query : Select) :
    Quiet ("SELECT " ++ commaList query.selection ++ " FROM " ++ query.source) := by
  have select : Quiet "SELECT " := Quiet.of_plain (by decide)
  have «from» : Quiet " FROM " := Quiet.of_plain (by decide)
  exact ((select.append query.selection_quiet).append «from»).append
    query.source_quiet

end Select

/-! ## Texts with one placeholder -/

theorem wordsBehindColons_append (words : WordChars) {before : List Char}
    (noColon : ':' ∉ before) (rest : List Char) :
    wordsBehindColons words (before ++ rest) = wordsBehindColons words rest := by
  induction before with
  | nil => rfl
  | cons char others ih =>
      have colon : char ≠ ':' := fun same => noColon (by simp [same])
      have later : ':' ∉ others := fun member => noColon (by simp [member])
      simp [wordsBehindColons, colon, ih later]

theorem placeholders_quiet (words : WordChars) {before : String}
    (quiet : Quiet before) (rest : String) :
    placeholders words (before ++ rest) = placeholders words rest := by
  obtain ⟨left, noColon, same⟩ := quiet rest.toList
  rw [placeholders, String.toList_append, same, wordsBehindColons_append words noColon]
  rfl

/-- No word reaches into what is quoted. -/
theorem takeWhile_outside (words : WordChars) (chars : List Char) :
    (outside false chars).takeWhile words.covers =
      chars.takeWhile words.covers := by
  induction chars with
  | nil => rfl
  | cons char rest ih =>
      by_cases quote : char = '"'
      · simp [outside, quote, words.not_covers_quote]
      · simp [outside, quote, List.takeWhile_cons, ih]

/-- The text of a parameter has the word with which the name begins as its first
placeholder. -/
theorem placeholders_parameter (words : WordChars) (parameter : String) :
    placeholders words (":" ++ parameter) =
      String.ofList (parameter.toList.takeWhile words.covers) ::
        placeholders words parameter := by
  have text : (":" ++ parameter).toList = ':' :: parameter.toList := by simp
  rw [placeholders, text]
  simp [outside, wordsBehindColons, takeWhile_outside, placeholders]

theorem WordChars.Covers.quiet {name : String} (covered : words.Covers name) :
    Quiet name := by
  rw [WordChars.Covers, List.all_eq_true] at covered
  exact Quiet.of_all covered words.not_covers_quote words.not_covers_colon

theorem placeholders_eq_nil (words : WordChars) {text : String}
    (quiet : Quiet text) : placeholders words text = [] := by
  have same := placeholders_quiet words quiet ""
  rwa [String.append_empty] at same

theorem WordChars.Covers.placeholders_parameter {name after : String}
    (covered : words.Covers name) (quiet : Quiet after)
    (stops : after.toList.takeWhile words.covers = []) :
    placeholders words (":" ++ (name ++ after)) = [name] := by
  rw [Query.placeholders_parameter, String.toList_append,
    List.takeWhile_append_of_pos (List.all_eq_true.1 covered), stops,
    List.append_nil, String.ofList_toList,
    placeholders_eq_nil words (covered.quiet.append quiet)]

/-- A parameter that is a word is the only placeholder at the end of a text. -/
theorem WordChars.Covers.placeholders_last {name : String}
    (covered : words.Covers name) : placeholders words (":" ++ name) = [name] := by
  have empty : Quiet "" := Quiet.of_plain (by decide)
  have only := covered.placeholders_parameter empty rfl
  rwa [String.append_empty] at only

/-- All placeholders are words. -/
theorem covers_of_mem_placeholders {text name : String}
    (member : name ∈ placeholders words text) : words.Covers name := by
  rw [placeholders] at member
  generalize outside false text.toList = chars at member
  induction chars with
  | nil => cases member
  | cons char rest ih =>
      rw [wordsBehindColons] at member
      split at member
      · cases member with
        | head =>
            rw [WordChars.Covers, String.toList_ofList]
            exact List.all_takeWhile
        | tail _ later => exact ih later
      · exact ih member

namespace Select

theorem restriction_row (columns : List String) (table parameter : String) :
    (row columns table parameter).restriction =
      " WHERE " ++ primaryKey ++ " = " ++ (":" ++ parameter) := by
  have equalsColon : " = :" = " = " ++ ":" := by decide
  unfold restriction
  simp only [String.append_assoc]
  rw [equalsColon]
  simp only [String.append_assoc]

theorem restriction_page (columns : List String) (table : String) (size : UInt32)
    (parameter : String) :
    (page columns table size parameter).restriction =
      " ORDER BY " ++ primaryKey ++ " DESC LIMIT " ++ toString size.toNat ++
        " OFFSET " ++ (":" ++ parameter) := by
  have offsetColon : " OFFSET :" = " OFFSET " ++ ":" := by decide
  unfold restriction
  simp only [String.append_assoc]
  rw [offsetColon]
  simp only [String.append_assoc]

theorem restriction_linked (link : Link) (size : UInt32) :
    (linked link size).restriction =
      " entity ON entity." ++ primaryKey ++ " = rel." ++
        written link.targetColumn ++ " WHERE rel." ++ written link.ownerColumn ++
        " = " ++ (":" ++ (primaryKey ++ (" ORDER BY entity." ++ primaryKey ++
          " DESC LIMIT " ++ toString size.toNat))) := by
  have equalsColon : " = :" = " = " ++ ":" := by decide
  unfold restriction
  simp only [String.append_assoc]
  rw [equalsColon]
  simp only [String.append_assoc]

/-- The text of a query has its parameters as placeholders if these are words. -/
theorem placeholders_eq_parameters (words : WordChars) (query : Select)
    (covered : ∀ name ∈ query.parameters, words.Covers name) :
    placeholders words query.text = query.parameters := by
  have key : Quiet primaryKey := Quiet.of_plain (by decide)
  have equals : Quiet " = " := Quiet.of_plain (by decide)
  have limit : Quiet " DESC LIMIT " := Quiet.of_plain (by decide)
  rw [text_eq, placeholders_quiet words query.head_quiet]
  cases query with
  | row columns table parameter =>
      have place : Quiet " WHERE " := Quiet.of_plain (by decide)
      have before := (place.append key).append equals
      have word := covered parameter List.mem_cons_self
      rw [restriction_row, placeholders_quiet words before, word.placeholders_last,
        parameters]
  | page columns table size parameter =>
      have order : Quiet " ORDER BY " := Quiet.of_plain (by decide)
      have offset : Quiet " OFFSET " := Quiet.of_plain (by decide)
      have before := (((order.append key).append limit).append
        (Quiet.number size.toNat)).append offset
      have word := covered parameter List.mem_cons_self
      rw [restriction_page, placeholders_quiet words before, word.placeholders_last,
        parameters]
  | count table =>
      have empty : Quiet "" := Quiet.of_plain (by decide)
      exact placeholders_eq_nil words empty
  | linked link size =>
      have entity : Quiet " entity ON entity." := Quiet.of_plain (by decide)
      have target : Quiet " = rel." := Quiet.of_plain (by decide)
      have owner : Quiet " WHERE rel." := Quiet.of_plain (by decide)
      have order : Quiet " ORDER BY entity." := Quiet.of_plain (by decide)
      have before := (((((entity.append key).append target).append
        (Quiet.written link.targetColumn)).append owner).append
        (Quiet.written link.ownerColumn)).append equals
      have after := ((order.append key).append limit).append
        (Quiet.number size.toNat)
      have word := covered primaryKey List.mem_cons_self
      have blank : words.covers ' ' = false := by
        simpa using words.ascii ' ' (by decide)
      rw [restriction_linked, placeholders_quiet words before,
        word.placeholders_parameter after (by simp [blank]), parameters]

/-- The placeholders in the text of a query are its parameters exactly when the
names of the parameters are words. -/
theorem placeholders_iff (words : WordChars) (query : Select) :
    (∀ name, name ∈ placeholders words query.text ↔ name ∈ query.parameters) ↔
      ∀ name ∈ query.parameters, words.Covers name := by
  constructor
  · intro same name member
    exact covers_of_mem_placeholders ((same name).2 member)
  · intro covered name
    rw [query.placeholders_eq_parameters words covered]

end Select

example :
    placeholders .basic "SELECT \"a:\"\"b\" FROM t WHERE id = :post-tag_id" =
      ["post"] := by
  decide +kernel

end GraphSchema.Query
