import GraphSchema.Sql.Identifier
import Mathlib.Data.List.Forall2

/-!
# Tokens of SQL texts

A text of SQL is read character by character and cut into words, names between
quotes and single signs. Inside a name a quote is written twice, so it takes the
next character to tell whether a quote ends the name. Blanks part tokens and are no
tokens.

A text that is put together of parts is read part by part, unless a part ends in a
word or a name and the next one goes on with it.
-/

namespace GraphSchema.Sql

inductive Token where
  | word (text : String)
  /-- A name that stands between quotes. -/
  | name (name : String)
  | sign (char : Char)
  deriving DecidableEq, Repr

/-- What has been read of a token that may still go on. -/
inductive LexState where
  | between
  | word (read : List Char)
  | name (read : List Char)
  /-- Behind a quote inside a name. It ends the name, unless another one follows. -/
  | quote (read : List Char)

def isWordPart (char : Char) : Bool :=
  char.isAlphanum || char == '_'

namespace LexState

/-- A character behind the end of a token. -/
def start (char : Char) : LexState × List Token :=
  if char.isWhitespace then (.between, [])
  else if char = '"' then (.name [], [])
  else if isWordPart char then (.word [char], [])
  else (.between, [.sign char])

/-- Read a character. The tokens are those that it ends. -/
def step : LexState → Char → LexState × List Token
  | .between, char => start char
  | .word read, char =>
      if isWordPart char then (.word (read ++ [char]), [])
      else ((start char).1, .word (String.ofList read) :: (start char).2)
  | .name read, char =>
      if char = '"' then (.quote read, []) else (.name (read ++ [char]), [])
  | .quote read, char =>
      if char = '"' then (.name (read ++ ['"']), [])
      else ((start char).1, .name (String.ofList read) :: (start char).2)

/-- Read the characters of a text. -/
def run : LexState → List Char → LexState × List Token
  | state, [] => (state, [])
  | state, char :: rest =>
      ((run (state.step char).1 rest).1,
        (state.step char).2 ++ (run (state.step char).1 rest).2)

/-- The token that the end of a text ends. A name may not be left open. -/
def finish : LexState → Option (List Token)
  | .between => some []
  | .word read => some [.word (String.ofList read)]
  | .name _ => none
  | .quote read => some [.name (String.ofList read)]

end LexState

/-- The tokens of a text, unless it ends inside a name. -/
def lex (text : String) : Option (List Token) :=
  (LexState.run .between text.toList).1.finish.map
    ((LexState.run .between text.toList).2 ++ ·)

namespace LexState

theorem run_append (state : LexState) (left right : List Char) :
    state.run (left ++ right) =
      (((state.run left).1.run right).1,
        (state.run left).2 ++ ((state.run left).1.run right).2) := by
  induction left generalizing state with
  | nil => rfl
  | cons char rest ih => simp [run, ih]

/-- What stands between quotes is read as a name, whatever characters it has. -/
theorem run_doubleQuotes (read chars : List Char) :
    run (.name read) (doubleQuotes chars ++ ['"']) = (.quote (read ++ chars), []) := by
  induction chars generalizing read with
  | nil => simp [doubleQuotes, run, step]
  | cons char rest ih =>
      by_cases quote : char = '"'
      · have later := ih (read ++ ['"'])
        simpa [doubleQuotes, run, step, quote, Prod.ext_iff] using later
      · have later := ih (read ++ [char])
        simpa [doubleQuotes, run, step, quote, Prod.ext_iff] using later

theorem run_quoted (name : String) :
    run .between (quoted name).toList = (.quote name.toList, []) := by
  have inside := run_doubleQuotes [] name.toList
  simpa [quoted, run, step, start, Prod.ext_iff] using inside

end LexState

/-- A character that goes on with neither a word nor a name. -/
def isBreak (char : Char) : Bool :=
  char != '"' && !isWordPart char

/-- Whether the token before a text ends where the text begins. -/
def Breaks (text : String) : Prop :=
  text.toList.head?.any isBreak = true

instance (text : String) : Decidable (Breaks text) :=
  inferInstanceAs (Decidable (_ = true))

theorem Breaks.exists_cons {text : String} (breaks : Breaks text) :
    ∃ char rest, text.toList = char :: rest ∧ isBreak char = true := by
  cases chars : text.toList with
  | nil => simp [Breaks, chars] at breaks
  | cons char rest => exact ⟨char, rest, rfl, by simpa [Breaks, chars] using breaks⟩

theorem Breaks.append {left : String} (breaks : Breaks left) (right : String) :
    Breaks (left ++ right) := by
  obtain ⟨char, rest, chars, here⟩ := breaks.exists_cons
  simpa [Breaks, chars] using here

theorem LexState.run_break {state : LexState} {last : List Token} {char : Char}
    (ended : state.finish = some last) (breaks : isBreak char = true)
    (rest : List Char) :
    state.run (char :: rest) =
      ((run .between (char :: rest)).1,
        last ++ (run .between (char :: rest)).2) := by
  simp only [isBreak, Bool.and_eq_true, bne_iff_ne, Bool.not_eq_true'] at breaks
  cases state with
  | between | word read | quote read =>
      cases ended
      simp [run, step, breaks]
  | name read => cases ended

theorem lex_quoted (name : String) : lex (quoted name) = some [.name name] := by
  simp [lex, LexState.run_quoted, LexState.finish]

/-- A text that ends between tokens is read, and then what follows. -/
theorem lex_append_of_run {left right : String} {before after : List Token}
    (first : LexState.run .between left.toList = (.between, before))
    (second : lex right = some after) :
    lex (left ++ right) = some (before ++ after) := by
  obtain ⟨last, ended, rfl⟩ := Option.map_eq_some_iff.1 second
  simp [lex, LexState.run_append, first, ended]

/-- A text is read, and then what follows, if that begins with a break. -/
theorem lex_append {left right : String} {before after : List Token}
    (first : lex left = some before) (second : lex right = some after)
    (breaks : Breaks right) : lex (left ++ right) = some (before ++ after) := by
  obtain ⟨last, ended, rfl⟩ := Option.map_eq_some_iff.1 first
  obtain ⟨rest, finished, rfl⟩ := Option.map_eq_some_iff.1 second
  obtain ⟨char, chars, goesOn, here⟩ := breaks.exists_cons
  rw [goesOn] at finished ⊢
  have later := LexState.run_break ended here chars
  simp [lex, LexState.run_append, goesOn, later, finished]

/-- A name between quotes is one token, if what follows begins with a break. -/
theorem lex_quoted_append (name : String) {text : String} {read : List Token}
    (rest : lex text = some read) (breaks : Breaks text) :
    lex (quoted name ++ text) = some (.name name :: read) :=
  lex_append (lex_quoted name) rest breaks

/-- Texts with a separator between them are read one after the other. -/
theorem lex_intercalate {separator : String} {char : Char} {texts : List String}
    {reads : List (List Token)}
    (separates : LexState.run .between separator.toList = (.between, [.sign char]))
    (breaks : Breaks separator)
    (each : List.Forall₂ (fun text read => lex text = some read) texts reads) :
    lex (separator.intercalate texts) = some ([Token.sign char].intercalate reads) := by
  induction each with
  | nil => rfl
  | @cons text read texts reads first rest ih =>
      cases rest with
      | nil => simpa using first
      | cons second rest =>
          rw [String.intercalate_cons_cons, List.intercalate_cons_cons,
            String.append_assoc, List.append_assoc]
          exact lex_append first (lex_append_of_run separates ih) (breaks.append _)

/-- Names between quotes with commas between them. -/
theorem lex_quotedList (names : List String) :
    lex (quotedList names) =
      some ([Token.sign ','].intercalate (names.map fun name => [.name name])) := by
  refine lex_intercalate rfl (by decide) ?_
  rw [List.forall₂_map_left_iff, List.forall₂_map_right_iff, List.forall₂_same]
  exact fun name _ => lex_quoted name

end GraphSchema.Sql
