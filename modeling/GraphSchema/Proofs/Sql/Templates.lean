import GraphSchema.Proofs.Lists
import GraphSchema.Proofs.Sql.Lexing
import GraphSchema.Sql.Statement

/-!
# Statements keep their form

The tokens of a statement are those of its form, with every name in its place as one
token. So no name can end a statement, add a column to a table or refer to another
table, whatever characters it has. The names of a table and of its columns can be
told from the text of its definition.
-/

namespace GraphSchema.Sql

open Relational (Column ColumnType ForeignKey Table)

/-! ## Forms -/

def words (texts : List String) : List Token :=
  texts.map .word

/-- Parts of a list, with commas between them. -/
def listed (parts : List (List Token)) : List Token :=
  [Token.sign ','].intercalate parts

def parenthesized (parts : List (List Token)) : List Token :=
  .sign '(' :: (listed parts ++ [.sign ')'])

/-- A list of names between parentheses. -/
def nameList (names : List String) : List Token :=
  parenthesized (names.map fun name => [.name name])

/-- The words of the type of a column. -/
def typeWords : Dialect → ColumnType → List String
  | .postgres, .float => ["DOUBLE", "PRECISION"]
  | dialect, type => [dialect.physicalType type]

/-- The words of the type and the constraint of a column that numbers the rows. -/
def rowNumberWords : Dialect → List String
  | .postgres => ["SERIAL", "PRIMARY", "KEY"]
  | .sqlite => ["INTEGER", "PRIMARY", "KEY", "AUTOINCREMENT"]

/-- The words of the constraint of a column. -/
def constraintWords (table : Table) (column : Column) : List String :=
  if column.name = table.primaryKey then ["PRIMARY", "KEY"]
  else if column.nullable then []
  else ["NOT", "NULL"]

/-- The form of the definition of a column. -/
def columnTokens (dialect : Dialect) (table : Table) (column : Column) : List Token :=
  .name column.name ::
    if column.name = table.primaryKey ∧ column.autoIncrement then
      words (rowNumberWords dialect)
    else
      words (typeWords dialect column.type) ++ words (constraintWords table column)

/-- The form of the constraint of a foreign key. -/
def foreignKeyTokens (key : ForeignKey) : List Token :=
  words ["FOREIGN", "KEY"] ++ nameList key.columns ++
    words ["REFERENCES"] ++ .name key.referencedTable ::
      nameList key.referencedColumns

/-- The form of the definition of a table. -/
def tableTokens (dialect : Dialect) (table : Table) : List Token :=
  words ["CREATE", "TABLE"] ++ .name table.name ::
    parenthesized (table.columns.map (columnTokens dialect table) ++
      if dialect.addsForeignKeys then [] else table.foreignKeys.map foreignKeyTokens)

/-- The form of a statement that adds a foreign key to a table. -/
def addForeignKeyTokens (table : String) (key : ForeignKey) : List Token :=
  words ["ALTER", "TABLE"] ++ .name table :: words ["ADD", "CONSTRAINT"] ++
    .name key.name :: foreignKeyTokens key

/-- The form of a statement that drops a table. -/
def dropTokens (table : String) : List Token :=
  words ["DROP", "TABLE", "IF", "EXISTS"] ++ [.name table]

/-! ## Texts have their forms -/

theorem foreignKeyText_eq (key : ForeignKey) :
    foreignKeyText key =
      "FOREIGN KEY (" ++ quotedList key.columns ++ ") REFERENCES " ++
        quoted key.referencedTable ++ " (" ++ quotedList key.referencedColumns ++
        ")" := rfl

theorem createTable_text (dialect : Dialect) (table : Table) :
    (Statement.createTable table).text dialect =
      "CREATE TABLE " ++ quoted table.name ++ " (\n" ++
        ",\n".intercalate ((tableParts dialect table).map ("    " ++ ·)) ++
        "\n)" := rfl

theorem addForeignKey_text (dialect : Dialect) (table : String) (key : ForeignKey) :
    (Statement.addForeignKey table key).text dialect =
      "ALTER TABLE " ++ quoted table ++ " ADD CONSTRAINT " ++ quoted key.name ++
        " " ++ foreignKeyText key := rfl

theorem lex_columnText (dialect : Dialect) (table : Table) (column : Column) :
    lex (columnText dialect table column) = some (columnTokens dialect table column) := by
  have named : ∀ {text read}, lex (" " ++ text) = some read →
      lex (quoted column.name ++ " " ++ text) = some (.name column.name :: read) := by
    intro text read rest
    rw [String.append_assoc]
    exact lex_quoted_append column.name rest (Breaks.append (by decide) text)
  have typed : lex (quoted column.name ++ " " ++ dialect.physicalType column.type) =
      some (.name column.name :: words (typeWords dialect column.type)) := by
    apply named
    cases dialect <;> cases column.type <;> rfl
  rw [columnText, columnTokens]
  split
  · apply named
    cases dialect <;> rfl
  · rw [constraintWords]
    split
    · exact lex_append typed rfl (by decide)
    · split
      · rw [String.append_empty]
        simpa [words] using typed
      · exact lex_append typed rfl (by decide)

/-- A list between parentheses, with what stands before and behind it. -/
theorem lex_parenthesized {opening list closing : String} {before read : List Token}
    {parts : List (List Token)}
    (opened : LexState.run .between opening.toList =
      (.between, before ++ [.sign '(']))
    (inside : lex list = some (listed parts))
    (closed : lex closing = some (.sign ')' :: read)) (breaks : Breaks closing) :
    lex (opening ++ (list ++ closing)) = some (before ++ (parenthesized parts ++ read)) := by
  have rest := lex_append_of_run opened (lex_append inside closed breaks)
  simpa [parenthesized] using rest

theorem lex_foreignKeyText (key : ForeignKey) :
    lex (foreignKeyText key) = some (foreignKeyTokens key) := by
  have closed : lex ")" = some [.sign ')'] := rfl
  have columns : lex (" (" ++ (quotedList key.referencedColumns ++ ")")) =
      some ([] ++ (nameList key.referencedColumns ++ [])) :=
    lex_parenthesized rfl (lex_quotedList _) closed (by decide)
  have table := lex_quoted_append key.referencedTable columns
    (Breaks.append (by decide) _)
  have refers : lex (") REFERENCES " ++ (quoted key.referencedTable ++
      (" (" ++ (quotedList key.referencedColumns ++ ")")))) = some (.sign ')' ::
        (words ["REFERENCES"] ++ .name key.referencedTable ::
          nameList key.referencedColumns)) := by
    have read := lex_append_of_run (show LexState.run .between ") REFERENCES ".toList =
      (.between, [.sign ')', .word "REFERENCES"]) from rfl) table
    simpa [words] using read
  have whole : lex ("FOREIGN KEY (" ++ (quotedList key.columns ++
      (") REFERENCES " ++ (quoted key.referencedTable ++
        (" (" ++ (quotedList key.referencedColumns ++ ")")))))) =
        some (words ["FOREIGN", "KEY"] ++ (nameList key.columns ++
          (words ["REFERENCES"] ++ .name key.referencedTable ::
            nameList key.referencedColumns))) :=
    lex_parenthesized rfl (lex_quotedList _) refers (Breaks.append (by decide) _)
  simpa [foreignKeyText_eq, foreignKeyTokens, String.append_assoc] using whole

theorem lex_tableParts (dialect : Dialect) (table : Table) :
    List.Forall₂ (fun text read => lex text = some read)
      ((tableParts dialect table).map ("    " ++ ·))
      (table.columns.map (columnTokens dialect table) ++
        if dialect.addsForeignKeys then []
        else table.foreignKeys.map foreignKeyTokens) := by
  have indented : ∀ {text read}, lex text = some read →
      lex ("    " ++ text) = some read := fun read =>
    lex_append_of_run (show LexState.run .between "    ".toList = (.between, []) from rfl)
      read
  rw [List.forall₂_map_left_iff, tableParts]
  refine List.rel_append ?columns ?keys
  case columns =>
    rw [List.forall₂_map_left_iff, List.forall₂_map_right_iff, List.forall₂_same]
    exact fun column _ => indented (lex_columnText dialect table column)
  case keys =>
    split
    · exact .nil
    · rw [List.forall₂_map_left_iff, List.forall₂_map_right_iff, List.forall₂_same]
      exact fun key _ => indented (lex_foreignKeyText key)

theorem lex_createTable (dialect : Dialect) (table : Table) :
    lex ((Statement.createTable table).text dialect) =
      some (tableTokens dialect table) := by
  have parts := lex_intercalate (show LexState.run .between ",\n".toList =
    (.between, [.sign ',']) from rfl) (by decide) (lex_tableParts dialect table)
  have opened : LexState.run .between " (\n".toList = (.between, [] ++ [.sign '(']) := rfl
  have closed : lex "\n)" = some [.sign ')'] := rfl
  have behind := lex_quoted_append table.name
    (lex_parenthesized opened parts closed (by decide)) (Breaks.append (by decide) _)
  have whole := lex_append_of_run (show LexState.run .between "CREATE TABLE ".toList =
    (.between, words ["CREATE", "TABLE"]) from rfl) behind
  simpa [createTable_text, tableTokens, String.append_assoc] using whole

theorem lex_addForeignKey (dialect : Dialect) (table : String) (key : ForeignKey) :
    lex ((Statement.addForeignKey table key).text dialect) =
      some (addForeignKeyTokens table key) := by
  have spaced := lex_append_of_run (show LexState.run .between " ".toList =
    (.between, []) from rfl) (lex_foreignKeyText key)
  have constrained := lex_quoted_append key.name spaced (Breaks.append (by decide) _)
  have added := lex_append_of_run (show LexState.run .between " ADD CONSTRAINT ".toList =
    (.between, words ["ADD", "CONSTRAINT"]) from rfl) constrained
  have altered := lex_quoted_append table added (Breaks.append (by decide) _)
  have whole := lex_append_of_run (show LexState.run .between "ALTER TABLE ".toList =
    (.between, words ["ALTER", "TABLE"]) from rfl) altered
  simpa [addForeignKey_text, addForeignKeyTokens, String.append_assoc] using whole

theorem lex_dropTable (dialect : Dialect) (table : String) :
    lex ((Statement.dropTable table).text dialect) = some (dropTokens table) :=
  lex_append_of_run (show LexState.run .between "DROP TABLE IF EXISTS ".toList =
    (.between, words ["DROP", "TABLE", "IF", "EXISTS"]) from rfl) (lex_quoted table)

/-! ## Names that a text shows -/

/-- The names that the parts of a definition begin with, up to the first part that
begins with none. The flag is set where a part begins. -/
def leadingNames : Bool → List Token → List String
  | true, .name name :: rest => name :: leadingNames false rest
  | _, .sign ',' :: rest => leadingNames true rest
  | false, _ :: rest => leadingNames false rest
  | _, _ => []

theorem leadingNames_words (texts : List String) (rest : List Token) :
    leadingNames false (words texts ++ rest) = leadingNames false rest := by
  induction texts with
  | nil => rfl
  | cons _ _ ih => exact ih

theorem leadingNames_column (dialect : Dialect) (table : Table) (column : Column)
    (rest : List Token) :
    leadingNames true (columnTokens dialect table column ++ rest) =
      column.name :: leadingNames false rest := by
  rw [columnTokens]
  split
  · simp [leadingNames, leadingNames_words]
  · simp [leadingNames, leadingNames_words]

theorem listed_cons (part : List Token) (parts : List (List Token)) :
    listed (part :: parts) = part ++ parts.flatMap (.sign ',' :: ·) :=
  intercalate_cons [Token.sign ','] part parts

/-- What comes behind the first column is read as the parts behind commas are. -/
theorem leadingNames_columns (dialect : Dialect) (table : Table)
    (columns : List Column) (rest : List Token) :
    leadingNames false
        ((columns.map (columnTokens dialect table)).flatMap (.sign ',' :: ·) ++ rest) =
      columns.map Column.name ++ leadingNames false rest := by
  induction columns with
  | nil => rfl
  | cons column columns ih =>
      simpa [leadingNames, leadingNames_column] using ih

/-- A foreign key begins with no name. -/
theorem leadingNames_foreignKeys (keys : List ForeignKey) :
    leadingNames false
      ((keys.map foreignKeyTokens).flatMap (.sign ',' :: ·) ++ [.sign ')']) = [] := by
  cases keys with
  | nil => rfl
  | cons key keys => rfl

theorem leadingNames_parts (dialect : Dialect) (table : Table) (columns : List Column)
    (keys : List ForeignKey) :
    leadingNames true (listed (columns.map (columnTokens dialect table) ++
        keys.map foreignKeyTokens) ++ [.sign ')']) = columns.map Column.name := by
  cases columns with
  | nil =>
      cases keys with
      | nil => rfl
      | cons key keys => simp [listed_cons, foreignKeyTokens, words, leadingNames]
  | cons column columns =>
      simp [listed_cons, leadingNames_column, leadingNames_columns,
        leadingNames_foreignKeys]

/-- The name of a table and those of its columns, as the text of its definition shows
them. -/
def createdNames (text : String) : Option (String × List String) :=
  match lex text with
  | some (_ :: _ :: .name table :: _ :: parts) => some (table, leadingNames true parts)
  | _ => none

theorem createdNames_createTable (dialect : Dialect) (table : Table) :
    createdNames ((Statement.createTable table).text dialect) =
      some (table.name, table.columnNames) := by
  have parts := leadingNames_parts dialect table table.columns
    (if dialect.addsForeignKeys then [] else table.foreignKeys)
  rw [apply_ite (List.map foreignKeyTokens), List.map_nil] at parts
  simp [createdNames, lex_createTable, tableTokens, words, parenthesized, parts,
    Table.columnNames]

/-- Each statement of a table has the tokens of its form, whatever the names are, and
its definition shows its name and those of its columns. -/
theorem statement_tokens (dialect : Dialect) (table : Table) :
    lex ((Statement.createTable table).text dialect) =
        some (tableTokens dialect table) ∧
      (foreignKeyStatements dialect table).map (fun added => lex (added.text dialect)) =
        (if dialect.addsForeignKeys then
          table.foreignKeys.map fun key => some (addForeignKeyTokens table.name key)
        else []) ∧
      lex ((Statement.dropTable table.name).text dialect) =
        some (dropTokens table.name) ∧
      ∀ otherDialect other,
        (Statement.createTable other).text otherDialect =
          (Statement.createTable table).text dialect →
        other.name = table.name ∧ other.columnNames = table.columnNames := by
  refine ⟨lex_createTable dialect table, ?_, lex_dropTable dialect table.name, ?_⟩
  · rw [foreignKeyStatements]
    split
    · simp [lex_addForeignKey]
    · rfl
  · intro otherDialect other same
    have shown := createdNames_createTable otherDialect other
    rw [same, createdNames_createTable] at shown
    simpa [eq_comm] using shown

/-- Two tables whose names look like parts of a statement. Only a foreign key parts them,
which the definition of a table does not show in this dialect. -/
theorem statement_tokens_hostile :
    let table : Table :=
      ⟨"a\" (\"b", [⟨"c\",\n\"d", .float, true, false⟩], "id", []⟩
    let other : Table :=
      { table with foreignKeys := [⟨"k\"; --", ["c\",\n\"d"], "e", ["id"]⟩] }
    (Statement.createTable other).text .postgres =
        (Statement.createTable table).text .postgres ∧
      lex ((Statement.createTable table).text .postgres) =
        some [.word "CREATE", .word "TABLE", .name "a\" (\"b", .sign '(',
          .name "c\",\n\"d", .word "DOUBLE", .word "PRECISION", .sign ')'] ∧
      other.name = table.name ∧ other.columnNames = table.columnNames := by
  intro table other
  have same : (Statement.createTable other).text .postgres =
      (Statement.createTable table).text .postgres := rfl
  obtain ⟨read, _, _, shown⟩ := statement_tokens .postgres table
  exact ⟨same, read, shown .postgres other same⟩

end GraphSchema.Sql
