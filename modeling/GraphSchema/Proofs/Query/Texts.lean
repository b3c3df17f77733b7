import GraphSchema.Query.Select

/-!
# Texts of queries

The text of every query begins in one way: it selects something from somewhere.
What is selected from a table are the names of columns as they are written, and
what is selected along a junction are these names and the key of a map.
-/

namespace GraphSchema.Query

open Relational (primaryKey)
open Sql (written)

namespace Select

/-- What a query selects. -/
def selection : Select → List String
  | .row columns .. => columns.map written
  | .page columns .. => columns.map written
  | .count _ => ["COUNT(*) AS " ++ countColumn]
  | .linked link _ => link.selection

/-- The tables that a query selects from. -/
def source : Select → String
  | .row _ table _ => written table
  | .page _ table .. => written table
  | .count table => written table
  | .linked link _ =>
      written link.junction ++ " rel INNER JOIN " ++ written link.table

/-- Which rows a query selects, in which order and how many of them. -/
def restriction : Select → String
  | .row _ _ parameter => " WHERE " ++ primaryKey ++ " = :" ++ parameter
  | .page _ _ size parameter =>
      " ORDER BY " ++ primaryKey ++ " DESC LIMIT " ++ toString size.toNat ++
        " OFFSET :" ++ parameter
  | .count _ => ""
  | .linked link size =>
      " entity ON entity." ++ primaryKey ++ " = rel." ++
        written link.targetColumn ++ " WHERE rel." ++ written link.ownerColumn ++
        " = :" ++ primaryKey ++ " ORDER BY entity." ++ primaryKey ++
        " DESC LIMIT " ++ toString size.toNat

/-- Whether a query selects its columns and, at most, the key of a map before
them. -/
def SelectsColumns (query : Select) : Prop :=
  query.selection = query.columns.map written ∨
    ∃ link size, query = .linked link size ∧
      query.selection =
        (link.keyColumn.map fun column =>
          "rel." ++ written column ++ " AS " ++ mapKeyAlias).toList ++
        query.columns.map fun column => "entity." ++ written column

theorem text_eq (query : Select) :
    query.text =
      "SELECT " ++ commaList query.selection ++ " FROM " ++ query.source ++
        query.restriction := by
  unfold text selection source restriction
  cases query with
  | row columns table parameter => simp only [String.append_assoc]
  | page columns table size parameter => simp only [String.append_assoc]
  | count table => simp [commaList, countColumn]
  | linked link size => simp only [String.append_assoc]

end Select

/-! ## Items -/

/-- An item of what a query selects. -/
inductive Item where
  /-- A column, under its own name. -/
  | column (source : Option String) (name : String)
  /-- What an expression yields, under another name. -/
  | renamed (expression name : String)
  deriving DecidableEq, Repr

namespace Item

def text : Item → String
  | .column none name => written name
  | .column (some source) name => source ++ "." ++ written name
  | .renamed expression name => expression ++ " AS " ++ name

/-- The name of the column of the result that an item gives rise to. -/
def result : Item → String
  | .column _ name => name
  | .renamed _ name => name

end Item

namespace Select

/-- The items of what a query selects. -/
def items : Select → List Item
  | .row columns .. => columns.map (.column none)
  | .page columns .. => columns.map (.column none)
  | .count _ => [.renamed "COUNT(*)" countColumn]
  | .linked link _ =>
      (link.keyColumn.map fun column =>
        .renamed ("rel." ++ written column) mapKeyAlias).toList ++
      link.columns.map (.column (some "entity"))

theorem items_text (query : Select) :
    query.items.map Item.text = query.selection := by
  have entity : "entity" ++ "." = "entity." := by decide
  cases query with
  | row columns table parameter | page columns table size parameter =>
      simp [items, selection, Item.text]
  | count table => simp [items, selection, Item.text]
  | linked link size =>
      cases key : link.keyColumn <;>
        simp [items, selection, Link.selection, Item.text, key, entity]

/-- The columns of the result of a query are those of its items. -/
theorem items_result (query : Select) :
    query.items.map Item.result = query.resultColumns := by
  cases query with
  | row columns table parameter | page columns table size parameter =>
      simp [items, resultColumns, Select.columns, Item.result, Function.comp_def]
  | count table => rfl
  | linked link size =>
      cases key : link.keyColumn <;>
        simp [items, resultColumns, Item.result, Function.comp_def, key]

end Select

end GraphSchema.Query
