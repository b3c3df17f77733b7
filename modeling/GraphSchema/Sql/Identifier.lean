/-!
# SQL identifiers

A name can be written between double quotes, with a quote inside it written
twice, and every name can be written so. A name may stand without quotes if it
is in lower case, has the form of an identifier and is no reserved word.
-/

namespace GraphSchema.Sql

/-- The words that neither dialect takes for a name unless quoted. -/
def reservedWords : List String :=
  ["abort", "all", "alter", "analyze", "and", "any", "array", "as", "asc",
   "attach", "autoincrement", "before", "begin", "between", "both", "by",
   "cascade", "case", "cast", "check", "collate", "column", "commit",
   "conflict", "constraint", "create", "cross", "current_date", "current_time",
   "current_timestamp", "current_user", "database", "default", "deferrable",
   "deferred", "delete", "desc", "detach", "distinct", "do", "drop", "each",
   "else", "end", "escape", "except", "exclusive", "exists", "explain",
   "false", "fetch", "filter", "for", "foreign", "from", "full", "glob",
   "grant", "group", "having", "if", "ignore", "ilike", "immediate", "in",
   "index", "indexed", "initially", "inner", "insert", "instead", "intersect",
   "into", "is", "isnull", "join", "key", "leading", "left", "like", "limit",
   "localtime", "localtimestamp", "match", "natural", "no", "not", "notnull",
   "null", "of", "offset", "on", "only", "or", "order", "outer", "over",
   "plan", "pragma", "primary", "query", "raise", "recursive", "references",
   "regexp", "reindex", "release", "rename", "replace", "restrict",
   "returning", "right", "rollback", "row", "rows", "savepoint", "select",
   "session_user", "set", "some", "symmetric", "table", "temp", "temporary",
   "then", "to", "trailing", "transaction", "trigger", "true", "union",
   "unique", "update", "user", "using", "vacuum", "values", "variadic", "view",
   "virtual", "when", "where", "window", "with", "without"]

def isBareStart (char : Char) : Bool :=
  char.isLower || char == '_'

def isBarePart (char : Char) : Bool :=
  char.isLower || char.isDigit || char == '_'

/-- Whether a name may stand without quotes. -/
def isBare (name : String) : Bool :=
  name.toList.head?.any isBareStart && name.toList.all isBarePart &&
    name ∉ reservedWords

/-- The characters of a name with every quote doubled. -/
def doubleQuotes (chars : List Char) : List Char :=
  chars.flatMap fun char => if char = '"' then ['"', '"'] else [char]

/-- A name between quotes. -/
def quoted (name : String) : String :=
  String.ofList ('"' :: doubleQuotes name.toList ++ ['"'])

/-- A name as it stands in a query: without quotes where that is possible. -/
def written (name : String) : String :=
  if isBare name then name else quoted name

/-- Names between quotes, one after the other. -/
def quotedList (names : List String) : String :=
  ", ".intercalate (names.map quoted)

end GraphSchema.Sql
