import EntityStore.Sql.Token

/-! # Keywords

Which words are keywords: a reserved word is never a name, every other keyword is one wherever the
keyword itself could not stand.
-/

namespace EntityStore.Sql

def reservedWords : List String := [
  "add", "all", "alter", "and", "as", "autoincrement", "between", "case", "check", "collate",
  "commit", "constraint", "create", "default", "deferrable", "delete", "distinct", "drop", "else",
  "escape", "except", "exists", "foreign", "from", "group", "having", "in", "index", "insert",
  "intersect", "into", "is", "isnull", "join", "limit", "not", "nothing", "notnull", "null", "on",
  "or", "order", "primary", "references", "returning", "select", "set", "table", "then", "to",
  "transaction", "union", "unique", "update", "using", "values", "when", "where"]

/-- The words about joins, which are names of tables and columns but not of types. -/
def joinWords : List String :=
  ["cross", "full", "indexed", "inner", "left", "natural", "outer", "right"]

/-- A word in lower case letters of the Latin alphabet. -/
def foldWord (word : String) : String := String.ofList (word.toList.map Char.toLower)

/-- Whether two names are the same to the engine. -/
def sameName (a b : String) : Bool := foldWord a = foldWord b

def isReserved (word : String) : Bool := reservedWords.contains (foldWord word)

def isJoinWord (word : String) : Bool := joinWords.contains (foldWord word)

end EntityStore.Sql
