import SqlAssist.Value

/-!
# The keyword catalog

The SQL keywords offered when no name fits, in the order they are offered, each with the
short description shown beside it.  A catalog may give any value as a description; the
default one gives texts.
-/

namespace SqlAssist.Completion

/-- A keyword and its description. -/
structure KeywordEntry where
  keyword : String
  detail : Value

/-- The keywords of the default catalog with their descriptions. -/
def defaultDescriptions : List (String × String) :=
  [⟨"SELECT", "Start a query"⟩, ⟨"FROM", "Choose a table or view"⟩, ⟨"WHERE", "Filter rows"⟩,
   ⟨"JOIN", "Combine rows from another table"⟩,
   ⟨"LEFT JOIN", "Keep every row from the left table"⟩,
   ⟨"RIGHT JOIN", "Keep every row from the right table"⟩,
   ⟨"INNER JOIN", "Keep matching rows only"⟩,
   ⟨"OUTER JOIN", "Keep unmatched rows from both sides"⟩, ⟨"ON", "Join condition"⟩,
   ⟨"AND", "Both conditions hold"⟩, ⟨"OR", "Either condition holds"⟩,
   ⟨"NOT", "Negate a condition"⟩, ⟨"IN", "Match any listed value"⟩,
   ⟨"EXISTS", "Subquery returns rows"⟩, ⟨"BETWEEN", "Inclusive range test"⟩,
   ⟨"LIKE", "Pattern match"⟩, ⟨"IS", "Compare with NULL or a boolean"⟩,
   ⟨"NULL", "Missing value"⟩, ⟨"ORDER BY", "Sort result set"⟩, ⟨"GROUP BY", "Aggregate rows"⟩,
   ⟨"HAVING", "Filter aggregates"⟩, ⟨"LIMIT", "Restrict row count"⟩,
   ⟨"OFFSET", "Skip leading rows"⟩, ⟨"INSERT", "Add rows"⟩,
   ⟨"INTO", "Target table for inserted rows"⟩, ⟨"VALUES", "Literal rows"⟩,
   ⟨"UPDATE", "Modify rows"⟩, ⟨"SET", "Assign column values"⟩, ⟨"DELETE", "Remove rows"⟩,
   ⟨"CREATE", "Define a new object"⟩, ⟨"ALTER", "Change an existing object"⟩,
   ⟨"DROP", "Remove an object"⟩, ⟨"TABLE", "Table object"⟩, ⟨"DATABASE", "Database object"⟩,
   ⟨"INDEX", "Index object"⟩, ⟨"VIEW", "View object"⟩, ⟨"AS", "Name a column or table alias"⟩,
   ⟨"DISTINCT", "Deduplicate rows"⟩, ⟨"COUNT", "Count rows"⟩, ⟨"SUM", "Sum of values"⟩,
   ⟨"AVG", "Average of values"⟩, ⟨"MAX", "Largest value"⟩, ⟨"MIN", "Smallest value"⟩,
   ⟨"CASE", "Conditional expression"⟩, ⟨"WHEN", "Case branch condition"⟩,
   ⟨"THEN", "Case branch result"⟩, ⟨"ELSE", "Case fallback result"⟩,
   ⟨"END", "Close a CASE expression"⟩, ⟨"UNION", "Append another query's rows"⟩,
   ⟨"ALL", "Keep duplicates"⟩, ⟨"ASC", "Ascending order"⟩, ⟨"DESC", "Descending order"⟩,
   ⟨"USE", "Switch the current database"⟩]

/-- The default keyword catalog. -/
def defaultKeywords : List KeywordEntry :=
  defaultDescriptions.map fun (k, d) => ⟨k, .str d⟩

/-- The description of a keyword: that of its last entry, as a catalog read into a map
keeps it. -/
def detailOf (entries : List KeywordEntry) (k : String) : Value :=
  ((entries.reverse.find? (·.keyword = k)).map (·.detail)).getD (.str "")

end SqlAssist.Completion
