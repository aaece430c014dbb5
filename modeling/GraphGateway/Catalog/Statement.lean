/-
The statements that ask an engine for its catalog.

One lists all tables, the other two take the name of a table as a quoted literal. In a literal a
backslash makes the character behind it stand for itself, and the first quote without one ends the
literal; so the name is written with a backslash in front of each quote and each backslash, and
whatever the name holds, reading the literal gives it back.
-/
import GraphGateway.Text.Utf8

namespace GraphGateway.Catalog

/-! ## Literals -/

/-- A character inside a literal. -/
def escapeChar (c : Char) : List Char :=
  if c = '\\' ∨ c = '\'' then ['\\', c] else [c]

/-- A text as a literal, with its quotes. -/
def literal (text : List Char) : List Char := '\'' :: (text.flatMap escapeChar ++ ['\''])

/-- Reads the rest of a literal behind its opening quote: the text, and what follows the closing
quote. A literal that does not end has no text. -/
def readLiteral : List Char → Option (List Char × List Char)
  | [] => none
  | ['\\'] => none
  | '\\' :: c :: rest => (readLiteral rest).map fun (text, left) => (c :: text, left)
  | c :: rest =>
    if c = '\'' then some ([], rest)
    else (readLiteral rest).map fun (text, left) => (c :: text, left)

/-- What a literal stands for is the text that it was written for. -/
theorem readLiteral_flatMap_escapeChar (text rest : List Char) :
    readLiteral (text.flatMap escapeChar ++ '\'' :: rest) = some (text, rest) := by
  induction text with
  | nil => simp [readLiteral]
  | cons c text ih =>
    by_cases hb : c = '\\'
    · subst hb
      simp [escapeChar, readLiteral, ih]
    · by_cases hq : c = '\''
      · subst hq
        simp [escapeChar, readLiteral, ih]
      · simp [escapeChar, hb, hq, readLiteral, ih]

/-! ## Statements -/

/-- Lists every table. -/
def showTables : String := "CALL show_tables() RETURN *;"

/-- A call with the name of a table. -/
def callWith (procedure table : String) : String :=
  "CALL " ++ procedure ++ "(" ++ String.ofList (literal table.toList) ++ ") RETURN *;"

/-- Lists the properties of a table. -/
def tableInfo (table : String) : String := callWith "table_info" table

/-- Lists the pairs of tables that a relationship table connects. -/
def showConnection (table : String) : String := callWith "show_connection" table

example : tableInfo "O'Neil\\" = "CALL table_info('O\\'Neil\\\\') RETURN *;" := by decide +kernel

end GraphGateway.Catalog
