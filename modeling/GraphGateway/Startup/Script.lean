/-
Scripts of statements, one after the other.

A script is read line by line. Blank lines and lines that start with two slashes or two hyphens are
passed over, blanks at both ends of a line are dropped, and a line that ends with a semicolon ends
its statement. What follows the last such line is a statement too.
-/
import GraphGateway.Text.Blank

namespace GraphGateway.Startup.Script

/-- A line of a script, without blanks at its ends. -/
abbrev Line := List Char

def isComment (line : Line) : Bool :=
  ['/', '/'].isPrefixOf line || ['-', '-'].isPrefixOf line

/-- Whether a line belongs to a statement. -/
def isKept (line : Line) : Bool := line != [] && !isComment line

/-- Whether a line is the last of its statement. -/
def isLast (line : Line) : Bool := line.getLast? == some ';'

/-- The lines of a script that belong to statements, in order. -/
def keptLines (script : String) : List Line :=
  ((Text.splitLines script.toList).map Text.trimChars).filter isKept

/-- The lines of each statement. -/
def group : List Line → List (List Line)
  | [] => []
  | line :: lines =>
    if isLast line then [line] :: group lines
    else
      match group lines with
      | [] => [[line]]
      | statement :: statements => (line :: statement) :: statements

/-- A statement on as many lines as it has. -/
def join (lines : List Line) : String := String.ofList (['\n'].intercalate lines)

/-- The statements of a script, in order. -/
def split (script : String) : List String := (group (keptLines script)).map join

/-- Grouping loses no line. -/
theorem flatten_group (lines : List Line) : (group lines).flatten = lines := by
  induction lines with
  | nil => rfl
  | cons line lines ih =>
    unfold group
    split
    · simp [ih]
    · split <;> simp_all

example : split "// people\nCREATE (a);\r\n\n  MATCH (b)\n -- all\n RETURN b ; \nx" =
    ["CREATE (a);", "MATCH (b)\nRETURN b ;", "x"] := by decide +kernel

end GraphGateway.Startup.Script
