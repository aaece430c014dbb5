/-
Which log messages are shown.

A filter is written as directives between commas. A directive sets how severe messages have to be to
be shown: all messages, those of a part of the program, or those that carry a field. Without a level
it shows all of them. Of the directives that are about a message the most particular one decides: a
longer name of a part comes first, a field second. A message that no directive is about is hidden.

A filter that is given counts only if all of it can be understood; an empty one hides everything.
Otherwise the level of the configuration stands in. What cannot be understood of it is left out, and
if that is all of it, errors are shown.

    info                        messages of every part, from info on
    kuzu_mcp::db=debug          messages of parts whose name starts so, from debug on
    kuzu_mcp::db[{rows}]=trace  of these, the messages with a field of that name

A directive may also name a span, or the value of a field of a span. Messages of this program stand
in no spans, so that such a directive is about none of them.
-/
import GraphGateway.Notice
import GraphGateway.Number.Reading
import GraphGateway.Text.Alphanumeric
import GraphGateway.Text.Blank

namespace GraphGateway.CommandLine

/-- The least severe messages that are shown; none if all are hidden. -/
abbrev Threshold := Option Level

/-- Whether messages of a level are shown. -/
def Threshold.passes (t : Threshold) (l : Level) : Bool := t.any fun t => l.severity ≤ t.severity

/-! ## Rules -/

/-- Which messages a directive is about, and what it shows of them. -/
structure Rule where
  /-- How the part of the program starts that messages come from. -/
  target : String := ""
  /-- A field that messages carry. -/
  field : Option String := none
  threshold : Threshold
deriving DecidableEq, Repr

namespace Rule

/-- Whether a rule is about a message. -/
def covers (r : Rule) (n : Notice) : Bool :=
  r.target.toList.isPrefixOf n.origin.toList && r.field.all n.carries

/-- Whether a rule is at least as particular as another one that is about the same message. Of two
fields the one later in the alphabet counts as more particular. -/
def outranks (r other : Rule) : Bool :=
  other.target.length < r.target.length ||
    (other.target.length == r.target.length &&
      match other.field, r.field with
      | none, _ => true
      | some _, none => false
      | some old, some new => !(new.toList < old.toList))

/-- The more particular of two rules about the same message, the later one if neither is. -/
def preferred (best : Option Rule) (r : Rule) : Option Rule :=
  if best.all r.outranks then some r else best

end Rule

/-- What decides which messages are shown: rules in the order in which they are given. -/
abbrev LogFilter := List Rule

namespace LogFilter

/-- The rule that decides on a message, if there is one. -/
def decisive? (filter : LogFilter) (n : Notice) : Option Rule :=
  (filter.filter (·.covers n)).foldl Rule.preferred none

/-- Whether a message is shown. -/
def passes (filter : LogFilter) (n : Notice) : Bool :=
  (filter.decisive? n).any fun r => r.threshold.passes n.level

end LogFilter

/-! ## Directives -/

/-- A directive that has been understood. -/
inductive Directive where
  | rule (rule : Rule)
  /-- It is about no message of this program. -/
  | idle
deriving DecidableEq, Repr

namespace Directive

def rule? : Directive → Option Rule
  | .rule r => some r
  | .idle => none

/-- The threshold that a level stands for: a word, or a number with an optional plus sign. -/
def threshold? (level : List Char) : Option Threshold :=
  let words : List (String × Threshold) := [("off", none), ("error", some .error),
    ("warn", some .warn), ("info", some .info), ("debug", some .debug), ("trace", some .trace)]
  let digits := match level with
    | '+' :: digits => digits
    | digits => digits
  if digits ≠ [] ∧ digits.all Char.isDigit then
    words[digits.foldl (fun n c => n * 10 + Number.digitValue c) 0]?.map Prod.snd
  else words.lookup (String.ofList (level.map Char.toLower))

/-- Whether a directive may start with a character. -/
def isStart (c : Char) : Bool :=
  Text.isAlphanumeric c || c = '_' || c = ':' || c = '-' || c = '['

/-- What brackets in a directive ask for. -/
inductive Brackets where
  | field (name : String)
  /-- A span, or the value of a field of one. -/
  | span

/-- Reads brackets behind the one that opens them: the name of a span, which may be missing, and a
field in braces, which may be missing too. -/
def readBrackets (input : List Char) : Option (Brackets × List Char) :=
  let span := input.takeWhile fun c => c ≠ ']' && c ≠ '\x7b'
  match input.drop span.length with
  | ']' :: rest => some (.span, rest)
  | '\x7b' :: rest =>
    let field := rest.takeWhile (· ≠ '\x7d')
    match rest.drop field.length with
    | '\x7d' :: ']' :: rest =>
      if field = [] then none
      else if span = [] && !field.contains '=' then some (.field (String.ofList field), rest)
      else some (.span, rest)
    | _ => none
  | _ => none

/-- Reads the threshold that ends a directive. Without an equals sign, or with nothing behind it,
everything is shown. Blanks in front of the directive spoil a threshold. -/
def readThreshold (indented : Bool) : List Char → Option Threshold
  | '=' :: level =>
    if indented then none else if level = [] then some (some .trace) else threshold? level
  | rest => if rest.all Text.isBlank then some (some .trace) else none

/-- The directive that a text stands for. A name that has blanks in front of it is that of no part
of the program, and no field has such a name. -/
def ofText? (text : String) : Option Directive :=
  let chars := text.toList.dropWhile Text.isBlank
  let indented := chars.length < text.length
  let about (r : Rule) : Directive := if indented then .idle else .rule r
  let name := chars.takeWhile fun c => c ≠ '=' && c ≠ '['
  if !chars.head?.any isStart then none
  else
    match chars.drop name.length with
    | [] =>
      match threshold? name with
      | some threshold => some (about ⟨"", none, threshold⟩)
      | none => some (about ⟨String.ofList name, none, some .trace⟩)
    | '[' :: rest => do
      let (brackets, rest) ← readBrackets rest
      let threshold ← readThreshold indented rest
      match brackets with
      | .field field => some (about ⟨String.ofList name, some field, threshold⟩)
      | .span => some .idle
    | rest => do
      let threshold ← readThreshold indented rest
      some (about ⟨String.ofList name, none, threshold⟩)

/-- A level may be a number, and a name alone shows all. -/
example : ofText? "Debug" = some (.rule ⟨"", none, some .debug⟩) ∧
    ofText? "a=+4" = some (.rule ⟨"a", none, some .debug⟩) ∧
    ofText? "a::b" = some (.rule ⟨"a::b", none, some .trace⟩) ∧
    ofText? "a=" = some (.rule ⟨"a", none, some .trace⟩) := by decide +kernel

/-- Blanks belong to what they stand beside. -/
example : ofText? "a=debug " = none ∧ ofText? " a=debug" = none ∧ ofText? " info" = some .idle ∧
    ofText? "info " = some (.rule ⟨"info ", none, some .trace⟩) := by decide +kernel

/-- A field may be asked for by its name, in braces. -/
example : ofText? "a[\x7brows\x7d]=info" = some (.rule ⟨"a", some "rows", some .info⟩) ∧
    ofText? "[\x7brows\x7d]" = some (.rule ⟨"", some "rows", some .trace⟩) ∧
    ofText? "[\x7brows=1\x7d]" = some .idle ∧ ofText? "[a]=off" = some .idle ∧
    ofText? "[\x7b\x7d]" = none ∧ ofText? "=info" = none := by decide +kernel

/-- The directives of a filter, each as far as it can be understood. -/
def listOfText (filter : String) : List (Option Directive) :=
  ((String.splitOn filter ",").filter (· != "")).map ofText?

end Directive

/-! ## Filters -/

namespace LogFilter

/-- The filter of some directives. -/
def ofDirectives (directives : List Directive) : LogFilter := directives.filterMap Directive.rule?

/-- The filter that is given, if all of it can be understood. -/
def ofGiven? (filter : String) : Option LogFilter :=
  ((Directive.listOfText filter).mapM (·)).map ofDirectives

/-- The filter that the level of a configuration stands for. -/
def ofConfigured (logLevel : String) : LogFilter :=
  match (Directive.listOfText s!"{Notice.program}={logLevel}").filterMap id with
  | [] => [{ threshold := some .error }]
  | directives => ofDirectives directives

/-- The filter that decides: the one that is given, else that of the configuration. -/
def choose (given : Option String) (logLevel : String) : LogFilter :=
  (given.bind ofGiven?).getD (ofConfigured logLevel)

end LogFilter

end GraphGateway.CommandLine
