/-
TOML values, and how definitions build a table.

A table remembers how it came to be, because that decides what may still be added to it. A table
between braces is closed. A table that only lies on the way of headers may be given a header of its
own later, one that lies on the way of a dotted key may not, and dotted keys do not lead into a
table that has a header. Headers and dotted keys that lead into an array of tables lead into its
last element, but there a dotted key makes further tables and no value. A name is given one value
and never another.
-/
import GraphGateway.Number.Layout

namespace GraphGateway.Toml

/-- How a table came to be. -/
inductive Origin where
  /-- It has a header, or is an element of an array of tables, or is the document. -/
  | header
  /-- It lies on the way of headers only. -/
  | passed
  /-- It lies on the way of a dotted key, and maybe of headers. -/
  | dotted
  /-- It stands between braces. -/
  | braces
deriving DecidableEq, Repr

inductive Value where
  | string (value : String)
  | flag (value : Bool)
  | integer (value : Int)
  | float (text : String)
  /-- A date, a time, or both. -/
  | moment (text : String)
  | array (items : List Value)
  | table (origin : Origin) (entries : List (String × Value))
  /-- An array of tables that have headers. -/
  | tables (elements : List (List (String × Value)))
deriving Inhabited

/-- The names of a table and their values. -/
abbrev Entries := List (String × Value)

/-- A change to a table that may be refused. -/
abbrev Edit := Origin → Entries → Option (Origin × Entries)

namespace Entries

/-- Gives a name that is there another value. -/
def replace (key : String) (value : Value) (entries : Entries) : Entries :=
  entries.map fun e => if e.1 = key then (key, value) else e

/-- Changes the table that a path leads to, making what is missing on the way. -/
def along (dotted : Bool) (edit : Edit) : List String → Edit
  | [], origin, entries => edit origin entries
  | key :: path, origin, entries =>
    match entries.lookup key with
    | none =>
      (along dotted edit path (if dotted then .dotted else .passed) []).map fun (o, es) =>
        (origin, entries ++ [(key, .table o es)])
    | some (.table inner found) =>
      if inner = .braces ∨ (dotted ∧ inner = .header) then none
      else
        (along dotted edit path (if dotted then .dotted else inner) found).map fun (o, es) =>
          (origin, replace key (.table o es) entries)
    | some (.tables elements) =>
      match elements.reverse with
      | [] => none
      | last :: before =>
        (along dotted edit path .header last).map fun (_, es) =>
          (origin, replace key (.tables (before.reverse ++ [es])) entries)
    | some _ => none

/-- Gives a new name a value. -/
def add (key : String) (value : Value) : Edit := fun origin entries =>
  if (entries.lookup key).isSome then none else some (origin, entries ++ [(key, value)])

/-- Gives a dotted key a value. The table that its path leads to has to lie on the way of dotted
keys. -/
def set (path : List String) (key : String) (value : Value) : Edit :=
  along true (fun origin entries =>
    if path ≠ [] ∧ origin ≠ .dotted then none else add key value origin entries) path

/-- Gives a table its header. -/
def openTable (key : String) : Edit := fun origin entries =>
  match entries.lookup key with
  | none => some (origin, entries ++ [(key, .table .header [])])
  | some (.table .passed found) => some (origin, replace key (.table .header found) entries)
  | some _ => none

/-- Adds an empty table to an array of tables, which is made if it is missing. -/
def openElement (key : String) : Edit := fun origin entries =>
  match entries.lookup key with
  | none => some (origin, entries ++ [(key, .tables [[]])])
  | some (.tables elements) => some (origin, replace key (.tables (elements ++ [[]])) entries)
  | some _ => none

end Entries

/-- A line of a document that defines something; keys are split at their last dot. -/
inductive Definition where
  | entry (path : List String) (key : String) (value : Value)
  | table (path : List String) (key : String)
  | element (path : List String) (key : String)

/-- The table that definitions build, the one whose header came last being at a given path. -/
def build : List String → Entries → List Definition → Option Entries
  | _, entries, [] => some entries
  | here, entries, .entry path key value :: rest =>
    (Entries.along false (Entries.set path key value) here .header entries).bind
      fun (_, entries) => build here entries rest
  | _, entries, .table path key :: rest =>
    (Entries.along false (Entries.openTable key) path .header entries).bind
      fun (_, entries) => build (path ++ [key]) entries rest
  | _, entries, .element path key :: rest =>
    (Entries.along false (Entries.openElement key) path .header entries).bind
      fun (_, entries) => build (path ++ [key]) entries rest

end GraphGateway.Toml
