/-
Arguments of tools and prompts.

Every declared argument is a string with something in it besides blanks; a required one has to be
there, and `null` counts as not there. Members that are not declared do not matter. The same
declarations give the JSON Schema that clients are shown. Before anything is served, they are checked
themselves: what is declared has a name of its own.
-/
import GraphGateway.Failure
import GraphGateway.Text.Blank

namespace GraphGateway.Protocol

/-- A declared argument. -/
structure Argument where
  name : String
  description : String
  required : Bool
deriving DecidableEq, Repr

namespace Argument

/-- The members of an arguments value; none at all are no members. -/
def membersOf : Json → Except Failure Members
  | .null => .ok []
  | .object members => .ok members
  | _ => .error (.protocol "'arguments' must be an object")

/-- Checks the member that is given for a declared argument. -/
def check (a : Argument) (members : Members) : Except Failure Unit :=
  match members.lookup a.name with
  | none | some .null =>
    if a.required then .error (.argument a.name "missing required argument") else .ok ()
  | some (.string s) =>
    if Text.isAllBlank s then .error (.argument a.name "must not be empty") else .ok ()
  | some _ => .error (.argument a.name "must be a string")

/-- Checks all declared arguments in order; the first that fails decides. -/
def validate (declared : List Argument) (members : Members) : Except Failure Unit :=
  declared.forM fun a => a.check members

/-- The string that is given for an argument. -/
def text (name : String) (members : Members) : Except Failure String :=
  match (members.lookup name).bind Json.asString? with
  | some s => .ok s
  | none => .error (.argument name "missing required argument")

/-- The JSON Schema of an object with the declared arguments. -/
def jsonSchema (declared : List Argument) : Json :=
  Json.canonical (.object [
    ("type", .string "object"),
    ("properties", .object (declared.map fun a =>
      (a.name, .object [("type", .string "string"), ("description", .string a.description)]))),
    ("required", .array ((declared.filter (·.required)).map fun a => .string a.name))])

/-- Checks that declared arguments have names, each its own and none of those seen before; `owner` is
what they belong to. -/
def checkDeclared (owner : String) : List String → List Argument → Except Failure Unit
  | _, [] => .ok ()
  | seen, a :: declared =>
    if a.name = "" ∨ a.name ∈ seen then
      .error (.protocol s!"invalid argument declaration '{a.name}' for {owner}")
    else checkDeclared owner (a.name :: seen) declared

theorem checkDeclared_eq_ok_iff {owner : String} {seen : List String} {declared : List Argument} :
    checkDeclared owner seen declared = .ok () ↔
      (∀ a ∈ declared, a.name ≠ "" ∧ a.name ∉ seen) ∧ (declared.map name).Nodup := by
  -- What is seen grows on the way; that the rest avoids it is what keeps the names apart.
  induction declared generalizing seen with
  | nil => simp [checkDeclared]
  | cons a declared ih =>
    rw [checkDeclared]
    split
    · next h =>
      refine iff_of_false (nomatch ·) fun ⟨hall, _⟩ => ?_
      exact h.elim (hall a List.mem_cons_self).1 (hall a List.mem_cons_self).2
    · next h =>
      rw [ih]
      simp only [List.mem_cons, List.map_cons, List.nodup_cons, List.mem_map]
      grind

end Argument

/-- Checks a catalog of what can be asked for, each with its name and the arguments that are declared
for it: the names differ from each other and from those seen before. -/
def checkCatalog (kind : String) :
    List String → List (String × List Argument) → Except Failure Unit
  | _, [] => .ok ()
  | seen, (name, declared) :: entries =>
    if name ∈ seen then .error (.protocol s!"duplicate {kind} name in catalog: {name}")
    else do
      Argument.checkDeclared name [] declared
      checkCatalog kind (name :: seen) entries

theorem checkCatalog_eq_ok_iff {kind : String} {seen : List String}
    {entries : List (String × List Argument)} :
    checkCatalog kind seen entries = .ok () ↔
      (∀ e ∈ entries, e.1 ∉ seen ∧ Argument.checkDeclared e.1 [] e.2 = .ok ()) ∧
        (entries.map Prod.fst).Nodup := by
  induction entries generalizing seen with
  | nil => simp [checkCatalog]
  | cons entry entries ih =>
    obtain ⟨name, declared⟩ := entry
    rw [checkCatalog]
    split
    · next h =>
      exact iff_of_false (nomatch ·) fun ⟨hall, _⟩ => (hall _ List.mem_cons_self).1 h
    · next h =>
      cases hdeclared : Argument.checkDeclared name [] declared with
      | error f =>
        refine iff_of_false (nomatch ·) fun ⟨hall, _⟩ => ?_
        cases hdeclared.symm.trans (hall _ List.mem_cons_self).2
      | ok =>
        simp only [bind, Except.bind, ih, List.map_cons, List.nodup_cons, List.mem_map,
          List.mem_cons]
        grind

end GraphGateway.Protocol
