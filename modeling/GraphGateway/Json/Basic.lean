/-
JSON values.

An object keeps its members in order, repeated names included, because rows are printed that way. A
value that has passed through a generic JSON value is *canonical*: in every object the names ascend
and none occurs twice, the last of several members of one name having won.
-/
import GraphGateway.Number.Layout

namespace GraphGateway

/-- A number as JSON writes it: an integer of the 64-bit ranges, or a finite double. -/
inductive Numeral where
  | int (value : Int)
  | double (value : Number.Double)
deriving DecidableEq, Repr

inductive Json where
  | null
  | bool (value : Bool)
  | number (value : Numeral)
  | string (value : String)
  | array (items : List Json)
  | object (members : List (String × Json))
deriving Repr

/-- The members of a JSON object, in order. -/
abbrev Members := List (String × Json)

namespace Json

/-! ## Equality -/

mutual

/-- Whether two values are the same, member order included. -/
def same : Json → Json → Bool
  | .null, .null => true
  | .bool a, .bool b => a == b
  | .number a, .number b => decide (a = b)
  | .string a, .string b => a == b
  | .array xs, .array ys => sameItems xs ys
  | .object ms, .object ns => sameMembers ms ns
  | _, _ => false

def sameItems : List Json → List Json → Bool
  | [], [] => true
  | x :: xs, y :: ys => same x y && sameItems xs ys
  | _, _ => false

def sameMembers : Members → Members → Bool
  | [], [] => true
  | (k, x) :: ms, (l, y) :: ns => k == l && same x y && sameMembers ms ns
  | _, _ => false

end

mutual

theorem eq_of_same : ∀ {x y : Json}, same x y = true → x = y
  | .null, .null, _ => rfl
  | .bool _, .bool _, h => by simp_all [same]
  | .number _, .number _, h => by simp_all [same]
  | .string _, .string _, h => by simp_all [same]
  | .array _, .array _, h => congrArg Json.array (eq_of_sameItems (by simpa only [same] using h))
  | .object _, .object _, h =>
    congrArg Json.object (eq_of_sameMembers (by simpa only [same] using h))

theorem eq_of_sameItems : ∀ {xs ys : List Json}, sameItems xs ys = true → xs = ys
  | [], [], _ => rfl
  | x :: xs, y :: ys, h => by
    simp only [sameItems, Bool.and_eq_true] at h
    rw [eq_of_same h.1, eq_of_sameItems h.2]

theorem eq_of_sameMembers : ∀ {ms ns : Members}, sameMembers ms ns = true → ms = ns
  | [], [], _ => rfl
  | (k, x) :: ms, (l, y) :: ns, h => by
    simp only [sameMembers, Bool.and_eq_true, beq_iff_eq] at h
    rw [h.1.1, eq_of_same h.1.2, eq_of_sameMembers h.2]

end

mutual

theorem same_refl : ∀ x : Json, same x x = true
  | .null => rfl
  | .bool _ => by simp [same]
  | .number _ => by simp [same]
  | .string _ => by simp [same]
  | .array xs => by simp [same, sameItems_refl xs]
  | .object ms => by simp [same, sameMembers_refl ms]

theorem sameItems_refl : ∀ xs : List Json, sameItems xs xs = true
  | [] => rfl
  | x :: xs => by simp [sameItems, same_refl x, sameItems_refl xs]

theorem sameMembers_refl : ∀ ms : Members, sameMembers ms ms = true
  | [] => rfl
  | (k, x) :: ms => by simp [sameMembers, same_refl x, sameMembers_refl ms]

end

instance : DecidableEq Json := fun x y =>
  if h : same x y then .isTrue (eq_of_same h) else .isFalse fun e => h (e ▸ same_refl x)

/-! ## Members -/

/-- The value of a member of an object; of several so called the first. A value that is no object
has no members. -/
def get? (name : String) : Json → Option Json
  | .object members => members.lookup name
  | _ => none

def asString? : Json → Option String
  | .string s => some s
  | _ => none

def isNull : Json → Bool
  | .null => true
  | _ => false

/-- Puts a member among members whose names ascend, in place of one of its name. -/
def insertMember (name : String) (value : Json) : Members → Members
  | [] => [(name, value)]
  | (key, old) :: members =>
    if name < key then (name, value) :: (key, old) :: members
    else if name = key then (name, value) :: members
    else (key, old) :: insertMember name value members

/-- The members with ascending names, the last of each name. -/
def sortMembers (members : Members) : Members :=
  members.foldl (fun sorted m => insertMember m.1 m.2 sorted) []

theorem lookup_member {β : Type} (key name : String) (value : β) (members : List (String × β)) :
    List.lookup key ((name, value) :: members) =
      if key = name then some value else members.lookup key := by
  rw [List.lookup_cons]
  by_cases h : key = name
  · simp [h]
  · have hne : (key == name) = false := by simpa using h
    simp only [hne, h, if_false]

/-- Leaving entries out that are told by their key. -/
theorem lookup_filter {α β : Type} [BEq α] [LawfulBEq α] (p : α → Bool) (entries : List (α × β))
    (key : α) : (entries.filter fun e => p e.1).lookup key =
      if p key then entries.lookup key else none := by
  induction entries with
  | nil => simp
  | cons e entries ih =>
    obtain ⟨name, value⟩ := e
    rw [List.filter_cons, List.lookup_cons]
    by_cases h : key = name
    · subst h
      by_cases hp : p key = true <;> simp [hp, ih]
    · have hne : (key == name) = false := by simpa using h
      by_cases hp : p name = true <;> simp [hp, ih, hne, List.lookup_cons]

/-- A member that has been put in is found under its name, the others as before. -/
theorem lookup_insertMember (key name : String) (value : Json) (members : Members) :
    (insertMember name value members).lookup key =
      if key = name then some value else members.lookup key := by
  induction members with
  | nil => exact lookup_member key name value []
  | cons m members ih =>
    obtain ⟨own, old⟩ := m
    unfold insertMember
    split
    · exact lookup_member key name value _
    · split
      · next heq =>
        subst heq
        by_cases h : key = name <;> simp only [lookup_member, h, if_true, if_false]
      · next hne =>
        simp only [lookup_member, ih]
        by_cases h : key = name
        · subst h
          simp only [hne, if_true, if_false]
        · simp only [h, if_false]

/-- Among sorted members the last of each name is found. -/
theorem lookup_sortMembers (key : String) (members : Members) :
    (sortMembers members).lookup key = members.reverse.lookup key := by
  have hfold (sorted : Members) :
      (members.foldl (fun sorted m => insertMember m.1 m.2 sorted) sorted).lookup key =
        (members.reverse.lookup key).or (sorted.lookup key) := by
    induction members generalizing sorted with
    | nil => rfl
    | cons m members ih =>
      have hone : (insertMember m.1 m.2 sorted).lookup key =
          (List.lookup key [m]).or (sorted.lookup key) := by
        rw [lookup_insertMember, lookup_member]
        by_cases h : key = m.1 <;> simp [h]
      rw [List.foldl_cons, ih, hone, List.reverse_cons, List.lookup_append, Option.or_assoc]
  rw [sortMembers, hfold, List.lookup_nil, Option.or_none]

mutual

/-- The value with the members of every object sorted. -/
def canonical : Json → Json
  | .array items => .array (canonicalItems items)
  | .object members => .object (sortMembers (canonicalMembers members))
  | .null => .null
  | .bool b => .bool b
  | .number n => .number n
  | .string s => .string s

def canonicalItems : List Json → List Json
  | [] => []
  | item :: items => canonical item :: canonicalItems items

def canonicalMembers : Members → Members
  | [] => []
  | (name, value) :: members => (name, canonical value) :: canonicalMembers members

end

theorem canonicalItems_eq_map (items : List Json) : canonicalItems items = items.map canonical := by
  induction items with
  | nil => rfl
  | cons item items ih => rw [canonicalItems, ih, List.map_cons]

theorem canonicalMembers_eq_map (members : Members) :
    canonicalMembers members = members.map fun m => (m.1, canonical m.2) := by
  induction members with
  | nil => rfl
  | cons m members ih => rw [canonicalMembers, ih, List.map_cons]

/-- What an object has under a name once it is sorted: the last that it had before. -/
theorem get?_canonical_object (name : String) (members : Members) :
    (canonical (.object members)).get? name =
      (members.reverse.map fun m => (m.1, canonical m.2)).lookup name := by
  rw [canonical, get?, lookup_sortMembers, canonicalMembers_eq_map, List.map_reverse]

/-- Sorting is by name, and the last of two members of one name is kept. -/
example : canonical (.object [("b", .null), ("a", .bool true), ("b", .bool false)]) =
    .object [("a", .bool true), ("b", .bool false)] := by decide +kernel

end Json

end GraphGateway
