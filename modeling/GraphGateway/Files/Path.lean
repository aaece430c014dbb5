/-
Paths as byte sequences.

A path is cut into segments at its slashes; an empty segment and, behind the first, a single dot
name nothing. A path therefore has one name and one parent however many slashes it ends with. Paths
need not be text: they are shown with U+FFFD for bytes that belong to no character.
-/
import GraphGateway.Text.Quoted

namespace GraphGateway.Files

/-- The name of an entry of a directory. -/
abbrev Name := List UInt8

/-- The byte between the segments of a path. -/
def slash : UInt8 := 0x2F

def dot : UInt8 := 0x2E

/-- A path, relative unless it starts with a slash. -/
structure Path where
  bytes : List UInt8
deriving DecidableEq, Repr

namespace Path

def ofString (s : String) : Path := ⟨Text.Utf8.encode s⟩

/-- The path as text, with U+FFFD for what is no text. -/
def display (p : Path) : String := Text.Utf8.decodeLossy p.bytes

/-- The path as text, if it is text. -/
def text? (p : Path) : Option String := (Text.Utf8.decode p.bytes).toOption

/-- The path in double quotes. -/
def quoted (p : Path) : String := Text.Quoted.quoteBytes p.bytes

def isEmpty (p : Path) : Bool := p.bytes.isEmpty

def isAbsolute (p : Path) : Bool := p.bytes.head? == some slash

/-- The path of an entry of the directory at a path. -/
def child (p : Path) (name : String) : Path :=
  let between := if p.isEmpty || p.bytes.getLast? == some slash then [] else [slash]
  ⟨p.bytes ++ between ++ Text.Utf8.encode name⟩

/-- The pieces of a byte sequence between its slashes: one more than there are slashes. -/
def cut : List UInt8 → List Name
  | [] => [[]]
  | b :: bytes =>
    if b = slash then [] :: cut bytes
    else
      match cut bytes with
      | [] => [[b]]
      | piece :: pieces => (b :: piece) :: pieces

def segments (p : Path) : List Name := cut p.bytes

/-- The segments put together again. -/
def ofSegments (segments : List Name) : Path := ⟨[slash].intercalate segments⟩

/-- Whether a segment names nothing behind another one. -/
def isIdle (segment : Name) : Bool := segment == [] || segment == [dot]

/-- The segments without those at the end that name nothing; the first one always stays. -/
def trimSegments : List Name → List Name
  | [] => []
  | first :: rest => first :: (rest.reverse.dropWhile isIdle).reverse

/-- The segments up to the last that names something. For `/` and the empty path this is one empty
segment. -/
def significant (p : Path) : List Name := trimSegments p.segments

/-- The path in front of the last name. The root and the empty path have none; that of a single name
is empty. -/
def parent? (p : Path) : Option Path :=
  match p.significant with
  | [] => none
  | [[]] => none
  | segments =>
    let rest := trimSegments segments.dropLast
    if p.isAbsolute && rest == [[]] then some ⟨[slash]⟩ else some (ofSegments rest)

/-- The last name, unless it is a dot or two. -/
def fileName? (p : Path) : Option Name :=
  match p.significant.getLast? with
  | none => none
  | some name => if name = [] ∨ name = [dot] ∨ name = [dot, dot] then none else some name

/-- A file name without its extension: what is in front of the last dot, unless that is in front of
everything else. -/
def stem (name : Name) : Name :=
  match name.reverse.dropWhile (· != dot) with
  | [] => name
  | [_] => name
  | _ :: before => before.reverse

/-- The path with another extension of its file name. A path without a file name stays as it is, and
so does one that has none once its extension is cut off behind the dot. -/
def withExtension (extension : Name) (p : Path) : Path :=
  match p.fileName? with
  | none => p
  | some name =>
    if stem name = [dot] ∧ p.segments.getLast? = some name then
      ofSegments (p.segments.dropLast ++ [[dot, dot]])
    else ofSegments (p.significant.dropLast ++ [stem name ++ [dot] ++ extension])

example : (ofString "./x/database").parent? = some (ofString "./x") ∧
    (ofString "a//b/").parent? = some (ofString "a") ∧
    (ofString "database").parent? = some (ofString "") ∧
    (ofString "/x").parent? = some (ofString "/") ∧
    (ofString "/.").parent? = none ∧ (ofString "").parent? = none := by decide +kernel

example : withExtension [0x74] (ofString "d/a.b.c/") = ofString "d/a.b.t" ∧
    withExtension [0x74] (ofString ".c") = ofString ".c.t" ∧
    withExtension [0x74] (ofString "c.") = ofString "c.t" ∧
    withExtension [0x74] (ofString "..") = ofString ".." ∧
    withExtension [0x74] (ofString "d/..x") = ofString "d/.." ∧
    withExtension [0x74] (ofString "d/..x/") = ofString "d/..t" := by decide +kernel

end Path

end GraphGateway.Files
