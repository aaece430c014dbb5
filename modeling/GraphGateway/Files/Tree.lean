/-
A tree of files and directories, and the operations on it.

Every entry stands at a location, the names on the way from the root; the root itself is always
there. Paths are followed as a file system follows them: each segment but the last must name a
directory, two dots lead back, and a slash at the end asks for a directory. An operation that fails
part-way keeps what it has done.
-/
import GraphGateway.Files.Path

namespace GraphGateway.Files

/-- The names on the way from the root. -/
abbrev Location := List Name

inductive Node where
  | directory
  | file (content : List UInt8)
deriving DecidableEq, Repr

/-- Why an operation on files fails. -/
inductive IoError where
  | notFound
  | alreadyExists
  | notDirectory
  | isDirectory
  | busy
  | nameTooLong
  /-- A zero byte stands in the path. -/
  | zeroByte
  | notText
deriving DecidableEq, Repr

def IoError.message : IoError → String
  | .notFound => "No such file or directory (os error 2)"
  | .busy => "Device or resource busy (os error 16)"
  | .alreadyExists => "File exists (os error 17)"
  | .notDirectory => "Not a directory (os error 20)"
  | .isDirectory => "Is a directory (os error 21)"
  | .nameTooLong => "File name too long (os error 36)"
  | .zeroByte => "file name contained an unexpected NUL byte"
  | .notText => "stream did not contain valid UTF-8"

/-- Files and directories, with the directory that relative paths start from. -/
structure Tree where
  here : Location
  nodes : List (Location × Node)
deriving DecidableEq, Repr

namespace Tree

/-- What stands at a location. -/
def node? (t : Tree) (l : Location) : Option Node :=
  if l = [] then some .directory else t.nodes.lookup l

def isDirectoryAt (t : Tree) (l : Location) : Bool := t.node? l == some .directory

/-- Puts a node at a location, in place of the one there. -/
def put (t : Tree) (l : Location) (n : Node) : Tree :=
  { t with nodes := t.nodes.filter (·.1 != l) ++ [(l, n)] }

/-- Takes away the node at a location. -/
def remove (t : Tree) (l : Location) : Tree := { t with nodes := t.nodes.filter (·.1 != l) }

/-! ## Following paths -/

/-- How many bytes a name may have. -/
def maxNameLength : Nat := 255

/-- How many bytes a path may have. -/
def maxPathLength : Nat := 4095

/-- Why a path is not followed at all, if it is not. -/
def refusal? (p : Path) : Option IoError :=
  if p.isEmpty then some .notFound
  else if p.bytes.contains 0 then some .zeroByte
  else if maxPathLength < p.bytes.length then some .nameTooLong
  else none

/-- Follows segments from a location. -/
def walk (t : Tree) : Location → List Name → Except IoError Location
  | l, [] => .ok l
  | l, segment :: segments =>
    if t.isDirectoryAt l then
      if Path.isIdle segment then walk t l segments
      else if segment = [dot, dot] then walk t l.dropLast segments
      else if maxNameLength < segment.length then .error .nameTooLong
      else if (t.node? (l ++ [segment])).isSome then walk t (l ++ [segment]) segments
      else .error .notFound
    else .error .notDirectory

/-- Where a path starts. -/
def start (t : Tree) (p : Path) : Location := if p.isAbsolute then [] else t.here

/-- The location of what a path leads to. -/
def locate (t : Tree) (p : Path) : Except IoError Location :=
  match refusal? p with
  | some e => .error e
  | none => t.walk (t.start p) p.segments

def isDirectory (t : Tree) (p : Path) : Bool :=
  match t.locate p with
  | .ok l => t.isDirectoryAt l
  | .error _ => false

/-- Where an entry of a path's last name stands or would stand. -/
inductive Place where
  /-- An entry of a directory; `slashed` if a slash follows its name. -/
  | entry (directory : Location) (name : Name) (slashed : Bool)
  /-- The last segment is a dot or two, or there is none: a directory that is there. -/
  | directory
deriving DecidableEq, Repr

/-- Follows a path up to its last segment. -/
def place (t : Tree) (p : Path) : Except IoError Place :=
  match refusal? p with
  | some e => .error e
  | none =>
    let backwards := p.segments.reverse
    let slashes := backwards.takeWhile (· == [])
    match backwards.drop slashes.length with
    | [] => .ok .directory
    | name :: before =>
      match t.walk (t.start p) before.reverse with
      | .error e => .error e
      | .ok l =>
        if !t.isDirectoryAt l then .error .notDirectory
        else if name = [dot] ∨ name = [dot, dot] then .ok .directory
        else if maxNameLength < name.length then .error .nameTooLong
        else .ok (.entry l name (slashes != []))

/-! ## Operations -/

/-- The content of a file. -/
def readBytes (t : Tree) (p : Path) : Except IoError (List UInt8) :=
  match t.locate p with
  | .error e => .error e
  | .ok l =>
    match t.node? l with
    | some (.file content) => .ok content
    | some .directory => .error .isDirectory
    | none => .error .notFound

/-- The content of a file that is text. -/
def readText (t : Tree) (p : Path) : Except IoError String :=
  match t.readBytes p with
  | .error e => .error e
  | .ok bytes =>
    match Text.Utf8.decode bytes with
    | .ok s => .ok s
    | .error _ => .error .notText

/-- Makes one directory. -/
def createDirectory (t : Tree) (p : Path) : Except IoError Tree :=
  match t.place p with
  | .error e => .error e
  | .ok .directory => .error .alreadyExists
  | .ok (.entry l name _) =>
    if (t.node? (l ++ [name])).isSome then .error .alreadyExists
    else .ok (t.put (l ++ [name]) .directory)

/-- Makes a directory and those on the way to it that are missing; those made before a failure stay.
A parent has fewer bytes than its path, so as much fuel as the path has bytes is enough. -/
def createDirectoriesFrom : Nat → Tree → Path → Except IoError Unit × Tree
  | 0, t, _ => (.error .notFound, t)
  | fuel + 1, t, p =>
    if p.isEmpty then (.ok (), t)
    else
      match t.createDirectory p with
      | .ok t => (.ok (), t)
      | .error .notFound =>
        match p.parent? with
        | none => (.error .notFound, t)
        | some parent =>
          match createDirectoriesFrom fuel t parent with
          | (.error e, t) => (.error e, t)
          | (.ok (), t) =>
            match t.createDirectory p with
            | .ok t => (.ok (), t)
            | .error e => (if t.isDirectory p then .ok () else .error e, t)
      | .error e => (if t.isDirectory p then .ok () else .error e, t)

/-- Makes a directory and those on the way to it that are missing. -/
def createDirectories (t : Tree) (p : Path) : Except IoError Unit × Tree :=
  createDirectoriesFrom (p.bytes.length + 1) t p

/-- Writes a file, which is made if it is missing. -/
def writeBytes (t : Tree) (p : Path) (content : List UInt8) : Except IoError Tree :=
  match t.place p with
  | .error e => .error e
  | .ok .directory => .error .isDirectory
  | .ok (.entry l name slashed) =>
    if slashed || t.isDirectoryAt (l ++ [name]) then .error .isDirectory
    else .ok (t.put (l ++ [name]) (.file content))

/-- Moves a file over what stands at another path, unless that is a directory. -/
def renameFile (t : Tree) (source target : Path) : Except IoError Tree :=
  match t.locate source with
  | .error e => .error e
  | .ok origin =>
    match t.node? origin, t.place target with
    | some (.file content), .ok (.entry l name slashed) =>
      if slashed then .error .notDirectory
      else if t.isDirectoryAt (l ++ [name]) then .error .isDirectory
      else if origin = l ++ [name] then .ok t
      else .ok ((t.remove origin).put (l ++ [name]) (.file content))
    | some (.file _), .ok .directory => .error .busy
    | some (.file _), .error e => .error e
    | some .directory, _ => .error .isDirectory
    | none, _ => .error .notFound

/-! ## Listing -/

/-- Whether a location is strictly below another, and by which names. -/
def below? : Location → Location → Option (List Name)
  | [], [] => none
  | [], names => some names
  | _ :: _, [] => none
  | a :: as, b :: bs => if a = b then below? as bs else none

/-- The order of byte sequences. -/
def bytesLe : List UInt8 → List UInt8 → Bool
  | [], _ => true
  | _ :: _, [] => false
  | a :: as, b :: bs => a < b || (a == b && bytesLe as bs)

/-- Everything below the starting directory, in byte order, directories with a slash at the end. -/
def listing (t : Tree) : List Path :=
  let shown := t.nodes.filterMap fun (l, n) =>
    (below? t.here l).map fun names =>
      [slash].intercalate names ++ (if n = .directory then [slash] else [])
  (shown.mergeSort bytesLe).map Path.mk

end Tree

end GraphGateway.Files
