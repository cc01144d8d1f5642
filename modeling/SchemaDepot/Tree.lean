/-
# File trees

A tree has files with their bytes and folders, each at a place: the list of
names that leads to it from the top. A path is followed name by name, and every
name but the last must lead to a folder; so two dots after a missing folder or a
file lead nowhere. A name of more than 255 bytes or a path of 4096 bytes or more
is refused when it is looked up.

Key definitions: `Tree`, `Tree.find`, `Tree.write`, `Tree.remove`.
-/
import SchemaDepot.Path

namespace SchemaDepot

/-- Files and folders. -/
structure Tree where
  files : List (List String × ByteArray)
  folders : List (List String)

namespace Tree

/-- Neither files nor folders. -/
def empty : Tree := ⟨[], []⟩

instance : Inhabited Tree := ⟨empty⟩

/-- There is a folder at the place; the top always is one. -/
def isFolder (t : Tree) (place : List String) : Bool := place.isEmpty || t.folders.contains place

/-- The bytes of the file at a place. -/
def fileAt? (t : Tree) (place : List String) : Option ByteArray := t.files.lookup place

/-- The most bytes of a name. -/
def nameLimit : Nat := 255

/-- The bytes at which a path is too long. -/
def pathLimit : Nat := 4096

/-- Where names lead from a place, if every name on the way leads to a folder. -/
def walk (t : Tree) : (place names : List String) → Except Error (Option (List String))
  | place, [] => .ok (some place)
  | place, name :: names =>
    if !t.isFolder place then .ok none
    else if Text.fileSize name > nameLimit then .error .nameTooLong
    else walk t (if name = Path.up then place.dropLast else place ++ [name]) names

/-- The bytes of the file a path leads to, if it leads to one. A path with a
component that cannot be a file name leads nowhere. -/
def find (t : Tree) (workingFolder : List String) (p : Path) : Except Error (Option ByteArray) :=
  if p.parts.any fun c => (Path.partFault? c).isSome then .ok none
  else if Text.fileSize p.text ≥ pathLimit then .error .nameTooLong
  else do
    let start := match p.anchor with
      | .here => workingFolder
      | _ => []
    let place? ← t.walk start p.parts
    .ok (place?.bind t.fileAt?)

/-- A place and all places above it but the top. -/
def lineage (place : List String) : List (List String) :=
  (List.range place.length).map fun n => place.take (n + 1)

/-- The tree with a folder, and all folders above it. -/
def makeFolder (t : Tree) (place : List String) : Tree :=
  { t with folders := (lineage place).filter (fun f => !t.folders.contains f) ++ t.folders }

/-- The tree with a file at a place, in the stead of one that was there, and all
folders above it. -/
def write (t : Tree) (place : List String) (bytes : ByteArray) : Tree :=
  let t := t.makeFolder place.dropLast
  { t with files := (place, bytes) :: t.files.filter fun f => f.1 ≠ place }

/-- The tree without the file at a place. -/
def remove (t : Tree) (place : List String) : Tree :=
  { t with files := t.files.filter fun f => f.1 ≠ place }

end Tree

end SchemaDepot
