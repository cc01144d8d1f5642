/-
# Paths

A path names a file or a folder by its components, either from the working
folder or from the top of the file tree; a top written with exactly two slashes
is kept apart from the usual one. Components that are empty or a single dot are
dropped when a path is read; two dots stay.

Resolving a path makes it absolute and removes each pair of dots together with
the component before it, going by the text alone. A resolved path has the usual
top.

Key definitions: `Path`, `Path.ofText`, `Path.text`, `Path.join`, `Path.resolve`,
`Path.isBelow`.
-/
import SchemaDepot.Error
import SchemaDepot.Text.CodePoint
import SchemaDepot.Text.Occurs

namespace SchemaDepot

/-- Where a path starts. -/
inductive Anchor
  /-- At the working folder. -/
  | here
  /-- At the top. -/
  | top
  /-- At the top written with two slashes. -/
  | doubleTop
deriving DecidableEq

/-- The slashes of an anchor. -/
def Anchor.text : Anchor → String
  | .here => ""
  | .top => "/"
  | .doubleTop => "//"

/-- A place in a file tree. -/
structure Path where
  anchor : Anchor
  parts : List String
deriving DecidableEq

namespace Path

instance : Inhabited Path := ⟨⟨.here, []⟩⟩

/-- The component that leads to the folder above. -/
def up : String := ".."

/-- The anchor that a number of leading slashes stands for. -/
def anchorOf : (slashes : Nat) → Anchor
  | 0 => .here
  | 2 => .doubleTop
  | _ => .top

/-- The path a text names. -/
def ofText (s : String) : Path where
  anchor := anchorOf (s.toList.takeWhile (· = '/')).length
  parts := ((Text.splitAll '/' s.toList).map String.ofList).filter fun c => c ≠ "" ∧ c ≠ "."

/-- The text of a path; a path without components is a dot. -/
def text (p : Path) : String :=
  match p.anchor, p.parts with
  | .here, [] => "."
  | a, parts => a.text ++ "/".intercalate parts

/-- The second path as seen from the first: an absolute one replaces it. -/
def join (p q : Path) : Path :=
  match q.anchor with
  | .here => ⟨p.anchor, p.parts ++ q.parts⟩
  | _ => q

/-- One more component. -/
def child (p : Path) (name : String) : Path := ⟨p.anchor, p.parts ++ [name]⟩

/-- The folder a path is in. -/
def parent (p : Path) : Path := ⟨p.anchor, p.parts.dropLast⟩

/-- The components from the top, given those of the working folder. -/
def absoluteParts (workingFolder : List String) (p : Path) : List String :=
  match p.anchor with
  | .here => workingFolder ++ p.parts
  | _ => p.parts

/-- Follows components from a folder: two dots remove the last one, and remove
nothing at the top. -/
def follow (start : List String) (parts : List String) : List String :=
  parts.foldl (fun place c => if c = up then place.dropLast else place ++ [c]) start

/-- The components of the absolute path without two dots. -/
def settle (workingFolder : List String) (p : Path) : List String :=
  follow [] (p.absoluteParts workingFolder)

/-- What is wrong with a component, if it cannot be a file name. -/
def partFault? (c : String) : Option Error :=
  if c.toList.any Text.hasNoBytes then some .notEncodable
  else if c.toList.contains '\x00' then some (.value .nulInPath)
  else none

/-- The absolute path without two dots, unless a component cannot be a file name. -/
def resolve (workingFolder : List String) (p : Path) : Except Error Path :=
  match (p.absoluteParts workingFolder).findSome? partFault? with
  | some e => .error e
  | none => .ok ⟨.top, p.settle workingFolder⟩

/-- The first path leads to a place strictly below the second. -/
def isBelow (p folder : Path) : Bool :=
  p.anchor = folder.anchor && folder.parts.isPrefixOf p.parts && folder.parts ≠ p.parts

/-- The path with a leading tilde replaced by the home folder. The home folders of
other users are not known, so no path that begins with the name of one is replaced. -/
def expandHome (p home : Path) : Except Error Path :=
  match p.anchor, p.parts with
  | .here, first :: rest =>
    if first = "~" then .ok ⟨home.anchor, home.parts ++ rest⟩
    else if first.toList.head? = some '~' then .error .homeUnknown
    else .ok p
  | _, _ => .ok p

end Path

end SchemaDepot
