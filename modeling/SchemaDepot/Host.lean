/-
# Surroundings of the depot

What the depot reads from outside: the file tree, the working folder and the
home folder, the environment, and the folder that holds the schemas that come
with it.

Not covered: users other than the one at work, whose home folders are not known, and a
home folder that is told by a variable. `Host.home` is given, and remains the same when
a variable is set.

Key definitions: `Host`, `Host.setting?`, `Host.read`.
-/
import SchemaDepot.Tree
import SchemaDepot.Text.Lines
import SchemaDepot.Text.Blank

namespace SchemaDepot

/-- What the depot runs in. -/
structure Host where
  tree : Tree
  /-- The names that lead from the top to the working folder. -/
  workingFolder : List String
  home : Path
  /-- The folder of the schemas that come with the depot. -/
  bundled : Path
  /-- Variables and their values; of two for one name the first counts. -/
  environment : List (String × String)

namespace Host

instance : Inhabited Host := ⟨⟨.empty, [], ⟨.top, []⟩, ⟨.top, []⟩, []⟩⟩

/-- The value of a variable, if it is set. -/
def setting? (h : Host) (name : String) : Option String := h.environment.lookup name

/-- The surroundings with a variable set, or unset if there is no value. -/
def setVariable (h : Host) (name : String) (value? : Option String) : Host :=
  let others := h.environment.filter fun e => e.1 ≠ name
  { h with environment := match value? with
      | some value => (name, value) :: others
      | none => others }

/-- The place a path leads to, by its text alone. -/
def place (h : Host) (p : Path) : List String := p.settle h.workingFolder

/-- The text of the file at a path; `absent` is the failure if there is none. -/
def read (h : Host) (p : Path) (absent : Error) : Except Error String := do
  match ← h.tree.find h.workingFolder p with
  | none => .error absent
  | some bytes =>
    match Text.decode bytes with
    | none => .error .notUtf8
    | some s => .ok s

/-- The text of a schema file, which must not be blank. -/
def readSchema (h : Host) (p : Path) : Except Error String := do
  let s ← h.read p (.resource (.schemaFileAbsent p.text))
  if Text.isBlank s then .error (.resource (.schemaFileEmpty p.text)) else .ok s

end Host

end SchemaDepot
