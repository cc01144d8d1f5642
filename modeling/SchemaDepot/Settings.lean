/-
# Settings

Two variables settle where the schemas are read from and whether a substitution
for an undeclared token is refused. Without the first the folder that comes with
the depot is used; without the second, or with a blank one, it is refused.

Key definitions: `Settings`, `Settings.resolve`, `Settings.readFlag`.
-/
import SchemaDepot.Host

namespace SchemaDepot

/-- Where to read from and how strictly to render. -/
structure Settings where
  resourceFolder : Path
  strict : Bool
deriving DecidableEq

namespace Settings

/-- The variable that names the resource folder. -/
def resourceVariable : String := "TESTDBS_RESOURCE_DIR"

/-- The variable that says whether undeclared substitutions are refused. -/
def strictVariable : String := "TESTDBS_STRICT_SUBSTITUTIONS"

/-- The name of the manifest in its folder. -/
def manifestName : String := "testdbs.yaml"

/-- The manifest of the resource folder. -/
def manifestPath (s : Settings) : Path := s.resourceFolder.child manifestName

/-- The words that say yes. -/
def yesWords : List String := ["1", "true", "yes", "on"]

/-- The words that say no. -/
def noWords : List String := ["0", "false", "no", "off"]

/-- The letters of the ASCII alphabet in lower case. -/
def lowerCase (s : String) : String := s.map Char.toLower

/-- The truth value that a word stands for, in any case and with any blanks
around it; no word, or a blank one, stands for the default. -/
def readFlag (raw? : Option String) (default : Bool) (name : String) : Except Error Bool :=
  match raw? with
  | none => .ok default
  | some raw =>
    let word := lowerCase (Text.trim raw)
    if Text.isBlank raw then .ok default
    else if yesWords.contains word then .ok true
    else if noWords.contains word then .ok false
    else .error (.value (.notFlag name raw))

/-- The settings that the environment asks for. -/
def resolve (h : Host) : Except Error Settings := do
  let folder ← match h.setting? resourceVariable with
    | none => .ok h.bundled
    | some raw => if raw.isEmpty then .ok h.bundled else (Path.ofText raw).expandHome h.home
  let strict ← readFlag (h.setting? strictVariable) true strictVariable
  .ok ⟨folder, strict⟩

end Settings

end SchemaDepot
