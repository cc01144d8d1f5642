/-
# Loading manifests

A manifest is a file whose document is plain data. The paths in it are taken from
the folder it is in.

Key definition: `Manifest.load`.
-/
import SchemaDepot.Host
import SchemaDepot.Manifest
import SchemaDepot.Run
import SchemaDepot.Yaml.Document

namespace SchemaDepot.Manifest

/-- The failure to read the document of a manifest. -/
def documentError (path : Path) : Yaml.Fault → Error
  | .malformed => .resource (.manifestMalformed path.text)
  | .repeatedKey key => .resource (.manifestKeyRepeated path.text key)
  | .unsuitable e => e

/-- The manifest in a file. -/
def read (h : Host) (path : Path) : Except Error Manifest := do
  let text ← h.read path (.resource (.manifestAbsent path.text))
  match Yaml.read text with
  | .error fault => .error (documentError path fault)
  | .ok data => ofData h.workingFolder path.parent data

/-- A manifest was loaded. -/
def record (path : Path) (m : Manifest) : Log.Record :=
  ⟨.info, .resources, Log.line "testdbs.manifest_loaded"
    [Log.ofText "path" path.text, Log.ofNat "fixed" m.fixed.size,
      Log.ofNat "dynamic" m.dynamic.size, Log.ofNat "textual" m.textualDatabases.size,
      Log.ofText "sentinel" m.sentinel]⟩

/-- Loads the manifest in a file. -/
def load (h : Host) (path : Path) : Run Manifest := do
  let m ← Run.ofExcept (read h path)
  Run.emit (record path m)
  pure m

end SchemaDepot.Manifest
