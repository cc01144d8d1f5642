/-
# The program

`validate` checks the resource folder; every other command line prints schemas.
The program looks at its surroundings once: it reads the manifest and the files
the manifest names. What it does with them is decided elsewhere.

Key definitions: `Program.surroundings`, `Program.run`.
-/
import SchemaDepot.Bundle
import SchemaDepot.Session

namespace SchemaDepot.Program

/-- The names of the variables that matter. -/
def variableNames : List String := [Settings.resourceVariable, Settings.strictVariable]

/-- The surroundings with a file that was found, and with every folder on the way
to it. -/
def withFile (h : Host) (p : Path) (bytes : ByteArray) : Host :=
  let parts := p.absoluteParts h.workingFolder
  let way := (List.range parts.length).map fun n => Path.follow [] (parts.take n)
  { h with tree := (way.foldl Tree.makeFolder h.tree).write (h.place p) bytes }

/-- Reads a file, if it is there. -/
def readInto (h : Host) (p : Path) : IO Host := do
  try
    let bytes ← IO.FS.readBinFile p.text
    return withFile h p bytes
  catch _ => return h

/-- Reads the manifest that the settings name and the files that it names. -/
def readResources (h : Host) : IO Host := do
  match Settings.resolve h with
  | .error _ => return h
  | .ok settings =>
    if settings.resourceFolder = h.bundled then return h
    let h ← readInto h settings.manifestPath
    match Manifest.read h settings.manifestPath with
    | .error _ => return h
    | .ok m => (m.fixed.values ++ m.dynamic.values.map (·.path)).foldlM readInto h

/-- The surroundings of the program. -/
def surroundings : IO Host := do
  let workingFolder := (Path.ofText (← IO.currentDir).toString).parts
  let bundled := (Path.ofText (← IO.appPath).toString).parent.child "resources"
  let home := (← IO.getEnv "HOME").getD "/"
  let environment ← variableNames.filterMapM fun name => do
    return (← IO.getEnv name).map fun value => (name, value)
  readResources
    { tree := Bundle.install (Tree.empty.makeFolder workingFolder) bundled.parts
      workingFolder, home := .ofText home, bundled, environment }

/-- Prints a report, or the error that takes its place. -/
def deliver : Except Error Report → IO UInt32
  | .ok r => do
    IO.eprint r.log
    IO.print r.output
    return r.code.toUInt32
  | .error e => do
    IO.eprintln e.message
    return 1

/-- Tells how the program is used. -/
def explain (r : CommandLine.Refusal) : IO UInt32 := do
  if r = .helped then IO.println CommandLine.usage else IO.eprintln CommandLine.usage
  return r.code.toUInt32

/-- Carries out a command line. -/
def run (arguments : List String) : IO UInt32 := do
  if arguments = ["validate"] then
    deliver (Validation.report (← surroundings))
  else match CommandLine.Options.read arguments with
    | .error refusal => explain refusal
    | .ok o => deliver (CommandLine.run o (Registry.buildDefault (← surroundings)))

end SchemaDepot.Program

/-- The entry of the program. -/
def main (arguments : List String) : IO UInt32 := SchemaDepot.Program.run arguments
