/-
# Sessions

In a session one registry is shared by everything that does not name its own. It
is built from the surroundings of the moment when it is first needed, and kept
once it could be built; a failure is not kept. Later changes of the surroundings
do not change it. Whoever wants it built again has to clear it first.

Not covered: what one step leaves behind for the log of a later one. Each command line
and each validation sets the level of its records as the first of a process does, though
in one process only the first would.

Key definitions: `Session`, `Session.registry`, `Session.Step`, `Session.step`.
-/
import SchemaDepot.CommandLine
import SchemaDepot.Request
import SchemaDepot.Validation

namespace SchemaDepot

/-- The surroundings, and the registry that is shared. -/
structure Session where
  host : Host
  /-- The shared registry, with the number of its building. -/
  held? : Option (Nat × Registry)
  /-- How many registries were built to be shared. -/
  builds : Nat
  /-- The number of the registry that was last looked at. -/
  seen? : Option Nat

namespace Session

/-- Nothing is shared yet. -/
def start (h : Host) : Session := ⟨h, none, 0, none⟩

/-- The shared registry, built now if there is none. -/
def registry (s : Session) : Run Registry × Session :=
  match s.held? with
  | some (_, r) => (pure r, s)
  | none =>
    let run := Registry.buildDefault s.host
    match run.outcome with
    | .ok r => (run, { s with held? := some (s.builds, r), builds := s.builds + 1 })
    | .error _ => (run, s)

/-- Something that is done in a session. -/
inductive Step
  /-- Sets a variable, or unsets it if there is no value. -/
  | setVariable (name : String) (value? : Option String)
  | write (path : Path) (bytes : ByteArray)
  | makeFolder (path : Path)
  | remove (path : Path)
  /-- Forgets the shared registry. -/
  | clear
  /-- Looks whether the shared registry is the one that was last looked at. -/
  | same
  /-- Builds a registry that is not shared. -/
  | build
  | settings
  /-- Carries out a command line on the shared registry. -/
  | command (arguments : List String)
  | validate
  /-- Asks the shared registry. -/
  | ask (request : Request)

/-- What a step ends in, unless it fails. -/
inductive Result
  | done
  /-- No registry was looked at before. -/
  | first
  | same (yes : Bool)
  | settings (s : Settings)
  | report (r : Report)
  /-- A command line is not carried out. -/
  | refused (r : CommandLine.Refusal)
  | answer (a : Answer)

/-- The same with other surroundings. -/
def change (s : Session) (f : Host → Host) : Session := { s with host := f s.host }

/-- The same with another file tree. -/
def changeTree (s : Session) (f : Tree → Tree) : Session :=
  s.change fun h => { h with tree := f h.tree }

/-- What looking at a registry again shows. -/
def sameness (seen? : Option Nat) (number : Nat) : Result :=
  match seen? with
  | none => .first
  | some n => .same (n = number)

/-- Looks at the shared registry. -/
def look (s : Session) : Run Result × Session :=
  let (run, s) := s.registry
  match run.outcome, s.held? with
  | .ok _, some (n, _) =>
    (⟨run.records, .ok (sameness s.seen? n)⟩, { s with seen? := some n })
  | .ok _, none => (⟨run.records, .ok .done⟩, s)
  | .error e, _ => (⟨run.records, .error e⟩, s)

/-- Asks the shared registry, after the checks that need none. -/
def ask (s : Session) (request : Request) : Run Result × Session :=
  match request.check with
  | .error e => (.fail e, s)
  | .ok _ =>
    let (run, s) := s.registry
    (do
      let r ← run
      let a ← request.answer r
      pure (.answer a), s)

/-- Carries out a command line on the shared registry. -/
def command (s : Session) (arguments : List String) : Run Result × Session :=
  match CommandLine.Options.read arguments with
  | .error refusal => (pure (.refused refusal), s)
  | .ok o =>
    let (run, s) := s.registry
    (.ofExcept ((CommandLine.run o run).map .report), s)

/-- Does one step. -/
def step (s : Session) : Step → Run Result × Session
  | .setVariable name value? => (pure .done, s.change fun h => h.setVariable name value?)
  | .write path bytes => (pure .done, s.changeTree fun t => t.write (s.host.place path) bytes)
  | .makeFolder path => (pure .done, s.changeTree fun t => t.makeFolder (s.host.place path))
  | .remove path => (pure .done, s.changeTree fun t => t.remove (s.host.place path))
  | .clear => (pure .done, { s with held? := none })
  | .same => s.look
  | .build =>
    (do
      let r ← Registry.buildDefault s.host
      pure (.answer (.registry r)), s)
  | .settings => (.ofExcept ((Settings.resolve s.host).map .settings), s)
  | .command arguments => s.command arguments
  | .validate => (.ofExcept ((Validation.report s.host).map .report), s)
  | .ask request => s.ask request

/-- Does steps one after the other. -/
def run (s : Session) : List Step → List (Run Result) × Session
  | [] => ([], s)
  | step :: steps =>
    let (r, s) := s.step step
    let (rs, s) := s.run steps
    (r :: rs, s)

end Session

end SchemaDepot
