/-
# Runs

An operation of the depot leaves log records behind, whether it succeeds or
fails. A run is its outcome together with the records in the order they were
emitted. After a failure nothing more is done and nothing more is logged.

Key definitions: `Run`, `Run.emit`, `Run.fail`, `Run.ofExcept`.
-/
import SchemaDepot.Error
import SchemaDepot.Log

namespace SchemaDepot

/-- What an operation logged and how it ended. -/
structure Run (α : Type) where
  records : List Log.Record
  outcome : Except Error α

namespace Run

/-- A run that yields a value and logs nothing. -/
protected def pure {α : Type} (a : α) : Run α := ⟨[], .ok a⟩

/-- One run after another; the second sees the value of the first. -/
protected def bind {α β : Type} (r : Run α) (f : α → Run β) : Run β :=
  match r.outcome with
  | .ok a => ⟨r.records ++ (f a).records, (f a).outcome⟩
  | .error e => ⟨r.records, .error e⟩

instance : Monad Run where
  pure := Run.pure
  bind := Run.bind

/-- A run that fails. -/
def fail {α : Type} (e : Error) : Run α := ⟨[], .error e⟩

/-- A run that logs nothing and ends as the computation does. -/
def ofExcept {α : Type} (x : Except Error α) : Run α := ⟨[], x⟩

/-- A run that logs one record. -/
def emit (r : Log.Record) : Run Unit := ⟨[r], .ok ()⟩

/-- A run that logs a message with fields. A level that is not above zero is never
shown. -/
def log (source : Log.Source) (level : Log.Level) (message : String) (fields : List Log.Field) :
    Run Unit :=
  if 0 < level.rank then emit ⟨level, source, Log.line message fields⟩ else ⟨[], .ok ()⟩

end Run

end SchemaDepot
