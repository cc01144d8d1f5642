/-
# Events

An event is logged with a message and values, each under a name. The name of the
level is kept for the level: a value under it says how grave the event is, unless
that is said already. An event has one message and one source, so no value can
have their names.

Key definitions: `Event.levelOf`, `Event.fields`, `Event.log`.
-/
import SchemaDepot.Listing
import SchemaDepot.Run
import SchemaDepot.Value

namespace SchemaDepot.Event

/-- The name under which a value gives the level. -/
def levelName : String := "level"

/-- No value can have one of these names. -/
def reservedNames : List String := ["logger", "message"]

/-- The level that a value stands for. -/
def levelOf : Value → Except Error Log.Level
  | .int n => .ok ⟨n⟩
  | .bool b => .ok ⟨if b then 1 else 0⟩
  | _ => .error .wrongKind

/-- The values that are shown as fields, in order. -/
def fields (given : Listing Value) : Except Error (List Log.Field) :=
  (given.entries.filter fun e => e.1 ≠ levelName).mapM fun e => do
    let shown ← e.2.logField
    .ok (e.1, shown)

/-- A name is given that the event has already. -/
def isAmbiguous (level? : Option Log.Level) (given : Listing Value) : Bool :=
  reservedNames.any given.has || (level?.isSome && given.has levelName)

/-- The level of an event: the one that is said, else the one that is given, else
that of a plain piece of news. -/
def level (level? : Option Log.Level) (given : Listing Value) : Except Error Log.Level :=
  match level?, given.get? levelName with
  | some l, _ => .ok l
  | none, some v => levelOf v
  | none, none => .ok .info

/-- Logs an event. -/
def log (source : Log.Source) (level? : Option Log.Level) (message : String)
    (given : Listing Value) : Run Unit :=
  if isAmbiguous level? given then .fail .wrongKind
  else do
    let shown ← Run.ofExcept (fields given)
    let rank ← Run.ofExcept (level level? given)
    Run.log source rank message shown

end SchemaDepot.Event
