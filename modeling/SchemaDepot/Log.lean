/-
# Log lines

A log line is a message followed by fields, each written `name=text`, with one
space between. A field without a value is left out, and so is one whose text is
empty. The text of a single value is trimmed; the members of a collection are
sorted by code point and separated by commas, so a line does not depend on the
order the members came in.

Key definitions: `Log.FieldValue`, `Log.line`, `Log.Level`, `Log.Record`.
-/
import SchemaDepot.Text.Blank
import SchemaDepot.TextSet

namespace SchemaDepot.Log

/-- What a field of a log line holds, each value by its text. -/
inductive FieldValue
  /-- No value. -/
  | absent
  /-- One value. -/
  | single (text : String)
  /-- The members of a collection, in any order, repetitions included. -/
  | many (texts : List String)
deriving DecidableEq

/-- A named value. -/
abbrev Field := String × FieldValue

/-- Texts in order, repetitions kept. -/
def sortTexts (texts : List String) : List String := texts.mergeSort Text.inOrder

/-- The text a value contributes to its line; the empty text contributes nothing. -/
def FieldValue.text : FieldValue → String
  | .absent => ""
  | .single text => Text.trim text
  | .many texts => ",".intercalate (sortTexts texts)

/-- What a field contributes to its line, if anything. -/
def fieldText? (field : Field) : Option String :=
  if field.2.text.isEmpty then none else some (field.1 ++ "=" ++ field.2.text)

/-- The fields of a line, one space between two. -/
def fieldsText (fields : List Field) : String := " ".intercalate (fields.filterMap fieldText?)

/-- A message and its fields. -/
def line (message : String) (fields : List Field) : String :=
  if (fieldsText fields).isEmpty then message else message ++ " " ++ fieldsText fields

/-- How much a record matters: the number is higher for graver ones. -/
structure Level where
  rank : Int
deriving DecidableEq

namespace Level

def debug : Level := ⟨10⟩
def info : Level := ⟨20⟩
def warning : Level := ⟨30⟩
def error : Level := ⟨40⟩

/-- The name of a level in a printed record. -/
def name (l : Level) : String :=
  if l = debug then "DEBUG" else if l = info then "INFO"
  else if l = warning then "WARNING" else if l = error then "ERROR"
  else "Level " ++ toString l.rank

end Level

/-- The part of the program a record comes from. -/
inductive Source
  | resources
  | registry
  | templates
  | planning
  | rendering
  | other (name : String)
deriving DecidableEq

/-- The name of a source in a printed record. -/
def Source.name : Source → String
  | .resources => "testdbs.resources"
  | .registry => "testdbs.registry"
  | .templates => "testdbs.templates"
  | .planning => "testdbs.planning"
  | .rendering => "scripts.render_testdb"
  | .other name => name

/-- One line that was logged. -/
structure Record where
  level : Level
  source : Source
  text : String
deriving DecidableEq

/-- A record as a terminal shows it: level, source and text, with colons between. -/
def Record.printed (r : Record) : String :=
  r.level.name ++ ":" ++ r.source.name ++ ":" ++ r.text ++ "\n"

/-- The field that shows a text. -/
def ofText (name text : String) : Field := (name, .single text)

/-- The field that shows a count. -/
def ofNat (name : String) (n : Nat) : Field := (name, .single (toString n))

/-- The field that shows a truth value. -/
def ofBool (name : String) (b : Bool) : Field := (name, .single (if b then "True" else "False"))

end SchemaDepot.Log
