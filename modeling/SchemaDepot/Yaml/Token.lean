/-
# Tokens

A document is a sequence of tokens: scalars and their properties, and the marks
of structure. Where indentation opens or closes a collection, a token says so.

Reading a document fails with a `Fault`: it is malformed, it repeats a key, or a
scalar has no value.

Key definitions: `Yaml.Fault`, `Yaml.Directive`, `Yaml.Token`.
-/
import SchemaDepot.Error

namespace SchemaDepot.Yaml

/-- Why a document cannot be read. -/
inductive Fault
  | malformed
  /-- A mapping has a key twice. -/
  | repeatedKey (key : String)
  /-- A scalar or a key is not what it must be. -/
  | unsuitable (e : Error)
deriving DecidableEq

/-- An instruction before a document. -/
inductive Directive
  /-- The version that the document is written in, by its first number. -/
  | version (major : Nat)
  /-- What the handle of a tag stands for. -/
  | handle (name meaning : String)
  /-- Any other, without effect. -/
  | other
deriving DecidableEq

/-- A part of a document. -/
inductive Token
  | directive (d : Directive)
  | documentStart
  | documentEnd
  | blockSequenceStart
  | blockMappingStart
  /-- The end of a collection that is marked by indentation. -/
  | blockEnd
  | flowSequenceStart
  | flowSequenceEnd
  | flowMappingStart
  | flowMappingEnd
  | flowEntry
  | blockEntry
  | key
  | value
  | alias (name : String)
  | anchor (name : String)
  /-- A tag; without a handle the suffix is the whole of it. -/
  | tag (handle? : Option String) (suffix : String)
  /-- A scalar, plain or quoted. -/
  | scalar (text : String) (plain : Bool)
  | streamEnd
deriving DecidableEq

end SchemaDepot.Yaml
