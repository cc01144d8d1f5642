/-
# Catalogues

A catalogue holds the complete schema of each fixed database under its
identifier. One of the identifiers is the sentinel: its database is provided
after all others, so where it exists everything was provided. Among the others
there is no order.

Key definitions: `Catalogue`, `Catalogue.make`, `Catalogue.lookup`,
`Catalogue.isIdentifier`.
-/
import SchemaDepot.Listing
import SchemaDepot.Text.Lines
import SchemaDepot.Value

namespace SchemaDepot

/-- Schemas by identifier. -/
structure Catalogue where
  schemas : Listing String
  sentinel : String

namespace Catalogue

/-- A character that identifiers are made of. -/
def isIdentifierChar (c : Char) : Bool :=
  ('a' ≤ c && c ≤ 'z') || ('0' ≤ c && c ≤ '9') || c = '_'

/-- One or more lower case letters, digits and underscores; a line feed may
follow. -/
def isIdentifier (s : String) : Bool :=
  let body := Text.withoutFinalBreak s.toList
  !body.isEmpty && body.all isIdentifierChar

/-- What is wrong with an identifier and its schema, if anything. -/
def entryFault? (identifier text : String) : Option CatalogueFault :=
  if !isIdentifier identifier then some (.invalidIdentifier (Text.quoted identifier))
  else if Text.isBlank text then some (.emptySchema identifier)
  else none

/-- The identifier and the schema that two values give. -/
def checkEntry (identifier text : Value) : Except Error (String × String) :=
  match identifier with
  | .text x =>
    let s := match text with
      | .text s => s
      | _ => ""
    match entryFault? x s with
    | some fault => .error (.catalogue fault)
    | none => .ok (x, s)
  | v => do
    let quoted ← v.literal
    .error (.catalogue (.invalidIdentifier quoted))

/-- The catalogue with a sentinel, which must be one of the identifiers. -/
def withSentinel (schemas : Listing String) (sentinel : Value) : Except Error Catalogue :=
  match sentinel with
  | .text x =>
    if schemas.has x then .ok ⟨schemas, x⟩ else .error (.catalogue (.sentinelAbsent x))
  | v =>
    if !v.isHashable then .error .wrongKind
    else do
      let shown ← v.shown
      .error (.catalogue (.sentinelAbsent shown))

/-- The catalogue of a mapping from identifiers to schemas. -/
def make (entries : List (Value × Value)) (sentinel : Value) : Except Error Catalogue := do
  let checked ← entries.mapM fun e => checkEntry e.1 e.2
  withSentinel (Listing.ofList checked) sentinel

/-- The catalogue of the schemas in a listing. -/
def ofListing (schemas : Listing String) (sentinel : String) : Except Error Catalogue :=
  match schemas.entries.findSome? fun e => entryFault? e.1 e.2 with
  | some fault => .error (.catalogue fault)
  | none => withSentinel schemas (.text sentinel)

/-- The number of entries. -/
def size (c : Catalogue) : Nat := c.schemas.size

/-- The identifiers. -/
def identifiers (c : Catalogue) : TextSet := c.schemas.keySet

/-- The schema of an identifier. -/
def schema (c : Catalogue) (identifier : String) : Except Error String :=
  match c.schemas.get? identifier with
  | some s => .ok s
  | none => .error (.unknownIdentifier identifier)

/-- The schema of the identifier that a value gives. Whatever is not held is
unknown. -/
def lookup (c : Catalogue) (identifier : Value) : Except Error String :=
  match identifier with
  | .text x => c.schema x
  | v => do
    let shown ← v.shown
    .error (.unknownIdentifier shown)

/-- The catalogue holds the identifier that a value gives. A set is compared by its
members, so it may be asked for although it is no key. -/
def contains (c : Catalogue) (identifier : Value) : Except Error Bool :=
  match identifier with
  | .text x => .ok (c.schemas.has x)
  | .set _ => .ok false
  | v => if v.isHashable then .ok false else .error .wrongKind

/-- A short description: the number of entries and the sentinel. -/
def summary (c : Catalogue) : String :=
  "SchemaCatalogue(entries=" ++ toString c.size ++ ", sentinel=" ++ Text.quoted c.sentinel ++ ")"

end Catalogue

end SchemaDepot
