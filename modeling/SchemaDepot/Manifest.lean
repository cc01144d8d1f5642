/-
# Manifests

The manifest says which file holds the schema of each fixed database, which
template each dynamic scheme is rendered from and with which tokens, and which
databases are made from the template of textual columns. It names the sentinel.

A manifest is read from plain data. A part that is missing counts as empty, but
the sentinel must be there. A name that is no text is replaced by its text. The
path of a file is taken from the folder of the manifest and must lead to a place
strictly below it.

Key definitions: `Manifest`, `Manifest.ofData`, `Manifest.ofValue`, `Manifest.pathWithin`.
-/
import SchemaDepot.Listing
import SchemaDepot.Path
import SchemaDepot.Pool
import SchemaDepot.Text.Blank

namespace SchemaDepot

/-- A dynamic scheme: the file of its template and the tokens it declares. -/
structure TemplateEntry where
  name : String
  path : Path
  tokens : List String
deriving DecidableEq

/-- The columns of a database made from the template of textual columns. -/
structure ColumnSpec where
  columnType : String
  columnLength : Nat
deriving DecidableEq

/-- Which files and templates back which databases. -/
structure Manifest where
  sentinel : String
  fixed : Listing Path
  dynamic : Listing TemplateEntry
  textualTemplate : String
  textualDatabases : Listing ColumnSpec

namespace Manifest

/-- The name of the template of textual columns where none is given. -/
def defaultTextualTemplate : String := "textual_columns"

/-- The entries of a section; a missing one is empty. -/
def sectionEntries (pool : Pool) (section_ : String) (v : Value) :
    Except Error (List (Value × Value)) :=
  match pool.resolve v with
  | .null => .ok []
  | .map entries => .ok entries
  | _ => .error (.resource (.notMapping section_))

/-- The resolved path that a value names from a folder. It must lead strictly
below the folder. -/
def pathWithin (workingFolder : List String) (folder : Path) (owner : String) :
    Value → Except Error Path
  | .text raw =>
    if Text.isBlank raw then .error (.resource (.pathMissing owner))
    else do
      let root ← folder.resolve workingFolder
      let path ← (root.join (Path.ofText (Text.trim raw))).resolve workingFolder
      if path.isBelow root then .ok path
      else .error (.resource (.pathEscapes owner root.text raw))
  | _ => .error (.resource (.pathMissing owner))

/-- The text of a value that is one. -/
def textOf? : Value → Option String
  | .text s => some s
  | _ => none

/-- The tokens that a value lists, which must be distinct texts. -/
def tokensOf (pool : Pool) (owner : String) (v : Value) : Except Error (List String) :=
  match pool.resolve v with
  | .null => .ok []
  | .list items =>
    match items.mapM textOf? with
    | none => .error (.resource (.tokensNotTexts owner))
    | some tokens =>
      if tokens.Nodup then .ok tokens else .error (.resource (.tokensRepeated owner))
  | _ => .error (.resource (.tokensNotTexts owner))

/-- A fixed database: its identifier and the path of its schema. -/
def fixedEntry (workingFolder : List String) (folder : Path) (e : Value × Value) :
    Except Error (String × Path) := do
  let identifier ← e.1.shown
  let path ← pathWithin workingFolder folder identifier e.2
  .ok (identifier, path)

/-- A dynamic scheme: its name, the path of its template and its tokens. -/
def dynamicEntry (workingFolder : List String) (folder : Path) (pool : Pool) (e : Value × Value) :
    Except Error (String × TemplateEntry) := do
  let name ← e.1.shown
  let conf ← sectionEntries pool ("dynamic." ++ name) e.2
  let path ← pathWithin workingFolder folder name (Value.entry "path" conf)
  let tokens ← tokensOf pool name (Value.entry "tokens" conf)
  .ok (name, ⟨name, path, tokens⟩)

/-- The length that a value gives: an integer above zero. -/
def lengthOf? : Value → Option Nat
  | .int n => if 0 < n then some n.toNat else none
  | _ => none

/-- The trimmed column type that a value gives, unless it is blank. -/
def columnTypeOf? : Value → Option String
  | .text s => if Text.isBlank s then none else some (Text.trim s)
  | _ => none

/-- A textual database: its identifier and its columns. -/
def textualEntry (pool : Pool) (e : Value × Value) : Except Error (String × ColumnSpec) := do
  let identifier ← e.1.shown
  let conf ← sectionEntries pool ("textual_columns.databases." ++ identifier) e.2
  match columnTypeOf? (Value.entry "column_type" conf) with
  | none => .error (.resource (.columnTypeMissing identifier))
  | some columnType =>
    match lengthOf? (Value.entry "column_length" conf) with
    | none => .error (.resource (.columnLengthInvalid identifier))
    | some columnLength => .ok (identifier, ⟨columnType, columnLength⟩)

/-- The name of the template of textual columns that a value gives. -/
def textualTemplateOf (pool : Pool) (v : Value) : Except Error String :=
  if pool.isTruthy v then pool.shown v else .ok defaultTextualTemplate

/-- The sentinel that a value names, trimmed. -/
def sentinelOf : Value → Except Error String
  | .text s =>
    if Text.isBlank s then .error (.resource .sentinelMissing) else .ok (Text.trim s)
  | _ => .error (.resource .sentinelMissing)

/-- The manifest that data describes, with paths from a folder. -/
def ofData (workingFolder : List String) (folder : Path) (d : Data) : Except Error Manifest := do
  let root ← sectionEntries d.pool "<root>" d.root
  let sentinel ← sentinelOf (Value.entry "sentinel" root)
  let fixedData ← sectionEntries d.pool "fixed" (Value.entry "fixed" root)
  let fixed ← fixedData.mapM (fixedEntry workingFolder folder)
  let dynamicData ← sectionEntries d.pool "dynamic" (Value.entry "dynamic" root)
  let dynamic ← dynamicData.mapM (dynamicEntry workingFolder folder d.pool)
  let textual ← sectionEntries d.pool "textual_columns" (Value.entry "textual_columns" root)
  let template ← textualTemplateOf d.pool (Value.entry "template" textual)
  let databaseData ←
    sectionEntries d.pool "textual_columns.databases" (Value.entry "databases" textual)
  let databases ← databaseData.mapM (textualEntry d.pool)
  .ok ⟨sentinel, .ofList fixed, .ofList dynamic, template, .ofList databases⟩

/-- The manifest that a plain value describes, with paths from a folder. -/
def ofValue (workingFolder : List String) (folder : Path) (v : Value) : Except Error Manifest :=
  ofData workingFolder folder (.ofValue v)

end Manifest

end SchemaDepot
