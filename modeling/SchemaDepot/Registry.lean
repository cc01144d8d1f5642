/-
# Registries

A registry is everything that is served: the catalogue of fixed schemas, the
templates, and the databases made from the template of textual columns. It is
built once from a manifest and the files it names. After that nothing is read
again.

Building checks what later operations rely on: where there are textual databases,
their template is there and declares exactly the three tokens they have values
for, and none of them is a fixed database too. Everything that can be wrong is found
then; nothing is logged but the manifest and the success.

Key definitions: `Registry`, `Registry.ofManifest`, `Registry.build`,
`Registry.buildDefault`.
-/
import SchemaDepot.Catalogue
import SchemaDepot.Manifest.Load
import SchemaDepot.Settings
import SchemaDepot.TemplateSet

namespace SchemaDepot

/-- Everything that is served. -/
structure Registry where
  catalogue : Catalogue
  templates : TemplateSet
  textualDatabases : Listing ColumnSpec
  textualTemplate : String
  settings : Settings

namespace Registry

/-- The token that stands for the name of a textual database. -/
def databaseToken : String := "DATABASE_NAME"

/-- The token that stands for the type of the columns. -/
def columnTypeToken : String := "COLUMN_TYPE"

/-- The token that stands for the length of the columns. -/
def columnLengthToken : String := "COLUMN_LENGTH"

/-- The tokens of the template of textual columns. -/
def textualTokens : TextSet := TextSet.ofList [databaseToken, columnTypeToken, columnLengthToken]

/-- The template of a dynamic scheme, with the text of its file. -/
def loadTemplate (h : Host) (e : TemplateEntry) : Except Error Template := do
  let text ← h.readSchema e.path
  Template.make e.name text (TextSet.ofList e.tokens)

/-- The databases that are both fixed and textual. -/
def clashes (catalogue : Catalogue) (databases : Listing ColumnSpec) : TextSet :=
  catalogue.identifiers.intersection databases.keySet

/-- Checks that the textual databases fit the catalogue and the templates. -/
def checkTextual (catalogue : Catalogue) (templates : TemplateSet) (m : Manifest) :
    Except Error Unit :=
  if m.textualDatabases.size = 0 then .ok ()
  else match templates.templates.get? m.textualTemplate with
    | none => .error (.templates (.textualAbsent m.textualTemplate))
    | some t =>
      if !(clashes catalogue m.textualDatabases).isEmpty then
        .error (.catalogue (.clash (clashes catalogue m.textualDatabases)))
      else if t.tokens ≠ textualTokens then
        .error (.templates (.textualTokens m.textualTemplate textualTokens))
      else .ok ()

/-- The registry of a manifest and the files it names. -/
def ofManifest (h : Host) (settings : Settings) (m : Manifest) : Except Error Registry := do
  let schemas ← m.fixed.traverse h.readSchema
  let catalogue ← Catalogue.ofListing schemas m.sentinel
  let templates ← TemplateSet.gather (loadTemplate h) settings.strict m.dynamic.values
  checkTextual catalogue templates m
  .ok ⟨catalogue, templates, m.textualDatabases, m.textualTemplate, settings⟩

/-- Renders the template of a name. -/
def render (r : Registry) (name : String) (given : Template.Substitutions) : Run String :=
  r.templates.render name given

/-- The fixed and the textual databases. -/
def provisionable (r : Registry) : TextSet :=
  r.catalogue.identifiers.union r.textualDatabases.keySet

/-! ### Building -/

/-- A registry was built. -/
def record (r : Registry) : Log.Record :=
  ⟨.info, .registry, Log.line "testdbs.registry_built"
    [Log.ofText "resource_dir" r.settings.resourceFolder.text,
      Log.ofNat "schemas" r.catalogue.size, Log.ofNat "templates" r.templates.size,
      Log.ofText "sentinel" r.catalogue.sentinel,
      Log.ofBool "strict_substitutions" r.settings.strict]⟩

/-- Builds the registry that the settings describe. -/
def build (h : Host) (settings : Settings) : Run Registry := do
  let m ← Manifest.load h settings.manifestPath
  let r ← Run.ofExcept (ofManifest h settings m)
  Run.emit r.record
  pure r

/-- Builds the registry that the environment describes. -/
def buildDefault (h : Host) : Run Registry := do
  let settings ← Run.ofExcept (Settings.resolve h)
  build h settings

end Registry

end SchemaDepot
