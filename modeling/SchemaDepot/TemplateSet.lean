/-
# Sets of templates

Templates under distinct names, with one decision for all of them: whether a
value for an undeclared token is refused or left out of account.

Key definitions: `TemplateSet`, `TemplateSet.gather`, `TemplateSet.templateFor`,
`TemplateSet.render`.
-/
import SchemaDepot.Template

namespace SchemaDepot

/-- Templates by name. -/
structure TemplateSet where
  templates : Listing Template
  /-- Values for undeclared tokens are refused. -/
  strict : Bool

namespace TemplateSet

/-- Adds templates one by one, each built only when its turn comes. -/
def gatherFrom {α : Type} (build : α → Except Error Template) (held : Listing Template) :
    List α → Except Error (Listing Template)
  | [] => .ok held
  | a :: rest => do
    let t ← build a
    if held.has t.name then .error (.templates (.repeatedName t.name))
    else gatherFrom build (held.put t.name t) rest

/-- The set of the templates that are built from the items of a list. -/
def gather {α : Type} (build : α → Except Error Template) (strict : Bool) (items : List α) :
    Except Error TemplateSet := do
  let templates ← gatherFrom build .empty items
  .ok ⟨templates, strict⟩

/-- The names of the templates. -/
def names (s : TemplateSet) : TextSet := s.templates.keySet

/-- The number of templates. -/
def size (s : TemplateSet) : Nat := s.templates.size

/-- The templates in the order of their names. -/
def toList (s : TemplateSet) : List Template := s.names.toList.filterMap s.templates.get?

/-- There is a template of the name a value gives. -/
def contains (s : TemplateSet) (name : Value) : Except Error Bool :=
  match name with
  | .text x => .ok (s.templates.has x)
  | v => if v.isHashable then .ok false else .error .wrongKind

/-- The template of a name. -/
def named (s : TemplateSet) (name : String) : Except Error Template :=
  match s.templates.get? name with
  | some t => .ok t
  | none => .error (.unknownTemplate name)

/-- The template of the name that a value gives. -/
def templateFor (s : TemplateSet) (name : Value) : Except Error Template :=
  match name with
  | .text x => s.named x
  | v => do
    let shown ← v.shown
    .error (.unknownTemplate shown)

/-- Renders the template of a name. -/
def render (s : TemplateSet) (name : String) (given : Template.Substitutions) : Run String :=
  match s.named name with
  | .ok t => t.render given s.strict
  | .error e => .fail e

/-- Renders the template of the name that a value gives with whatever another
value gives. -/
def renderValue (s : TemplateSet) (name given : Value) : Run String :=
  match s.templateFor name with
  | .ok t => t.renderValue given s.strict
  | .error e => .fail e

end TemplateSet

end SchemaDepot
