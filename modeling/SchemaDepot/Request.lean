/-
# Requests

Everything that can be asked of a registry, and the answers. Some requests check
their arguments before a registry is needed; this matters where the registry is
built only when it is needed.

Key definitions: `Request`, `Answer`, `Request.check`, `Request.answer`.
-/
import SchemaDepot.Plan
import SchemaDepot.Registry

namespace SchemaDepot

/-- A question to a registry. -/
inductive Request
  /-- What the registry holds. -/
  | overview
  /-- The fixed schema of an identifier. -/
  | lookup (identifier : Value)
  | identifiers
  | templateFor (name : Value)
  | render (name substitutions : Value)
  /-- The identifiers of everything that can be provided. -/
  | provisionable
  /-- The schema of a fixed or textual database. -/
  | schema (identifier : Value)
  | textualColumns (database columnType columnLength : Value)
  | benchmark (columnLength : Value)
  | benchmarkRow (value1 value2 : Value)
  | project (name number : Value)
  | plan (identifiers : Value)

/-- What a request is answered with. -/
inductive Answer
  | text (s : String)
  | texts (s : TextSet)
  | template (t : Template)
  | registry (r : Registry)
  | plan (p : Plan)

namespace Request

/-- What is checked before a registry is needed. -/
def check : Request → Except Error Unit
  | .textualColumns database columnType _ => Scheme.checkTextual database columnType
  | .project name _ => Scheme.checkProject name
  | _ => .ok ()

/-- A text as an answer. -/
def ofText (r : Run String) : Run Answer := do
  let s ← r
  pure (.text s)

/-- The answer of a registry. -/
def answer (r : Registry) : Request → Run Answer
  | .overview => pure (.registry r)
  | .lookup identifier => ofText (.ofExcept (r.catalogue.lookup identifier))
  | .identifiers => pure (.texts r.catalogue.identifiers)
  | .templateFor name => do
    let t ← Run.ofExcept (r.templates.templateFor name)
    pure (.template t)
  | .render name substitutions => ofText (r.templates.renderValue name substitutions)
  | .provisionable => pure (.texts r.provisionable)
  | .schema identifier => ofText (Scheme.schemaOf r identifier)
  | .textualColumns database columnType columnLength =>
    ofText (Scheme.textualColumns r database columnType columnLength)
  | .benchmark columnLength => ofText (Scheme.benchmark r columnLength)
  | .benchmarkRow value1 value2 => ofText (Scheme.benchmarkRow r value1 value2)
  | .project name number => ofText (Scheme.project r name number)
  | .plan wanted => do
    let p ← Plan.build r wanted
    pure (.plan p)

end Request

end SchemaDepot
