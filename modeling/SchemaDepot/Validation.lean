/-
# Validating a resource folder

The validation builds a registry, plans everything and renders every scheme once.
It finds schemas that are blank, tokens that were left in a rendered schema, and
a plan that does not end with the sentinel.

Not covered: a validation in a process whose log was set up before. What is printed is
that of a process of its own, which shows warnings, each as a bare line.

Key definitions: `Validation.check`, `Validation.report`.
-/
import SchemaDepot.Plan
import SchemaDepot.Registry
import SchemaDepot.Report

namespace SchemaDepot.Validation

/-- Every fixed schema is found under its identifier and is not blank. -/
def checkSchemas (r : Registry) : List String → Except Error Unit
  | [] => .ok ()
  | x :: xs => do
    let s ← r.catalogue.schema x
    if Text.isBlank s then .error (.blankSchema x) else checkSchemas r xs

/-- The schemas that are rendered for a check, with their templates. -/
def rendered (r : Registry) (plan : Plan) : Run (List (String × String)) := do
  let benchmark ← Scheme.benchmark r (.int 100)
  let row ← Scheme.benchmarkRow r (.text "1") (.text "'abc'")
  let project ← Scheme.project r (.text "demo") (.int 5)
  let textual := plan.filter fun p => r.textualDatabases.has p.identifier
  pure ([(Scheme.benchmarkTemplate, benchmark), (Scheme.benchmarkRowTemplate, row),
      (Scheme.projectTemplate, project)] ++
    textual.map fun p => (r.textualTemplate, p.schema))

/-- No rendered schema holds a token of its template. -/
def checkRendered (r : Registry) : List (String × String) → Except Error Unit
  | [] => .ok ()
  | (name, schema) :: rest => do
    let t ← r.templates.named name
    if (t.leftover schema).isEmpty then checkRendered r rest
    else .error (.tokensLeft name (t.leftover schema).toList)

/-- The plan ends with the sentinel. -/
def checkLast (plan : Plan) : Except Error Unit :=
  if plan.getLast?.any (·.isSentinel) then .ok () else .error .sentinelNotLast

/-- Validates a registry. -/
def check (r : Registry) : Run Unit := do
  Run.ofExcept (checkSchemas r r.catalogue.identifiers.toList)
  let plan ← Plan.build r .null
  let schemas ← rendered r plan
  Run.ofExcept (checkRendered r schemas)
  Run.ofExcept (checkLast plan)

/-- Validates the resource folder that the environment describes. -/
def run (h : Host) : Run Unit := do
  let r ← Registry.buildDefault h
  check r

/-- What a validation prints: nothing about its course but warnings, and a word on
success. A failure is not reported but raised. -/
def report (h : Host) : Except Error Report :=
  let r := run h
  match r.outcome with
  | .ok _ => .ok ⟨0, "OK\n", Report.bareLines .warning r.records⟩
  | .error e => .error e

end SchemaDepot.Validation
