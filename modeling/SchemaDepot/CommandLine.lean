/-
# The command line

A command prints what a registry holds, one schema, one rendered template, or the
whole plan. Its answer is complete before any of it is printed: a command that
fails prints nothing but one line about the error, and ends with code 1.

Key definitions: `CommandLine.answer`, `CommandLine.run`.
-/
import SchemaDepot.CommandLine.Assignment
import SchemaDepot.CommandLine.Options
import SchemaDepot.Plan
import SchemaDepot.Report

namespace SchemaDepot.CommandLine

/-- How the command line is used. -/
def usage : String :=
  "usage: (--list | --db DB | --template TEMPLATE | --plan) [--set TOKEN=value]... [--verbose]"

/-- One line of the output. -/
def line (s : String) : String := s ++ "\n"

/-- The lines of a list: the databases, then the templates with their tokens. -/
def listing (r : Registry) : String :=
  String.join (r.provisionable.toList.map line) ++
    String.join (r.templates.toList.map fun t => line (t.name ++ ": " ++ t.tokens.joined ", "))

/-- The lines of a plan: each schema under the name of its database. -/
def planText (p : Plan) : String :=
  String.join (p.map fun p => line ("-- database: " ++ p.identifier) ++ line p.schema)

/-- The schema of one database. -/
def schemaText (r : Registry) (identifier : String) : Run String := do
  let s ← Scheme.schemaNamed r identifier
  pure (line s)

/-- A template with the values that assignments give. -/
def templateText (r : Registry) (name : String) (assignments : List (Option String)) :
    Run String := do
  let values ← Run.ofExcept (readGiven assignments)
  let s ← r.render name (values.map Value.text)
  pure (line s)

/-- The whole plan. -/
def wholePlan (r : Registry) : Run String := do
  let p ← Plan.build r .null
  pure (planText p)

/-- The argument of an option, if it is given and not empty. -/
def given? (argument? : Option String) : Option String :=
  argument?.filter fun s => !s.isEmpty

/-- What a command prints on success. -/
def answer (r : Registry) (o : Options) : Run String :=
  if o.list then pure (listing r)
  else match given? o.database? with
    | some identifier => schemaText r identifier
    | none =>
      match given? o.template? with
      | some name => templateText r name o.assignments
      | none => wholePlan r

/-- The error is reported in a log line rather than raised: it is one of the depot
itself or speaks about a value. -/
def isReported : Error → Bool
  | .value _ => true
  | e => e.isDepotError

/-- The level of the lines that a command shows. -/
def shownLevel (o : Options) : Log.Level := if o.verbose then .info else .warning

/-- The record of an error that is reported. -/
def errorRecord (e : Error) : Log.Record := ⟨.error, .rendering, e.message⟩

/-- Carries out a command on a registry, which is looked for first. -/
def run (o : Options) (registry : Run Registry) : Except Error Report :=
  match registry.outcome with
  | .error e => .error e
  | .ok r =>
    let a := answer r o
    let records := registry.records ++ a.records
    match a.outcome with
    | .ok output => .ok ⟨0, output, Report.printedLines (shownLevel o) records⟩
    | .error e =>
      if isReported e then
        .ok ⟨1, "", Report.printedLines (shownLevel o) (records ++ [errorRecord e])⟩
      else .error e

end SchemaDepot.CommandLine
