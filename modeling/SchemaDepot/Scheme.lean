/-
# Schemes

A scheme is a schema that is made for a database rather than stored. The textual
databases share one template and differ in the type and the length of their
columns; the benchmark database takes the length of its columns from whoever
asks, its rows take two values, and a project takes a name and a number.

Lengths and numbers are integers above zero and are put into a template in
decimal. Everything else is put as it is given.

Key definitions: `Scheme.textualColumns`, `Scheme.benchmark`,
`Scheme.benchmarkRow`, `Scheme.project`, `Scheme.schemaOf`.
-/
import SchemaDepot.Registry

namespace SchemaDepot.Scheme

/-- The template of the benchmark database. -/
def benchmarkTemplate : String := "benchmark"

/-- The template of a row of the benchmark database. -/
def benchmarkRowTemplate : String := "benchmark_add_row"

/-- The template of a project. -/
def projectTemplate : String := "hopsworks_add_project"

/-- The decimal text of an integer above zero. -/
def positiveText (name : String) (v : Value) : Except Error String :=
  let refusal : Except Error String := do
    let shown ← v.literal
    .error (.value (.notPositive name shown))
  match v with
  | .int n => if 0 < n then Decimal.write n else refusal
  | _ => refusal

/-- The text of a length that is named as such. -/
def lengthText (v : Value) : Except Error String := positiveText "column_length" v

/-- The text of a project number; a numeral of ASCII digits is read first. -/
def numberText (v : Value) : Except Error String :=
  match v with
  | .text s =>
    if s.isEmpty || !s.toList.all Text.isAsciiDigit then positiveText "project_number" v
    else do
      let n ← Decimal.read s.toList
      positiveText "project_number" (.int n)
  | _ => positiveText "project_number" v

/-- Checks that a required argument is given. -/
def require (name : String) (v : Value) : Except Error Unit :=
  if v.isTruthy then .ok () else .error (.value (.required name))

/-- What a textual database needs before a registry is asked. -/
def checkTextual (database columnType : Value) : Except Error Unit := do
  require "database" database
  require "column_type" columnType

/-- The values for the template of textual columns. -/
def textualValues (database columnType : Value) (lengthText : String) : Template.Substitutions :=
  .ofList [(Registry.databaseToken, database), (Registry.columnTypeToken, columnType),
    (Registry.columnLengthToken, .text lengthText)]

/-- The schema of a textual database with given columns. -/
def textualColumns (r : Registry) (database columnType columnLength : Value) : Run String := do
  Run.ofExcept (checkTextual database columnType)
  let length ← Run.ofExcept (lengthText columnLength)
  r.render r.textualTemplate (textualValues database columnType length)

/-- The schema of the benchmark database with columns of a given length. -/
def benchmark (r : Registry) (columnLength : Value) : Run String := do
  let length ← Run.ofExcept (lengthText columnLength)
  r.render benchmarkTemplate (.ofList [(Registry.columnLengthToken, .text length)])

/-- The statement that adds a row of two values to the benchmark database. -/
def benchmarkRow (r : Registry) (value1 value2 : Value) : Run String :=
  r.render benchmarkRowTemplate
    (.ofList [("VALUE_COLUMN_1", value1), ("VALUE_COLUMN_2", value2)])

/-- What a project needs before a registry is asked. -/
def checkProject (name : Value) : Except Error Unit := require "project_name" name

/-- The statements that add a project. -/
def project (r : Registry) (name number : Value) : Run String := do
  Run.ofExcept (checkProject name)
  let number ← Run.ofExcept (numberText number)
  r.render projectTemplate (.ofList [("PROJECT_NAME", name), ("PROJECT_NUMBER", .text number)])

/-- The complete schema of a fixed or textual database. -/
def schemaNamed (r : Registry) (identifier : String) : Run String :=
  match r.textualDatabases.get? identifier with
  | some spec => textualColumns r (.text identifier) (.text spec.columnType) (.int spec.columnLength)
  | none => .ofExcept (r.catalogue.schema identifier)

/-- The complete schema of the database that a value names. -/
def schemaOf (r : Registry) (identifier : Value) : Run String :=
  match identifier with
  | .text x => schemaNamed r x
  | v => if v.isHashable then .ofExcept (r.catalogue.lookup v) else .fail .wrongKind

end SchemaDepot.Scheme
