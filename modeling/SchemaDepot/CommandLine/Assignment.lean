/-
# Assignments

On the command line a value is given to a token as `TOKEN=value`. The first equals
sign separates the two; blanks around the token do not count, and everything after
the sign is the value. The last assignment of a token counts.

Key definitions: `CommandLine.readAssignment`, `CommandLine.readAssignments`,
`CommandLine.readGiven`.
Key theorem: `CommandLine.readGiven_some`.
-/
import SchemaDepot.Error
import SchemaDepot.Listing
import SchemaDepot.Text.Blank
import SchemaDepot.Text.Occurs

namespace SchemaDepot.CommandLine

/-- The token and the value of an assignment. -/
def readAssignment (raw : String) : Except Error (String × String) :=
  match Text.cut? '=' raw.toList with
  | none => .error (.value (.notAssignment raw))
  | some (before, after) =>
    let token := Text.trimList before
    if token.isEmpty then .error (.value (.notAssignment raw))
    else .ok (String.ofList token, String.ofList after)

/-- The values of the tokens that some assignments give. -/
def readAssignments (raws : List String) : Except Error (Listing String) := do
  let assignments ← raws.mapM readAssignment
  .ok (.ofList assignments)

/-- The values of the tokens that assignments give, where one may be nothing. -/
def readGiven (raws : List (Option String)) : Except Error (Listing String) := do
  let assignments ← raws.mapM fun raw? => match raw? with
    | some raw => readAssignment raw
    | none => .error .notText
  .ok (.ofList assignments)

/-- Where every assignment has a value, they are read as usual. -/
theorem readGiven_some (raws : List String) : readGiven (raws.map some) = readAssignments raws := by
  simp [readGiven, readAssignments, List.mapM_map, Function.comp_def]

end SchemaDepot.CommandLine
