/-
# Data with shared collections

Data that was read from a document can hold one collection at several places, and
a collection can hold itself. All collections of such data are kept in a pool,
each under a number, and stand at their places by that number.

In a literal a collection is written out wherever it stands, except inside
itself: there only its brackets with dots between them are written.

Key definitions: `Pool`, `Pool.resolve`, `Pool.literalOf`, `Pool.shown`, `Data`.
Key theorem: `Pool.shown_of_text`.
-/
import SchemaDepot.Value

namespace SchemaDepot

/-- Collections by their numbers. -/
abbrev Pool := List (Nat × Value)

namespace Pool

/-- The collection that a value stands for by its number, or the value itself. -/
def resolve (pool : Pool) : Value → Value
  | .shared number => (pool.lookup number).getD .null
  | v => v

/-- What is written for a collection inside itself. -/
def ellipsis : Value → String
  | .map _ => "\x7b...\x7d"
  | _ => "[...]"

/-- How many collections can be written inside one another. Each takes a call, and
about fifteen are open before the first. -/
def depthLimit : Nat := callLimit - 15

/-- The literal of the collection of a number, which is written inside others. -/
def literalOf (pool : Pool) : (depth : Nat) → (inside : List Nat) → Nat → Except Error String
  | 0, _, _ => .error .tooDeep
  | depth + 1, inside, number =>
    if inside.contains number then .ok (ellipsis (pool.resolve (.shared number)))
    else (pool.resolve (.shared number)).literalWith (literalOf pool depth (number :: inside))

/-- The text of a value. -/
def shown (pool : Pool) (v : Value) : Except Error String :=
  v.shownWith (pool.literalOf depthLimit [])

/-- The value counts as true, and a collection does if it is not empty. -/
def isTruthy (pool : Pool) (v : Value) : Bool := (pool.resolve v).isTruthy

theorem shown_of_text (pool : Pool) (s : String) : pool.shown (.text s) = .ok s := rfl

end Pool

/-- Data and the pool of its collections. -/
structure Data where
  root : Value
  pool : Pool

/-- Data that holds no collection kept apart. -/
def Data.ofValue (v : Value) : Data := ⟨v, []⟩

end SchemaDepot
