/-
# Kinds of errors

The errors of the depot that building can meet are of two kinds: a resource is unusable, or
a definition is inconsistent. Others come from the surroundings: a value is unsuitable where
it stands, or a file or a path cannot be used as one. No error is of both.

Key definitions: `Error.isUnsuitable`, `Error.isForeign`, `Error.isResource`,
`Error.isDefinition`.
Key theorems: `Error.isDepotError_of_isForeign`, `Error.of_isDepotError_eq_false`.
-/
import SchemaDepot.Error

namespace SchemaDepot.Error

/-- The error says that a value is unsuitable where it stands. -/
def isUnsuitable : Error → Bool
  | .value _ | .wrongKind | .notText | .tooDeep | .overflow | .notTruthWord | .emptyNumeral => true
  | _ => false

/-- The error is one of the surroundings: of a file, of a path or of a value. -/
def isForeign : Error → Bool
  | .nameTooLong | .notUtf8 | .notEncodable => true
  | e => e.isUnsuitable

/-- The error says that a resource is missing, empty or malformed. -/
def isResource : Error → Bool
  | .resource _ => true
  | _ => false

/-- The error says that identifiers, templates or tokens are inconsistent. -/
def isDefinition : Error → Bool
  | .catalogue _ | .templates _ => true
  | _ => false

variable {e : Error}

theorem isForeign_of_isUnsuitable (h : e.isUnsuitable = true) : e.isForeign = true := by
  cases e <;> first | rfl | exact h

theorem resource_ne (he : ¬ e.isResource) : ∀ fault, Error.resource fault ≠ e := by
  rintro fault rfl
  exact he rfl

theorem not_isDefinition_of_isResource (h : e.isResource) : ¬ e.isDefinition := by
  cases e <;> first | exact Bool.false_ne_true | cases h

theorem isDepotError_of_isForeign (h : e.isForeign = true) : e.isDepotError = false := by
  cases e <;> first | rfl | cases h

/-- Only an error of the depot is about a resource or a definition. -/
theorem of_isDepotError_eq_false (h : e.isDepotError = false) :
    ¬ e.isResource ∧ ¬ e.isDefinition := by
  cases e <;> first | exact ⟨Bool.false_ne_true, Bool.false_ne_true⟩ | cases h

theorem not_isForeign_of_isDepotError (h : e.isDepotError = true) : ¬ e.isForeign := by
  intro hf
  rw [isDepotError_of_isForeign hf] at h
  cases h

end SchemaDepot.Error
