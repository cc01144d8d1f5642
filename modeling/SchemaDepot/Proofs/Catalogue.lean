/-
# When a catalogue is made

A catalogue of a listing is made exactly when every identifier is one, no schema is
blank and the sentinel is among the identifiers; it then holds the listing as it is.

Key theorems: `Catalogue.schema_eq_ok_iff`, `Catalogue.ofListing_eq_ok_iff`.
-/
import SchemaDepot.Catalogue
import SchemaDepot.Proofs.Listing

namespace SchemaDepot.Catalogue

@[simp] theorem mem_identifiers {c : Catalogue} {x : String} :
    x ∈ c.identifiers ↔ x ∈ c.schemas.keys :=
  Listing.mem_keySet

theorem schema_eq_ok_iff {c : Catalogue} {x s : String} :
    c.schema x = .ok s ↔ c.schemas.get? x = some s := by
  unfold schema
  cases c.schemas.get? x <;> simp

theorem entryFault?_eq_none_iff {identifier text : String} :
    entryFault? identifier text = none ↔
      isIdentifier identifier = true ∧ Text.isBlank text = false := by
  unfold entryFault?
  by_cases hi : isIdentifier identifier = true <;> by_cases hb : Text.isBlank text = true <;>
    simp [hi, hb]

theorem withSentinel_text_eq_ok_iff {schemas : Listing String} {sentinel : String}
    {c : Catalogue} : withSentinel schemas (.text sentinel) = .ok c ↔
      sentinel ∈ schemas.keys ∧ c = ⟨schemas, sentinel⟩ := by
  rw [← Listing.has_eq_true_iff_mem, withSentinel]
  by_cases hs : schemas.has sentinel = true
  · simp [hs, eq_comm]
  · simp [hs]

/-- A catalogue is made exactly of fitting entries with the sentinel among them. -/
theorem ofListing_eq_ok_iff {schemas : Listing String} {sentinel : String} {c : Catalogue} :
    ofListing schemas sentinel = .ok c ↔
      (∀ e ∈ schemas.entries, isIdentifier e.1 = true ∧ Text.isBlank e.2 = false) ∧
        sentinel ∈ schemas.keys ∧ c = ⟨schemas, sentinel⟩ := by
  unfold ofListing
  cases hf : schemas.entries.findSome? fun e => entryFault? e.1 e.2 with
  | some fault =>
    obtain ⟨e, he, hfault⟩ := List.exists_of_findSome?_eq_some hf
    simp only [reduceCtorEq, false_iff, not_and]
    intro hall
    rw [entryFault?_eq_none_iff.mpr (hall e he)] at hfault
    cases hfault
  | none =>
    have hall : ∀ e ∈ schemas.entries, isIdentifier e.1 = true ∧ Text.isBlank e.2 = false :=
      fun e he => entryFault?_eq_none_iff.mp (List.findSome?_eq_none_iff.mp hf e he)
    simp only [withSentinel_text_eq_ok_iff]
    exact ⟨fun h => ⟨hall, h⟩, fun h => h.2⟩

end SchemaDepot.Catalogue
