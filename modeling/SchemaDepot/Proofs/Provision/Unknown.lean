/-
# What is refused as unknown

The catalogue refuses as unknown whatever it does not hold, be it a text or not; only if an
integer in it has too many digits can the refusal not be written. Asking for a schema is asking
the catalogue, unless the value is the identifier of a textual database or can be no key
(`Scheme.schemaOf_eq_lookup`). The textual databases are asked first, as a listing is by its keys;
so a collection that can be no key is refused as of the wrong kind before the catalogue is asked
(`Scheme.schemaOf_of_not_isHashable`). What can be provided is never refused as unknown.

Key definition: `Value.IsOneOf`.
Key theorems: `Catalogue.lookup_of_not_isOneOf`, `Scheme.schemaOf_eq_lookup`,
`Scheme.schemaOf_eq_lookup_iff`, `Registry.schemaOf_eq_unknown_iff`.
-/
import SchemaDepot.Proofs.Plan.Everything
import SchemaDepot.Proofs.Provision.Refusal

namespace SchemaDepot

open Outcome

/-- The value is one of the names. -/
def Value.IsOneOf (v : Value) (names : TextSet) : Prop := ∃ x ∈ names, v = .text x

namespace Value

variable {names : TextSet} {x : String}

theorem isOneOf_text_iff : (Value.text x).IsOneOf names ↔ x ∈ names := by
  constructor
  · rintro ⟨y, hy, he⟩
    cases he
    exact hy
  · exact fun hx => ⟨x, hx, rfl⟩

theorem not_isOneOf_of_not_isHashable {v : Value} (h : v.isHashable = false) :
    ¬ v.IsOneOf names := by
  rintro ⟨x, -, rfl⟩
  cases h

end Value

/-! ### What the catalogue does not hold -/

namespace Catalogue

variable {c : Catalogue} {v : Value} {s : String}

/-- What is not held is refused as unknown if it can be shown. -/
theorem lookup_of_not_isOneOf (h : ¬ v.IsOneOf c.identifiers) :
    c.lookup v = v.shown.bind fun s => .error (.unknownIdentifier s) := by
  cases v with
  | text x =>
    have hx : x ∉ c.schemas.keys := fun hx => h ⟨x, mem_identifiers.mpr hx, rfl⟩
    show c.schema x = .error (.unknownIdentifier x)
    rw [schema, Listing.get?_eq_none hx]
  | _ => rfl

theorem exists_lookup_of_isOneOf (h : v.IsOneOf c.identifiers) : ∃ s, c.lookup v = .ok s := by
  obtain ⟨x, hx, rfl⟩ := h
  obtain ⟨s, hs⟩ := Listing.exists_get?_of_mem_keys (mem_identifiers.mp hx)
  exact ⟨s, schema_eq_ok_iff.mpr hs⟩

theorem lookup_eq_unknown_iff : c.lookup v = .error (.unknownIdentifier s) ↔
    ¬ v.IsOneOf c.identifiers ∧ v.shown = .ok s := by
  by_cases hv : v.IsOneOf c.identifiers
  · obtain ⟨schema, hschema⟩ := exists_lookup_of_isOneOf hv
    simp [hschema, hv]
  · rw [lookup_of_not_isOneOf hv]
    cases hshown : v.shown with
    | ok shown => simp [Except.bind, hv]
    | error e =>
      rw [Value.eq_numberTooLong_of_shown hshown]
      simp [Except.bind]

theorem lookup_ne_wrongKind : c.lookup v ≠ .error .wrongKind := by
  by_cases hv : v.IsOneOf c.identifiers
  · obtain ⟨s, hs⟩ := exists_lookup_of_isOneOf hv
    rw [hs]
    exact nofun
  · rw [lookup_of_not_isOneOf hv]
    cases hshown : v.shown with
    | ok s => exact nofun
    | error e =>
      rw [Value.eq_numberTooLong_of_shown hshown]
      exact nofun

end Catalogue

/-! ### What is asked for as a schema -/

namespace Scheme

variable {r : Registry} {v : Value}

/-- Whatever is no text names no textual database. -/
theorem schemaOf_of_ne_text (h : ∀ x, v ≠ .text x) : schemaOf r v =
    if v.isHashable then .ofExcept (r.catalogue.lookup v) else .fail .wrongKind := by
  unfold schemaOf
  split
  · exact absurd rfl (h _)
  · rfl

theorem schemaOf_of_not_isHashable (h : v.isHashable = false) :
    schemaOf r v = .fail .wrongKind := by
  have htext : ∀ x, v ≠ .text x := by
    rintro x rfl
    cases h
  rw [schemaOf_of_ne_text htext, h]
  rfl

/-- For any other value, unless it names a textual database, the catalogue is asked. -/
theorem schemaOf_eq_lookup (hv : ¬ v.IsOneOf r.textualDatabases.keySet)
    (h : v.isHashable = true) : schemaOf r v = .ofExcept (r.catalogue.lookup v) := by
  by_cases htext : ∀ x, v ≠ .text x
  · rw [schemaOf_of_ne_text htext, if_pos h]
  · simp only [not_forall, not_not] at htext
    obtain ⟨x, rfl⟩ := htext
    have hx : x ∉ r.textualDatabases.keys := fun hx => hv ⟨x, Listing.mem_keySet.mpr hx, rfl⟩
    show schemaNamed r x = .ofExcept (r.catalogue.schema x)
    rw [schemaNamed, Listing.get?_eq_none hx]

/-- Where no textual database is named, asking for a schema is asking the catalogue exactly for
what can be a key. -/
theorem schemaOf_eq_lookup_iff (hv : ¬ v.IsOneOf r.textualDatabases.keySet) :
    schemaOf r v = .ofExcept (r.catalogue.lookup v) ↔ v.isHashable = true := by
  constructor
  · intro h
    by_contra hhash
    rw [schemaOf_of_not_isHashable (Bool.not_eq_true _ ▸ hhash)] at h
    exact Catalogue.lookup_ne_wrongKind (congrArg Run.outcome h).symm
  · exact schemaOf_eq_lookup hv

end Scheme

namespace Registry

open Scheme

variable {h : Host} {settings : Settings} {r : Registry} {v : Value} {s : String}

theorem isOneOf_provisionable_iff : v.IsOneOf r.provisionable ↔
    v.IsOneOf r.catalogue.identifiers ∨ v.IsOneOf r.textualDatabases.keySet := by
  simp only [Value.IsOneOf, provisionable, TextSet.mem_union, or_and_right, exists_or]

/-- A textual database of a registry that was built is never refused as unknown. -/
theorem schemaOf_ne_unknown_of_textual (hr : (build h settings).outcome = .ok r)
    (hv : v.IsOneOf r.textualDatabases.keySet) :
    (schemaOf r v).outcome ≠ .error (.unknownIdentifier s) := by
  obtain ⟨x, hx, rfl⟩ := hv
  obtain ⟨spec, hspec⟩ := Listing.exists_get?_of_mem_keys (Listing.mem_keySet.mp hx)
  intro he
  rcases schemaNamed_outcome_eq_error_of_textual hr hspec he with hargument | ⟨_, _, _, he⟩
  · cases hargument
  · cases he

/-- A value is refused as unknown exactly when it can be no database, can be a key and can be
shown. -/
theorem schemaOf_eq_unknown_iff (hr : (build h settings).outcome = .ok r) :
    (schemaOf r v).outcome = .error (.unknownIdentifier s) ↔
      ¬ v.IsOneOf r.provisionable ∧ v.isHashable = true ∧ v.shown = .ok s := by
  rw [isOneOf_provisionable_iff, not_or]
  by_cases htextual : v.IsOneOf r.textualDatabases.keySet
  · simp [htextual, schemaOf_ne_unknown_of_textual hr htextual]
  · by_cases hhash : v.isHashable = true
    · rw [schemaOf_eq_lookup htextual hhash]
      show r.catalogue.lookup v = _ ↔ _
      rw [Catalogue.lookup_eq_unknown_iff]
      simp [htextual, hhash]
    · rw [schemaOf_of_not_isHashable (Bool.not_eq_true _ ▸ hhash)]
      simp [Run.fail, hhash]

/-- **What is refused as unknown.** In a registry that was built the schema of a value is refused
as unknown, and shown, exactly when no such database can be provided, the value can be a key and
it can be shown. The catalogue refuses whatever it does not hold and what can be shown. What can
be no key is of the wrong kind where a schema is asked for, and what cannot be shown has an
integer of too many digits. The two agree on a value that names no textual database exactly when
it can be a key. -/
theorem refused_as_unknown_exactly (hr : (build h settings).outcome = .ok r) :
    (∀ v s, (schemaOf r v).outcome = .error (.unknownIdentifier s) ↔
      ¬ v.IsOneOf r.provisionable ∧ v.isHashable = true ∧ v.shown = .ok s) ∧
    (∀ v s, r.catalogue.lookup v = .error (.unknownIdentifier s) ↔
      ¬ v.IsOneOf r.catalogue.identifiers ∧ v.shown = .ok s) ∧
    (∀ v : Value, (∃ s, v.shown = .ok s) ↔ v.IsWritable) ∧
    (∀ v : Value, ¬ v.IsOneOf r.provisionable →
      (v.isHashable = false → schemaOf r v = .fail .wrongKind) ∧
      (v.isHashable = true → ¬ v.IsWritable →
        schemaOf r v = .fail (.value (.numberTooLong Decimal.digitLimit)))) ∧
    ∀ v : Value, ¬ v.IsOneOf r.textualDatabases.keySet →
      (schemaOf r v = .ofExcept (r.catalogue.lookup v) ↔ v.isHashable = true) := by
  refine ⟨fun v s => schemaOf_eq_unknown_iff hr, fun v s => Catalogue.lookup_eq_unknown_iff,
    fun v => Value.exists_shown_iff, fun v hv => ⟨schemaOf_of_not_isHashable, ?_⟩,
    fun v => schemaOf_eq_lookup_iff⟩
  intro hhash hlong
  obtain ⟨hfixed, htextual⟩ := not_or.mp (mt isOneOf_provisionable_iff.mpr hv)
  rw [schemaOf_eq_lookup htextual hhash, Catalogue.lookup_of_not_isOneOf hfixed,
    Value.shown_of_not_isWritable hlong]
  rfl

/-- In the registry of the folder with odd identifiers a text and a pair are unknown. A pair that
holds a list is of the wrong kind, and a number that is too long cannot be shown. -/
theorem refused_as_unknown_exactly_stray :
    ∃ r, (build strayHost ⟨strayHost.bundled, true⟩).outcome = .ok r ∧
      (schemaOf r (.text "c")).outcome = .error (.unknownIdentifier "c") ∧
      schemaOf r (.tuple [.null, .bool true]) =
        .ofExcept (r.catalogue.lookup (.tuple [.null, .bool true])) ∧
      r.catalogue.lookup (.tuple [.null, .bool true]) =
        .error (.unknownIdentifier "(None, True)") ∧
      schemaOf r (.tuple [.null, .list []]) = .fail .wrongKind ∧
      schemaOf r (.int (tenTo Decimal.digitLimit)) =
        .fail (.value (.numberTooLong Decimal.digitLimit)) := by
  obtain ⟨r, hr, hidentifiers, hentries, -⟩ := exists_build_strayHost
  obtain ⟨hunknown, hlookup, -, hother, hagree⟩ := refused_as_unknown_exactly hr
  have hname : ∀ x names, ¬ (Value.tuple x).IsOneOf names := by
    rintro x names ⟨y, -, he⟩
    cases he
  have hnumber : ¬ (Value.int (tenTo Decimal.digitLimit)).IsOneOf r.provisionable := by
    rintro ⟨y, -, he⟩
    cases he
  have hc : ¬ (Value.text "c").IsOneOf r.provisionable := by
    rw [isOneOf_provisionable_iff, Value.isOneOf_text_iff, Value.isOneOf_text_iff, TextSet.mem_def,
      hidentifiers, Listing.mem_keySet, Listing.keys, hentries]
    decide
  have hlong : ¬ (Value.int (tenTo Decimal.digitLimit)).IsWritable := by
    rw [Value.isWritable_int_iff, Int.natAbs_natCast]
    exact Nat.lt_irrefl _
  refine ⟨r, hr, (hunknown _ _).mpr ⟨hc, rfl, rfl⟩, (hagree _ (hname _ _)).mpr rfl,
    (hlookup _ _).mpr ⟨hname _ _, by decide⟩, (hother _ (hname _ _)).1 rfl,
    (hother _ hnumber).2 rfl hlong⟩

/-- An empty list is no database. The catalogue refuses it as unknown, but asking for its schema
fails in another way. -/
theorem list_not_refused_as_unknown :
    ∃ r, (build strayHost ⟨strayHost.bundled, true⟩).outcome = .ok r ∧
      ¬ (Value.list []).IsOneOf r.provisionable ∧
      (schemaOf r (.list [])).outcome = .error .wrongKind ∧
      r.catalogue.lookup (.list []) = .error (.unknownIdentifier "[]") := by
  obtain ⟨r, hr, -⟩ := exists_build_strayHost
  have hlist : ∀ names, ¬ (Value.list []).IsOneOf names := fun names =>
    Value.not_isOneOf_of_not_isHashable rfl
  refine ⟨r, hr, hlist _, ?_, Catalogue.lookup_eq_unknown_iff.mpr ⟨hlist _, rfl⟩⟩
  rw [schemaOf_of_not_isHashable rfl]
  rfl

end Registry

end SchemaDepot
