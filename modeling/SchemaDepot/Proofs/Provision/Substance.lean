/-
# What a schema holds

Whatever the text of the template of textual columns is, everything that a textual database
puts into it is a part of the schema that is made: no token of textual columns ends as one
begins, so the first occurrence of each is replaced. The column type is not blank, and so the
schema is not either. A fixed schema was refused when it was blank. So whatever has a schema
has one that is not blank, and no plan is refused for want of a schema
(`Registry.schema_has_substance`).

Key theorems: `Scheme.parts_of_textualText`, `Registry.not_blank_of_schemaOf`,
`Registry.provision_ne_sqlRequired`, `Registry.schema_has_substance`.
-/
import SchemaDepot.Proofs.Plan.Everything
import SchemaDepot.Proofs.Provision.Refusal

namespace SchemaDepot

open Text

namespace Scheme

variable {r : Registry} {t : Template} {x s : String} {spec : ColumnSpec}

/-- A schema that is made for a textual database is rendered from its values. -/
theorem outcome_valuesOf_of_outcome (hnamed : r.templates.named r.textualTemplate = .ok t)
    (h : (textualColumns r (.text x) (.text spec.columnType) (.int spec.columnLength)).outcome =
      .ok s) : t.outcome (valuesOf x spec) r.templates.strict = .ok s := by
  obtain ⟨-, -, h⟩ := Run.bind_outcome_eq_ok_iff.mp h
  obtain ⟨length, hlength, h⟩ := Run.bind_outcome_eq_ok_iff.mp h
  obtain ⟨-, -, rfl⟩ := lengthText_eq_ok_iff.mp hlength
  rwa [render_outcome hnamed] at h

theorem parts_of_textualText (ht : t.tokens = Registry.textualTokens) (x : String)
    (spec : ColumnSpec) :
    contains (textualText t x spec) x = true ∧
      contains (textualText t x spec) spec.columnType = true ∧
      contains (textualText t x spec) (toString spec.columnLength) = true := by
  have hpart : ∀ {y v : String}, (valuesOf x spec).get? y = some (.text v) →
      contains (textualText t x spec) v = true := fun hget =>
    contains_eq_true_iff.mpr (infix_textualText_of_get? ht hget)
  have hdigits : String.ofList (Decimal.chars spec.columnLength) = toString spec.columnLength := by
    rw [Decimal.chars_natCast]
    rfl
  refine ⟨hpart (get?_valuesOf.mpr (Or.inl ⟨rfl, rfl⟩)),
    hpart (get?_valuesOf.mpr (Or.inr (Or.inl ⟨rfl, rfl⟩))), ?_⟩
  rw [← hdigits]
  exact hpart (get?_valuesOf.mpr (Or.inr (Or.inr ⟨rfl, rfl⟩)))

end Scheme

namespace Plan

open Outcome

theorem members_failsOnly {P : Error → Prop} (hkind : P .wrongKind) (v : Value) :
    FailsOnly P v.members := by
  cases v <;> first | exact .ok _ | exact .error hkind

theorem requested_failsOnly {P : Error → Prop} (hkind : P .wrongKind)
    (hlong : P (.value (.numberTooLong Decimal.digitLimit))) (v : Value) :
    FailsOnly P (requested v) :=
  (members_failsOnly hkind v).bind fun items =>
    (FailsOnly.mapM (Value.shown_failsOnly hlong) items).bind fun _ => .ok _

theorem build_outcome_eq_error {r : Registry} {v : Value} {e : Error}
    (h : (build r v).outcome = .error e) :
    requested v = .error e ∨ ∃ wanted, (ofSet r wanted).outcome = .error e := by
  unfold build at h
  split at h
  · exact Or.inr ⟨_, h⟩
  · split at h
    · exact Or.inr ⟨_, h⟩
    · rename_i e' hrequested
      cases h
      exact Or.inl hrequested

end Plan

namespace Registry

open Scheme

variable {h : Host} {settings : Settings} {r : Registry} {x y : String}

/-! ### Schemas -/

theorem parts_of_schemaOf (hr : (build h settings).outcome = .ok r) {spec : ColumnSpec}
    (hspec : r.textualDatabases.get? x = some spec) {s : String}
    (hs : (schemaOf r (.text x)).outcome = .ok s) :
    contains s x = true ∧ contains s spec.columnType = true ∧
      contains s (toString spec.columnLength) = true ∧ isBlank s = false := by
  obtain ⟨m, -, hm, hserves⟩ := exists_serves_of_build hr
  obtain ⟨-, htype, -⟩ := hserves.columns _ (Listing.get?_eq_some_iff.mp hspec)
  obtain ⟨t, hnamed, ht⟩ := exists_textualTemplate hm hspec
  rw [schemaOf_textual hspec] at hs
  obtain ⟨-, rfl⟩ := (outcome_valuesOf_eq_ok_iff ht).mp (outcome_valuesOf_of_outcome hnamed hs)
  obtain ⟨hname, hcolumn, hlength⟩ := parts_of_textualText ht x spec
  exact ⟨hname, hcolumn, hlength, not_blank_of_infix (contains_eq_true_iff.mp hcolumn) htype⟩

/-- No schema is blank. -/
theorem not_blank_of_schemaOf (hr : (build h settings).outcome = .ok r) {v : Value} {s : String}
    (hs : (schemaOf r v).outcome = .ok s) : isBlank s = false := by
  unfold schemaOf at hs
  split at hs
  · rename_i x
    cases hspec : r.textualDatabases.get? x with
    | some spec => exact (parts_of_schemaOf hr hspec hs).2.2.2
    | none =>
      obtain ⟨m, -, -, hserves⟩ := exists_serves_of_build hr
      rw [schemaNamed, hspec] at hs
      exact hserves.schema_not_blank x s hs
  · -- what is no text names no database
    rename_i hother
    split at hs
    · unfold Run.ofExcept Catalogue.lookup at hs
      split at hs
      · exact absurd rfl (hother _)
      · obtain ⟨_, -, hs⟩ := Outcome.bind_eq_ok_iff.mp hs
        cases hs
    · cases hs

/-! ### Plans -/

/-- A provision is never refused for want of a schema. -/
theorem provision_ne_sqlRequired (hr : (build h settings).outcome = .ok r) :
    (Plan.provision r x).outcome ≠ .error (.value (.sqlRequired y)) := by
  intro he
  rcases Run.bind_outcome_eq_error_iff.mp he with hschema | ⟨s, hs, hmake⟩
  · cases hspec : r.textualDatabases.get? x with
    | none =>
      rw [schemaNamed, hspec] at hschema
      change r.catalogue.schema x = _ at hschema
      unfold Catalogue.schema at hschema
      split at hschema
      · cases hschema
      · cases hschema
    | some spec =>
      rcases schemaNamed_outcome_eq_error_of_textual hr hspec hschema with hargument | ⟨_, _, _, he⟩
      · cases hargument
      · cases he
  · have hblank : isBlank s = false := not_blank_of_schemaOf hr (v := .text x) hs
    rcases Provision.make_eq_error_iff.mp hmake with ⟨-, he⟩ | ⟨-, hs, -⟩
    · cases he
    · rw [hblank] at hs
      cases hs

theorem build_ne_sqlRequired (hr : (build h settings).outcome = .ok r) {v : Value} :
    (Plan.build r v).outcome ≠ .error (.value (.sqlRequired y)) := by
  intro he
  rcases Plan.build_outcome_eq_error he with hrequested | ⟨wanted, he⟩
  · have hother := Plan.requested_failsOnly (P := fun e => e ≠ .value (.sqlRequired y))
      (fun h => by cases h) (fun h => by cases h) v
    exact hother.error_of hrequested rfl
  · rcases Plan.ofSet_outcome_eq_error he with ⟨x, -, he⟩ | ⟨x, -, -, he⟩ | he
    · cases he
    · exact provision_ne_sqlRequired hr he
    · obtain ⟨p, hp⟩ := exists_sentinelProvision_of_build hr
      cases hp.symm.trans he

/-- **What a schema holds.** In a registry that was built, the schema of a textual database
holds its identifier, its column type and its column length in decimal, whatever the text of
the template. No schema is blank, fixed or textual, and no plan is refused for want of one. -/
theorem schema_has_substance (hr : (build h settings).outcome = .ok r) :
    (∀ x spec s, r.textualDatabases.get? x = some spec →
      (schemaOf r (.text x)).outcome = .ok s →
      contains s x = true ∧ contains s spec.columnType = true ∧
        contains s (toString spec.columnLength) = true ∧ isBlank s = false) ∧
    (∀ v s, (schemaOf r v).outcome = .ok s → isBlank s = false) ∧
    ∀ v x, (Plan.build r v).outcome ≠ .error (.value (.sqlRequired x)) :=
  ⟨fun _ _ _ hspec hs => parts_of_schemaOf hr hspec hs, fun _ _ hs => not_blank_of_schemaOf hr hs,
    fun _ _ => build_ne_sqlRequired hr⟩

/-- In the folder with odd identifiers there is a textual database with a schema. -/
theorem schema_has_substance_stray :
    ∃ r, (build strayHost ⟨strayHost.bundled, true⟩).outcome = .ok r ∧
      (schemaOf r (.text "b")).outcome = .ok "b c 8" ∧
      contains "b c 8" "b" = true ∧ contains "b c 8" (toString 8) = true ∧
      ∀ v x, (Plan.build r v).outcome ≠ .error (.value (.sqlRequired x)) := by
  obtain ⟨r, hr, -, hentries, hb⟩ := exists_schema_strayHost
  obtain ⟨htextual, -, hplans⟩ := schema_has_substance hr
  have hspec : r.textualDatabases.get? "b" = some ⟨"c", 8⟩ := by
    rw [Listing.get?_eq_some_iff, hentries]
    decide
  obtain ⟨hname, -, hlength, -⟩ := htextual "b" _ _ hspec hb
  exact ⟨r, hr, hb, hname, hlength, hplans⟩

end Registry

end SchemaDepot
