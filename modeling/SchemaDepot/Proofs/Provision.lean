/-
# What can be provided

A fixed database of a registry can always be provided: its schema was read when the
registry was built. The schema of a textual database is made when it is asked for, and
only then it turns out whether the identifier is blank, whether the length can be
written, and whether a token stands in the text that is made. A database for which none
of this goes wrong fits (`Registry.Fits`). Building does not ask for it, so a plan for
everything can be made exactly when all textual databases happen to fit
(`exists_plan_iff_fits`).

Only the text that is made has to be looked at for tokens. No token of textual columns
ends as one begins, so every value is a part of that text, and what stands in a value
stands there too.

Key definitions: `Scheme.textualText`, `Registry.Fits`.
Key theorems: `Scheme.textualColumns_outcome_eq_ok_iff`, `Registry.exists_provision_iff_fits`,
`Registry.exists_plan_iff_fits`.
-/
import SchemaDepot.Proofs.Bundle
import SchemaDepot.Proofs.Identifier
import SchemaDepot.Proofs.Plan
import SchemaDepot.Proofs.Scheme
import SchemaDepot.Proofs.Template.Ambiguity

namespace SchemaDepot

open Text

namespace Scheme

variable {r : Registry} {t : Template} {x : String} {spec : ColumnSpec}

/-! ### Schemas of textual databases -/

/-- The values a textual database puts into its template. -/
def valuesOf (x : String) (spec : ColumnSpec) : Template.Substitutions :=
  textualValues (.text x) (.text spec.columnType) (String.ofList (Decimal.chars spec.columnLength))

/-- The text a template is made into for a textual database, whatever stands in it. -/
def textualText (t : Template) (x : String) (spec : ColumnSpec) : String :=
  t.filled (valuesOf x spec)

theorem lengthText_eq_ok_iff {n : Nat} {s : String} :
    lengthText (.int n) = .ok s ↔
      1 ≤ n ∧ n < tenTo Decimal.digitLimit ∧ s = String.ofList (Decimal.chars n) :=
  positiveText_eq_ok_iff

theorem mem_keys_valuesOf {y : String} :
    y ∈ (valuesOf x spec).keys ↔ y ∈ Registry.textualTokens := by
  rw [valuesOf, textualValues, Listing.mem_keys_ofList, Registry.textualTokens, TextSet.mem_ofList]
  rfl

theorem exists_get?_valuesOf {y : String} (hy : y ∈ Registry.textualTokens) :
    ∃ s, (valuesOf x spec).get? y = some (.text s) := by
  obtain ⟨v, hv⟩ := Listing.exists_get?_of_mem_keys (mem_keys_valuesOf.mpr hy)
  have hmem := Listing.mem_of_get?_ofList hv
  simp only [List.mem_cons, Prod.mk.injEq, List.not_mem_nil, or_false] at hmem
  rcases hmem with ⟨-, rfl⟩ | ⟨-, rfl⟩ | ⟨-, rfl⟩
  all_goals exact ⟨_, hv⟩

theorem replacesAll_of_textualTokens (ht : t.tokens = Registry.textualTokens) : t.ReplacesAll := by
  rw [Template.replacesAll_iff_not_fused, ht]
  exact Bundle.overlapFree_textualTokens.not_fused _

/-- A template with the tokens of textual columns is made into a text exactly when no
token stands in that text. -/
theorem outcome_valuesOf_eq_ok_iff (ht : t.tokens = Registry.textualTokens) {strict : Bool}
    {s : String} :
    t.outcome (valuesOf x spec) strict = .ok s ↔
      (∀ y ∈ Registry.textualTokens, contains (textualText t x spec) y = false) ∧
        textualText t x spec = s := by
  have hdeclared : (t.undeclared (valuesOf x spec)).isEmpty = true := by
    rw [TextSet.isEmpty_iff]
    intro y hy
    obtain ⟨hname, hout⟩ := TextSet.mem_difference.mp hy
    exact hout (ht ▸ mem_keys_valuesOf.mp (Listing.mem_keySet.mp hname))
  have htexts : ∀ y ∈ t.tokens, ∃ s, (valuesOf x spec).get? y = some (.text s) := by
    rw [ht]
    exact fun y hy => exists_get?_valuesOf hy
  rw [(replacesAll_of_textualTokens ht).outcome_eq_ok_iff hdeclared htexts, ht]
  rfl

/-- Whatever a textual database puts into its template is a part of its schema. -/
theorem infix_textualText_of_get? (ht : t.tokens = Registry.textualTokens) {y v : String}
    (hget : (valuesOf x spec).get? y = some (.text v)) :
    v.toList <:+: (textualText t x spec).toList := by
  have hy : y ∈ t.tokens := ht ▸ mem_keys_valuesOf.mp (Listing.mem_keys_of_get? hget)
  exact (replacesAll_of_textualTokens ht).infix_filled hy hget

theorem infix_textualText (ht : t.tokens = Registry.textualTokens) :
    x.toList <:+: (textualText t x spec).toList := by
  refine infix_textualText_of_get? ht (y := Registry.databaseToken) ?_
  rw [valuesOf, textualValues, Listing.get?_ofList]
  rfl

theorem checkTextual_eq_ok (hx : isBlank x = false) {columnType : String}
    (htype : isBlank columnType = false) :
    checkTextual (.text x) (.text columnType) = .ok () := by
  have hne : ∀ {s : String}, isBlank s = false → s ≠ "" := by
    rintro s hs rfl
    cases hs
  rw [checkTextual, require_text (hne hx)]
  exact require_text (hne htype)

theorem render_outcome {name : String} (hnamed : r.templates.named name = .ok t)
    (given : Template.Substitutions) :
    (r.render name given).outcome = t.outcome given r.templates.strict := by
  unfold Registry.render TemplateSet.render
  rw [hnamed]
  rfl

/-- The schema of a textual database is made exactly when its length can be written and
no token stands in it. -/
theorem textualColumns_outcome_eq_ok_iff (hx : isBlank x = false)
    (htype : isBlank spec.columnType = false)
    (hnamed : r.templates.named r.textualTemplate = .ok t)
    (ht : t.tokens = Registry.textualTokens) {s : String} :
    (textualColumns r (.text x) (.text spec.columnType) (.int spec.columnLength)).outcome = .ok s ↔
      (1 ≤ spec.columnLength ∧ spec.columnLength < tenTo Decimal.digitLimit) ∧
        (∀ y ∈ Registry.textualTokens, contains (textualText t x spec) y = false) ∧
        textualText t x spec = s := by
  unfold textualColumns
  simp only [Run.bind_outcome_eq_ok_iff, checkTextual_eq_ok hx htype]
  rw [← outcome_valuesOf_eq_ok_iff ht, ← render_outcome hnamed]
  constructor
  · rintro ⟨-, -, length, hlength, hs⟩
    obtain ⟨hpos, hlt, rfl⟩ := lengthText_eq_ok_iff.mp hlength
    exact ⟨⟨hpos, hlt⟩, hs⟩
  · rintro ⟨⟨hpos, hlt⟩, hs⟩
    exact ⟨(), rfl, _, lengthText_eq_ok_iff.mpr ⟨hpos, hlt, rfl⟩, hs⟩

end Scheme

namespace Registry

variable {h : Host} {settings : Settings} {m : Manifest} {r : Registry} {x : String}
  {spec : ColumnSpec}

/-- A textual database that can be provided. -/
structure Fits (r : Registry) (x : String) (spec : ColumnSpec) : Prop where
  not_blank : isBlank x = false
  length_lt : spec.columnLength < tenTo Decimal.digitLimit
  clear : ∃ t, r.templates.named r.textualTemplate = .ok t ∧
    ∀ y ∈ textualTokens, contains (Scheme.textualText t x spec) y = false

/-! ### Single databases -/

/-- Where there are textual databases, their template is there and has their tokens. -/
theorem exists_textualTemplate (hm : ofManifest h settings m = .ok r)
    (hspec : r.textualDatabases.get? x = some spec) :
    ∃ t, r.templates.named r.textualTemplate = .ok t ∧ t.tokens = textualTokens := by
  obtain ⟨-, -, -, hcheck, hdatabases, htemplate, -⟩ := ofManifest_eq_ok_iff.mp hm
  have hsize : m.textualDatabases.size ≠ 0 := by
    rw [← hdatabases]
    have hmem := Listing.get?_eq_some_iff.mp hspec
    exact Nat.ne_of_gt (List.length_pos_iff.mpr (List.ne_nil_of_mem hmem))
  obtain ⟨t, ht, htokens⟩ := (checkTextual_eq_ok_iff.mp hcheck).2 hsize
  exact ⟨t, TemplateSet.named_eq_ok_iff.mpr (htemplate ▸ ht), htokens⟩

theorem mem_provisionable_of_textual (hspec : r.textualDatabases.get? x = some spec) :
    x ∈ r.provisionable :=
  TextSet.mem_union.mpr (Or.inr (Listing.mem_keySet.mpr (Listing.mem_keys_of_get? hspec)))

section

variable (hregular : m.Regular) (hm : ofManifest h settings m = .ok r)
include hregular hm

/-- A textual database is provided exactly when it fits. -/
theorem exists_provision_iff_fits (hspec : r.textualDatabases.get? x = some spec) :
    (∃ p, (Plan.provision r x).outcome = .ok p) ↔ r.Fits x spec := by
  have hserves := serves_of_ofManifest hregular hm
  obtain ⟨t, hnamed, ht⟩ := exists_textualTemplate hm hspec
  obtain ⟨-, htype, hpos⟩ := hserves.columns _ (Listing.get?_eq_some_iff.mp hspec)
  have hschema : Scheme.schemaNamed r x = Scheme.textualColumns r (.text x)
      (.text spec.columnType) (.int spec.columnLength) := by
    rw [Scheme.schemaNamed, hspec]
  simp only [Plan.provision_outcome_eq_ok_iff, hschema]
  constructor
  · rintro ⟨p, hp, hx, -⟩
    obtain ⟨⟨-, hlt⟩, hclear, -⟩ :=
      (Scheme.textualColumns_outcome_eq_ok_iff hx htype hnamed ht).mp hp
    exact ⟨hx, hlt, t, hnamed, hclear⟩
  · rintro ⟨hx, hlt, t', hnamed', hclear⟩
    cases hnamed.symm.trans hnamed'
    refine ⟨⟨x, Scheme.textualText t x spec, false⟩, ?_, hx, ?_, rfl, rfl⟩
    · exact (Scheme.textualColumns_outcome_eq_ok_iff hx htype hnamed ht).mpr
        ⟨⟨hpos, hlt⟩, hclear, rfl⟩
    · exact not_blank_of_infix (Scheme.infix_textualText ht) hx

/-- What a fixed database needs to be provided. -/
theorem exists_schema_of_fixed (hx : x ∈ r.catalogue.identifiers) :
    ∃ s, r.catalogue.schema x = .ok s ∧ isBlank x = false ∧ isBlank s = false := by
  obtain ⟨s, hs⟩ := Listing.exists_get?_of_mem_keys (Catalogue.mem_identifiers.mp hx)
  have hschema := Catalogue.schema_eq_ok_iff.mpr hs
  exact ⟨s, hschema, Catalogue.not_blank_of_isIdentifier (isIdentifier_of_ofManifest hm hx),
    (serves_of_ofManifest hregular hm).schema_not_blank x s hschema⟩

theorem exists_provision_of_fixed (hx : x ∈ r.catalogue.identifiers) :
    ∃ p, (Plan.provision r x).outcome = .ok p := by
  obtain ⟨s, hs, hblank, hsblank⟩ := exists_schema_of_fixed hregular hm hx
  have hnone : r.textualDatabases.get? x = none :=
    Listing.get?_eq_none ((serves_of_ofManifest hregular hm).apart x hx)
  refine ⟨⟨x, s, false⟩, Plan.provision_outcome_eq_ok_iff.mpr ⟨?_, hblank, hsblank, rfl, rfl⟩⟩
  rw [Scheme.schemaNamed, hnone]
  exact hs

theorem exists_sentinelProvision : ∃ p, Plan.sentinelProvision r = .ok p := by
  obtain ⟨s, hs, hblank, hsblank⟩ := exists_schema_of_fixed hregular hm
    (serves_of_ofManifest hregular hm).sentinel_fixed
  exact ⟨⟨_, s, true⟩, Plan.sentinelProvision_eq_ok_iff.mpr ⟨hs, hblank, hsblank, rfl, rfl⟩⟩

end

theorem exists_sentinelProvision_of_build (hr : (build h settings).outcome = .ok r) :
    ∃ p, Plan.sentinelProvision r = .ok p := by
  obtain ⟨m, hregular, hm, -⟩ := exists_serves_of_build hr
  exact exists_sentinelProvision hregular hm

/-! ### Plans -/

/-- A plan for identifiers that can be provided is made exactly when the textual databases
among them fit. -/
theorem exists_ofSet_iff_fits (hr : (build h settings).outcome = .ok r) {wanted : TextSet}
    (hknown : ∀ x ∈ wanted, x ∈ r.provisionable) :
    (∃ p, (Plan.ofSet r wanted).outcome = .ok p) ↔
      ∀ x ∈ wanted, ∀ spec, r.textualDatabases.get? x = some spec → r.Fits x spec := by
  obtain ⟨m, hregular, hm, hserves⟩ := exists_serves_of_build hr
  rw [Plan.exists_ofSet_iff]
  constructor
  · rintro ⟨-, hall, -⟩ x hx spec hspec
    have hne : x ≠ r.catalogue.sentinel := fun hsame =>
      hserves.sentinel_not_textual (hsame ▸ Listing.mem_keys_of_get? hspec)
    exact (exists_provision_iff_fits hregular hm hspec).mp (hall x hx hne)
  · intro hfits
    refine ⟨hknown, fun x hx _ => ?_, exists_sentinelProvision hregular hm⟩
    rcases (hserves.provisionable x).mp (hknown x hx) with hfixed | hkey
    · exact exists_provision_of_fixed hregular hm hfixed
    · obtain ⟨spec, hspec⟩ := Listing.exists_get?_of_mem_keys hkey
      exact (exists_provision_iff_fits hregular hm hspec).mpr (hfits x hx spec hspec)

theorem exists_build_null_iff_fits (hr : (build h settings).outcome = .ok r) :
    (∃ p, (Plan.build r .null).outcome = .ok p) ↔
      ∀ e ∈ r.textualDatabases.entries, r.Fits e.1 e.2 := by
  change (∃ p, (Plan.ofSet r r.provisionable).outcome = .ok p) ↔ _
  rw [exists_ofSet_iff_fits hr fun x hx => hx]
  constructor
  · intro hall e he
    have hspec := Listing.get?_eq_some_iff.mpr he
    exact hall e.1 (mem_provisionable_of_textual hspec) e.2 hspec
  · intro hall x _ spec hspec
    exact hall (x, spec) (Listing.get?_eq_some_iff.mp hspec)

/-- Where a plan is made, each of its databases is provided, the sentinel as well. -/
theorem exists_provision_of_ofSet (hr : (build h settings).outcome = .ok r) {wanted : TextSet}
    (hplan : ∃ p, (Plan.ofSet r wanted).outcome = .ok p) (hx : x ∈ wanted) :
    ∃ p, (Plan.provision r x).outcome = .ok p := by
  obtain ⟨m, hregular, hm, hserves⟩ := exists_serves_of_build hr
  by_cases hsentinel : x = r.catalogue.sentinel
  · exact exists_provision_of_fixed hregular hm (hsentinel ▸ hserves.sentinel_fixed)
  · exact (Plan.exists_ofSet_iff.mp hplan).2.1 x hx hsentinel

/-- **When everything can be provided.** In a registry that was built, a plan for known
identifiers can be made exactly when the textual databases among them fit, so one for
everything exactly when all of them do; and then everything has a schema. -/
theorem exists_plan_iff_fits (hr : (build h settings).outcome = .ok r) :
    (∀ wanted : TextSet, (∀ x ∈ wanted, x ∈ r.provisionable) →
      ((∃ p, (Plan.ofSet r wanted).outcome = .ok p) ↔
        ∀ x ∈ wanted, ∀ spec, r.textualDatabases.get? x = some spec → r.Fits x spec)) ∧
    ((∃ p, (Plan.build r .null).outcome = .ok p) ↔
      ∀ e ∈ r.textualDatabases.entries, r.Fits e.1 e.2) ∧
    ∀ p, (Plan.build r .null).outcome = .ok p →
      ∀ x ∈ r.provisionable, ∃ s, (Scheme.schemaOf r (.text x)).outcome = .ok s := by
  refine ⟨fun wanted hwanted => exists_ofSet_iff_fits hr hwanted, exists_build_null_iff_fits hr, ?_⟩
  intro p hp x hx
  obtain ⟨q, hq⟩ := exists_provision_of_ofSet hr ⟨p, hp⟩ hx
  exact ⟨q.schema, (Plan.provision_outcome_eq_ok_iff.mp hq).1⟩

/-- Of the two textual databases of the folder with odd identifiers one fits. -/
theorem fits_strayHost :
    ∃ r, (build strayHost ⟨strayHost.bundled, true⟩).outcome = .ok r ∧
      r.textualDatabases.entries = [("b", ⟨"c", 8⟩), ("COLUMN_TYPE", ⟨"c", 8⟩)] ∧
      r.Fits "b" ⟨"c", 8⟩ ∧ ¬ r.Fits "COLUMN_TYPE" ⟨"c", 8⟩ := by
  obtain ⟨r, hr, -, hentries, t, hnamed, htext, ht⟩ := exists_build_strayHost
  have hb : Scheme.textualText t "b" ⟨"c", 8⟩ = "b c 8" := by
    apply String.toList_injective
    rw [Scheme.textualText, Template.toList_filled_eq_scan, htext, ht]
    decide +kernel
  refine ⟨r, hr, hentries, ⟨by decide, by decide +kernel, t, hnamed, ?_⟩, ?_⟩
  · rw [hb]
    decide
  · rintro ⟨-, -, t', hnamed', hclear⟩
    cases hnamed.symm.trans hnamed'
    have hin : contains (Scheme.textualText t "COLUMN_TYPE" ⟨"c", 8⟩) "COLUMN_TYPE" = true :=
      contains_eq_true_iff.mpr (Scheme.infix_textualText ht)
    rw [hclear "COLUMN_TYPE" (by decide)] at hin
    cases hin

/-- In that folder a plan can be made for the database that fits, but not for everything. -/
theorem exists_plan_iff_fits_stray :
    ∃ r, (build strayHost ⟨strayHost.bundled, true⟩).outcome = .ok r ∧
      (∃ p, (Plan.ofSet r (.ofList ["b"])).outcome = .ok p) ∧
      ¬ ∃ p, (Plan.build r .null).outcome = .ok p := by
  obtain ⟨r, hr, hentries, hb, hnot⟩ := fits_strayHost
  obtain ⟨hsets, hall, -⟩ := exists_plan_iff_fits hr
  have hspec : r.textualDatabases.get? "b" = some ⟨"c", 8⟩ := by
    rw [Listing.get?_eq_some_iff, hentries]
    decide
  refine ⟨r, hr, (hsets _ ?_).mpr ?_, fun hplan => ?_⟩
  · intro x hx
    obtain rfl := List.mem_singleton.mp (TextSet.mem_ofList.mp hx)
    exact mem_provisionable_of_textual hspec
  · intro x hx spec hget
    obtain rfl := List.mem_singleton.mp (TextSet.mem_ofList.mp hx)
    cases hspec.symm.trans hget
    exact hb
  · have hfits := hall.mp hplan
    rw [hentries] at hfits
    exact hnot (hfits ("COLUMN_TYPE", ⟨"c", 8⟩) (by decide))

/-- A registry can be built, with short columns only, that has no plan for everything. -/
theorem stray_registry_has_no_plan :
    ∃ r, (build strayHost ⟨strayHost.bundled, true⟩).outcome = .ok r ∧
      (∀ e ∈ r.textualDatabases.entries, e.2.columnLength < tenTo Decimal.digitLimit) ∧
      ¬ ∃ p, (Plan.build r .null).outcome = .ok p := by
  obtain ⟨r, hr, hentries, -, hnot⟩ := fits_strayHost
  refine ⟨r, hr, ?_, fun hplan => ?_⟩
  · rw [hentries]
    decide +kernel
  · have hfits := (exists_build_null_iff_fits hr).mp hplan
    rw [hentries] at hfits
    exact hnot (hfits ("COLUMN_TYPE", ⟨"c", 8⟩) (by decide))

end Registry

end SchemaDepot
