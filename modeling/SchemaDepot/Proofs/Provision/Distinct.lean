/-
# What schemas tell apart

A rendered text tells the value of each token that is replaced in it, where the other values are
known. Every token of textual columns is replaced, and so is a token that is alone. So the
benchmark database has another schema for every length, if the length is all its template asks
for; and two textual databases with the same columns have different schemas
(`Registry.schemas_tell_apart`).

Key definition: `Scheme.valueOfLength`.
Key theorems: `Scheme.benchmark_outcome_eq_ok_iff`, `Scheme.benchmark_eq_iff`,
`Scheme.textualColumns_eq_iff`, `Registry.schemas_tell_apart`.
-/
import SchemaDepot.Proofs.Provision.Substance
import SchemaDepot.Proofs.Template.Injectivity

namespace SchemaDepot

open Text

namespace Scheme

variable {r : Registry} {t : Template} {x x' s s' : String} {spec : ColumnSpec} {v v' : Value}

/-! ### The benchmark database -/

/-- The value the benchmark database puts into its template. -/
def valueOfLength (n : Nat) : Template.Substitutions :=
  .ofList [(Registry.columnLengthToken, .text (String.ofList (Decimal.chars n)))]

/-- The benchmark database is rendered from its length, which is a number above zero that is not
too long. -/
theorem benchmark_outcome_eq_ok_iff (hnamed : r.templates.named benchmarkTemplate = .ok t) :
    (benchmark r v).outcome = .ok s ↔ ∃ n : Nat, v = .int n ∧ 1 ≤ n ∧
      n < tenTo Decimal.digitLimit ∧ t.outcome (valueOfLength n) r.templates.strict = .ok s := by
  unfold benchmark
  rw [Run.bind_outcome_eq_ok_iff]
  constructor
  · rintro ⟨length, hlength, hs⟩
    obtain ⟨n, rfl⟩ := exists_nat_of_positiveText hlength
    obtain ⟨hpos, hlt, rfl⟩ := lengthText_eq_ok_iff.mp hlength
    rw [render_outcome hnamed] at hs
    exact ⟨n, rfl, hpos, hlt, hs⟩
  · rintro ⟨n, rfl, hpos, hlt, hs⟩
    rw [← render_outcome hnamed] at hs
    exact ⟨_, lengthText_eq_ok_iff.mpr ⟨hpos, hlt, rfl⟩, hs⟩

section

variable (ht : t.tokens = .ofList [Registry.columnLengthToken])
include ht

theorem replacesAll_of_columnLength : t.ReplacesAll := by
  have hfree : OverlapFree (Template.wordsOf t.tokens) := by
    have halone : OverlapFree ([Registry.columnLengthToken].map String.toList) := by decide
    rw [ht]
    exact halone.mono fun w => Template.mem_wordsOf_ofList.mp
  exact t.replacesAll_iff_not_fused.mpr (hfree.not_fused _)

theorem outcome_valueOfLength_eq_ok_iff {strict : Bool} {n : Nat} :
    t.outcome (valueOfLength n) strict = .ok s ↔
      (∀ y ∈ t.tokens, contains (t.filled (valueOfLength n)) y = false) ∧
        t.filled (valueOfLength n) = s := by
  have hkeys : ∀ y, y ∈ (valueOfLength n).keys ↔ y ∈ t.tokens := by
    intro y
    rw [valueOfLength, Listing.mem_keys_ofList, ht, TextSet.mem_ofList]
    rfl
  refine (replacesAll_of_columnLength ht).outcome_eq_ok_iff ?_ fun y hy => ?_
  · exact Template.isEmpty_undeclared_iff.mpr fun y hy => (hkeys y).mp hy
  · rw [ht, TextSet.mem_ofList, List.mem_singleton] at hy
    rw [hy, valueOfLength, Listing.get?_ofList]
    exact ⟨_, rfl⟩

theorem benchmark_of_filled (hnamed : r.templates.named benchmarkTemplate = .ok t) {n : Nat}
    (hpos : 1 ≤ n) (hlt : n < tenTo Decimal.digitLimit)
    (hfilled : (t.filled (valueOfLength n)).toList = s.toList)
    (hclear : ∀ y ∈ t.tokens, contains s y = false) :
    (benchmark r (.int n)).outcome = .ok s := by
  have hs : t.filled (valueOfLength n) = s := String.toList_injective hfilled
  refine (benchmark_outcome_eq_ok_iff hnamed).mpr ⟨n, rfl, hpos, hlt, ?_⟩
  exact (outcome_valueOfLength_eq_ok_iff ht).mpr ⟨by rwa [hs], hs⟩

/-- Where the benchmark template has the length as its only token, its schema tells the
length. -/
theorem benchmark_eq_iff (hnamed : r.templates.named benchmarkTemplate = .ok t)
    (h : (benchmark r v).outcome = .ok s) (h' : (benchmark r v').outcome = .ok s') :
    s = s' ↔ v = v' := by
  obtain ⟨n, rfl, -, -, hs⟩ := (benchmark_outcome_eq_ok_iff hnamed).mp h
  obtain ⟨n', rfl, -, -, hs'⟩ := (benchmark_outcome_eq_ok_iff hnamed).mp h'
  obtain ⟨m, hm⟩ := (replacesAll_of_columnLength ht).inserted Registry.columnLengthToken (by
    rw [ht]
    decide)
  have hothers : ∀ y ∈ t.tokens, y ≠ Registry.columnLengthToken →
      (valueOfLength n).get? y = (valueOfLength n').get? y := by
    intro y hy hne
    rw [ht, TextSet.mem_ofList, List.mem_singleton] at hy
    exact absurd hy hne
  have hvalue : ∀ k, (valueOfLength k).get? Registry.columnLengthToken =
      some (.text (String.ofList (Decimal.chars k))) := by
    intro k
    rw [valueOfLength, Listing.get?_ofList]
    rfl
  rw [Template.render_eq_iff_value_eq hm hs hs' hothers, hvalue, hvalue, Option.some.injEq,
    Value.text.injEq, Value.int.injEq]
  constructor
  · intro hsame
    have hchars : Decimal.chars n = Decimal.chars n' := String.ofList_injective hsame
    rw [Decimal.chars_natCast_inj hchars]
  · intro hsame
    rw [hsame]

end

/-! ### Textual databases -/

theorem outcome_valuesOf_of_filled (ht : t.tokens = Registry.textualTokens) {strict : Bool}
    (hfilled : (t.filled (valuesOf x spec)).toList = s.toList)
    (hclear : ∀ y ∈ Registry.textualTokens, contains s y = false) :
    t.outcome (valuesOf x spec) strict = .ok s := by
  have hs : textualText t x spec = s := String.toList_injective hfilled
  exact (outcome_valuesOf_eq_ok_iff ht).mpr ⟨by rwa [hs], hs⟩

theorem exists_hasAt_databaseToken (ht : t.tokens = Registry.textualTokens) :
    ∃ n, t.cut.HasAt Registry.databaseToken.toList n := by
  refine (replacesAll_of_textualTokens ht).inserted _ ?_
  rw [ht]
  decide

/-- Databases with the same columns are given the same for all tokens but that of the name. -/
theorem get?_valuesOf_congr {y : String} (hy : y ≠ Registry.databaseToken) :
    (valuesOf x spec).get? y = (valuesOf x' spec).get? y := by
  refine Option.ext fun v => ?_
  simp only [get?_valuesOf, hy, false_and, false_or]

/-- Two textual databases with the same columns have the same schema only if they are the
same. -/
theorem textualColumns_eq_iff (hnamed : r.templates.named r.textualTemplate = .ok t)
    (ht : t.tokens = Registry.textualTokens)
    (h : (textualColumns r (.text x) (.text spec.columnType) (.int spec.columnLength)).outcome =
      .ok s)
    (h' : (textualColumns r (.text x') (.text spec.columnType) (.int spec.columnLength)).outcome =
      .ok s') : s = s' ↔ x = x' := by
  obtain ⟨n, hn⟩ := exists_hasAt_databaseToken ht
  have hs := outcome_valuesOf_of_outcome hnamed h
  have hs' := outcome_valuesOf_of_outcome hnamed h'
  have hvalue : ∀ x, (valuesOf x spec).get? Registry.databaseToken = some (.text x) := fun x =>
    get?_valuesOf.mpr (Or.inl ⟨rfl, rfl⟩)
  rw [Template.render_eq_iff_value_eq hn hs hs' fun y _ => get?_valuesOf_congr, hvalue, hvalue,
    Option.some.injEq, Value.text.injEq]

end Scheme

namespace Registry

open Scheme

/-- **What schemas tell apart.** Two texts rendered from one template, with values that agree on
all its tokens but one which is replaced somewhere, are the same exactly when its values are. So
the benchmark database has different schemas for different lengths if its template has no other
token, and in a registry that was built two textual databases with the same columns have
different schemas. -/
theorem schemas_tell_apart :
    (∀ (t : Template) (x : String) (n : Nat), t.cut.HasAt x.toList n →
      ∀ (given given' : Template.Substitutions) (strict strict' : Bool) (s s' : String),
        (t.render given strict).outcome = .ok s → (t.render given' strict').outcome = .ok s' →
        (∀ y ∈ t.tokens, y ≠ x → given.get? y = given'.get? y) →
        (s = s' ↔ given.get? x = given'.get? x)) ∧
    (∀ (r : Registry) (t : Template), r.templates.named benchmarkTemplate = .ok t →
      t.tokens = .ofList [columnLengthToken] →
      ∀ v v' s s', (benchmark r v).outcome = .ok s → (benchmark r v').outcome = .ok s' →
        (s = s' ↔ v = v')) ∧
    ∀ (h : Host) (settings : Settings) (r : Registry), (build h settings).outcome = .ok r →
      ∀ x x' spec s s', r.textualDatabases.get? x = some spec →
        r.textualDatabases.get? x' = some spec →
        (schemaOf r (.text x)).outcome = .ok s → (schemaOf r (.text x')).outcome = .ok s' →
        (s = s' ↔ x = x') := by
  refine ⟨fun t x n hn given given' strict strict' s s' hs hs' hothers =>
      Template.render_eq_iff_value_eq hn hs hs' hothers,
    fun r t hnamed ht v v' s s' hs hs' => benchmark_eq_iff ht hnamed hs hs', ?_⟩
  intro h settings r hr x x' spec s s' hspec hspec' hs hs'
  obtain ⟨m, -, hm⟩ := build_outcome_eq_ok_iff.mp hr
  obtain ⟨t, hnamed, ht⟩ := exists_textualTemplate hm hspec
  rw [schemaOf_textual hspec] at hs
  rw [schemaOf_textual hspec'] at hs'
  exact textualColumns_eq_iff hnamed ht hs hs'

/-- A folder with two textual databases that have the same columns, and with a template of the
benchmark database that has the length only. -/
def twinHost : Host where
  tree := (((Tree.empty.write ["r", "testdbs.yaml"] (
    "sentinel: a\nfixed: \x7ba: f\x7d\n" ++
    "dynamic: \x7bbenchmark: \x7bpath: n, tokens: [COLUMN_LENGTH]\x7d, " ++
    "t: \x7bpath: t, tokens: [DATABASE_NAME, COLUMN_TYPE, COLUMN_LENGTH]\x7d\x7d\n" ++
    "textual_columns: \x7btemplate: t, databases: " ++
    "\x7bb: \x7bcolumn_type: c, column_length: 8\x7d, " ++
    "d: \x7bcolumn_type: c, column_length: 8\x7d\x7d\x7d\n").toUTF8).write
    ["r", "f"] "F;".toUTF8).write ["r", "n"] "N(COLUMN_LENGTH);".toUTF8).write
    ["r", "t"] "DATABASE_NAME COLUMN_TYPE COLUMN_LENGTH".toUTF8
  workingFolder := []
  home := ⟨.top, []⟩
  bundled := ⟨.top, ["r"]⟩
  environment := []

set_option maxRecDepth 100000 in
theorem exists_build_twinHost :
    ∃ r t u, (build twinHost ⟨twinHost.bundled, true⟩).outcome = .ok r ∧
      r.textualDatabases.entries = [("b", ⟨"c", 8⟩), ("d", ⟨"c", 8⟩)] ∧
      r.templates.named r.textualTemplate = .ok t ∧
      t.text = "DATABASE_NAME COLUMN_TYPE COLUMN_LENGTH" ∧ t.tokens = textualTokens ∧
      r.templates.named benchmarkTemplate = .ok u ∧
      u.text = "N(COLUMN_LENGTH);" ∧ u.tokens = .ofList [columnLengthToken] := by
  have hbuilt : (build twinHost ⟨twinHost.bundled, true⟩).outcome.toOption.map (fun r =>
      (r.textualDatabases.entries,
        (r.templates.named r.textualTemplate).toOption.map (fun t => (t.text, t.tokens.toList)),
        (r.templates.named benchmarkTemplate).toOption.map fun t => (t.text, t.tokens.toList))) =
      some ([("b", ⟨"c", 8⟩), ("d", ⟨"c", 8⟩)],
        some ("DATABASE_NAME COLUMN_TYPE COLUMN_LENGTH", textualTokens.toList),
        some ("N(COLUMN_LENGTH);", ["COLUMN_LENGTH"])) := by
    rw [toOption_build (h := twinHost) rfl ?hreturn]
    case hreturn =>
      simp only [String.toList_append, String.reduceToList]
      decide
    simp only [String.toList_append, String.reduceToList, List.cons_append, List.nil_append]
    decide +kernel
  obtain ⟨r, hr, hparts⟩ := Option.map_eq_some_iff.mp hbuilt
  simp only [Prod.mk.injEq, Option.map_eq_some_iff] at hparts
  obtain ⟨hentries, ⟨t, ht, htext, htokens⟩, u, hu, hutext, hutokens⟩ := hparts
  exact ⟨r, t, u, Outcome.eq_ok_of_toOption hr, hentries, Outcome.eq_ok_of_toOption ht, htext,
    TextSet.toList_injective htokens, Outcome.eq_ok_of_toOption hu, hutext,
    TextSet.toList_injective hutokens⟩

/-- Both textual databases of that folder have a schema, and so has the benchmark database with
columns of two lengths. -/
theorem exists_schemas_twinHost :
    ∃ (r : Registry) (t u : Template), (build twinHost ⟨twinHost.bundled, true⟩).outcome = .ok r ∧
      r.textualDatabases.get? "b" = some ⟨"c", 8⟩ ∧ r.textualDatabases.get? "d" = some ⟨"c", 8⟩ ∧
      t.tokens = textualTokens ∧
      (∀ strict, t.outcome (valuesOf "b" ⟨"c", 8⟩) strict = .ok "b c 8" ∧
        t.outcome (valuesOf "d" ⟨"c", 8⟩) strict = .ok "d c 8") ∧
      (schemaOf r (.text "b")).outcome = .ok "b c 8" ∧
      (schemaOf r (.text "d")).outcome = .ok "d c 8" ∧
      r.templates.named benchmarkTemplate = .ok u ∧ u.tokens = .ofList [columnLengthToken] ∧
      (benchmark r (.int 8)).outcome = .ok "N(8);" ∧
      (benchmark r (.int 16)).outcome = .ok "N(16);" := by
  obtain ⟨r, t, u, hr, hentries, hnamed, htext, ht, hbenchmark, hutext, hu⟩ :=
    exists_build_twinHost
  have hspec : ∀ x ∈ ["b", "d"], r.textualDatabases.get? x = some ⟨"c", 8⟩ := by
    intro x hx
    rw [Listing.get?_eq_some_iff, hentries]
    revert x
    decide
  have hb : ∀ strict, t.outcome (valuesOf "b" ⟨"c", 8⟩) strict = .ok "b c 8" := by
    refine fun strict => outcome_valuesOf_of_filled ht ?_ (by simp only [TextSet.mem_def]; decide)
    rw [Template.toList_filled_eq_scan, htext, ht]
    decide +kernel
  have hd : ∀ strict, t.outcome (valuesOf "d" ⟨"c", 8⟩) strict = .ok "d c 8" := by
    refine fun strict => outcome_valuesOf_of_filled ht ?_ (by simp only [TextSet.mem_def]; decide)
    rw [Template.toList_filled_eq_scan, htext, ht]
    decide +kernel
  have hschema : ∀ {x s}, x ∈ ["b", "d"] → x ≠ "" →
      (∀ strict, t.outcome (valuesOf x ⟨"c", 8⟩) strict = .ok s) →
      (schemaOf r (.text x)).outcome = .ok s := by
    intro x s hx hne hs
    rw [schemaOf_textual (hspec x hx),
      textualColumns_outcome hne (by decide) (by decide) (by decide +kernel) hnamed]
    exact hs _
  refine ⟨r, t, u, hr, hspec "b" (by decide), hspec "d" (by decide), ht,
    fun strict => ⟨hb strict, hd strict⟩, hschema (by decide) (by decide) hb,
    hschema (by decide) (by decide) hd, hbenchmark, hu, ?_, ?_⟩
  · refine benchmark_of_filled hu hbenchmark (n := 8) (by decide) (by decide +kernel) ?_
      (by simp only [hu, TextSet.mem_def]; decide)
    rw [Template.toList_filled_eq_scan, hutext, hu]
    decide +kernel
  · refine benchmark_of_filled hu hbenchmark (n := 16) (by decide) (by decide +kernel) ?_
      (by simp only [hu, TextSet.mem_def]; decide)
    rw [Template.toList_filled_eq_scan, hutext, hu]
    decide +kernel

/-- In that folder the two textual databases have different schemas, and the two lengths give
different ones, because names and lengths differ. -/
theorem schemas_tell_apart_twin :
    ∃ (r : Registry) (t : Template), (build twinHost ⟨twinHost.bundled, true⟩).outcome = .ok r ∧
      (t.render (valuesOf "b" ⟨"c", 8⟩) true).outcome = .ok "b c 8" ∧
      (t.render (valuesOf "d" ⟨"c", 8⟩) false).outcome = .ok "d c 8" ∧
      ("b c 8" = "d c 8" ↔ (valuesOf "b" ⟨"c", 8⟩).get? databaseToken =
        (valuesOf "d" ⟨"c", 8⟩).get? databaseToken) ∧
      (benchmark r (.int 8)).outcome = .ok "N(8);" ∧
      (benchmark r (.int 16)).outcome = .ok "N(16);" ∧
      ("N(8);" = "N(16);" ↔ Value.int 8 = .int 16) ∧
      (schemaOf r (.text "b")).outcome = .ok "b c 8" ∧
      (schemaOf r (.text "d")).outcome = .ok "d c 8" ∧
      ("b c 8" = "d c 8" ↔ "b" = "d") := by
  obtain ⟨r, t, u, hr, hspecb, hspecd, ht, hrendered, hb, hd, hnamed, hu, h8, h16⟩ :=
    exists_schemas_twinHost
  obtain ⟨htexts, hlengths, htextual⟩ := schemas_tell_apart
  obtain ⟨n, hn⟩ := exists_hasAt_databaseToken ht
  have hvalues := htexts t _ n hn _ _ true false _ _ (hrendered true).1 (hrendered false).2
    fun y _ => get?_valuesOf_congr
  exact ⟨r, t, hr, (hrendered true).1, (hrendered false).2, hvalues, h8, h16,
    hlengths r u hnamed hu _ _ _ _ h8 h16, hb, hd,
    htextual _ _ r hr _ _ _ _ _ hspecb hspecd hb hd⟩

end Registry

end SchemaDepot
