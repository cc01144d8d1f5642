/-
# Why a schema is not made

The schema of a fixed database is the text that was read when the registry was built. The
schema of a textual database is made when it is asked for, and what building has checked
leaves few ways to fail: the template is there, it has the tokens the values are for, and
the column type and the length are given. So the identifier is empty, or a value holds one
of the tokens, or a token stands in the text that the values were put into
(`Scheme.Declines`). The error names the tokens of its reason; the length of the columns,
being a row of digits, is never one of them unless it stands in the text that was made.

Key definitions: `Scheme.HoldsToken`, `Scheme.Declines`.
Key theorems: `Scheme.textualColumns_outcome`, `Scheme.unfit_valuesOf_iff`,
`Scheme.outcome_valuesOf_eq_error_iff`, `Registry.schemaOf_outcome_iff`.
-/
import SchemaDepot.Proofs.Provision
import SchemaDepot.Proofs.Template.Refusal

namespace SchemaDepot

open Text

namespace Scheme

variable {r : Registry} {t : Template} {x y s : String} {spec : ColumnSpec} {e : Error}

/-- The text holds one of the tokens of textual columns. -/
def HoldsToken (s : String) : Prop := ∃ y ∈ Registry.textualTokens, contains s y = true

/-- Why the schema of a textual database is not made. Each reason presupposes that those
before it are not there, and its error has all tokens it is about. -/
inductive Declines (t : Template) (x : String) (spec : ColumnSpec) : Error → Prop
  /-- The identifier is empty. -/
  | empty (hx : x = "") : Declines t x spec (.value (.required "database"))
  /-- The identifier or the column type holds a token; these two are named by theirs. -/
  | held {names : TextSet} (hx : x ≠ "")
      (hnames : ∀ y, y ∈ names ↔ (y = Registry.databaseToken ∧ HoldsToken x) ∨
        (y = Registry.columnTypeToken ∧ HoldsToken spec.columnType))
      (hsome : HoldsToken x ∨ HoldsToken spec.columnType) :
      Declines t x spec (.substitution .invalid t.name names)
  /-- Neither does, but tokens stand in the text they were put into. -/
  | formed {names : TextSet} {text : String} (hx : x ≠ "") (hdatabase : ¬ HoldsToken x)
      (htype : ¬ HoldsToken spec.columnType) (hfills : t.Fills (valuesOf x spec) text)
      (hnames : ∀ y, y ∈ names ↔ y ∈ Registry.textualTokens ∧ contains text y = true)
      (hsome : HoldsToken text) : Declines t x spec (.substitution .invalid t.name names)

/-! ### What the values hold -/

theorem not_holdsToken_of_digits (hs : ∀ c ∈ s.toList, isAsciiDigit c = true) :
    ¬ HoldsToken s := by
  have hunderscore : ∀ y ∈ Registry.textualTokens, '_' ∈ y.toList := by
    intro y hy
    have hy' : y ∈ [Registry.databaseToken, Registry.columnTypeToken,
        Registry.columnLengthToken] := TextSet.mem_ofList.mp hy
    revert y
    decide
  intro ⟨y, hy, hin⟩
  have hmem : '_' ∈ s.toList := (contains_eq_true_iff.mp hin).subset (hunderscore y hy)
  have hdigit : isAsciiDigit '_' = true := hs _ hmem
  exact absurd hdigit (by decide)

theorem get?_valuesOf {v : Value} : (valuesOf x spec).get? y = some v ↔
    (y = Registry.databaseToken ∧ v = .text x) ∨
      (y = Registry.columnTypeToken ∧ v = .text spec.columnType) ∨
      (y = Registry.columnLengthToken ∧
        v = .text (String.ofList (Decimal.chars spec.columnLength))) := by
  constructor
  · intro hget
    have hmem := Listing.mem_of_get?_ofList hget
    simpa using hmem
  · intro hv
    refine Listing.get?_ofList_of_nodup ?_ (by simpa using hv)
    change [Registry.databaseToken, Registry.columnTypeToken, Registry.columnLengthToken].Nodup
    decide

/-- What is given is unfit exactly for the identifier and the column type, where they hold a
token. -/
theorem unfit_valuesOf_iff (ht : t.tokens = Registry.textualTokens) :
    t.Unfit (valuesOf x spec) y ↔ (y = Registry.databaseToken ∧ HoldsToken x) ∨
      (y = Registry.columnTypeToken ∧ HoldsToken spec.columnType) := by
  have hdigits : ¬ HoldsToken (String.ofList (Decimal.chars spec.columnLength)) := by
    apply not_holdsToken_of_digits
    rw [String.toList_ofList]
    exact fun c => Decimal.isAsciiDigit_of_mem_chars
  have htext : ∀ s, (∀ s', Value.text s = .text s' → ∃ y ∈ t.tokens, contains s' y = true) ↔
      HoldsToken s := by
    intro s
    simp [HoldsToken, ht]
  unfold Template.Unfit
  simp only [get?_valuesOf]
  constructor
  · rintro ⟨v, ⟨hy, rfl⟩ | ⟨hy, rfl⟩ | ⟨-, rfl⟩, hheld⟩
    · exact Or.inl ⟨hy, (htext _).mp hheld⟩
    · exact Or.inr ⟨hy, (htext _).mp hheld⟩
    · exact absurd ((htext _).mp hheld) hdigits
  · rintro (⟨hy, hheld⟩ | ⟨hy, hheld⟩)
    · exact ⟨_, Or.inl ⟨hy, rfl⟩, (htext _).mpr hheld⟩
    · exact ⟨_, Or.inr (Or.inl ⟨hy, rfl⟩), (htext _).mpr hheld⟩

theorem admits_valuesOf (ht : t.tokens = Registry.textualTokens) {strict : Bool} :
    t.Admits (valuesOf x spec) strict where
  complete _ hy := mem_keys_valuesOf.mpr (ht ▸ hy)
  declared _ _ hy := ht ▸ mem_keys_valuesOf.mp hy

/-! ### When a textual schema is made -/

theorem forall_not_unfit_valuesOf_iff (ht : t.tokens = Registry.textualTokens) :
    (∀ y ∈ t.tokens, ¬ t.Unfit (valuesOf x spec) y) ↔
      ¬ HoldsToken x ∧ ¬ HoldsToken spec.columnType := by
  simp only [unfit_valuesOf_iff ht, ht]
  constructor
  · intro h
    have hdatabase := h Registry.databaseToken (by decide)
    have htype := h Registry.columnTypeToken (by decide)
    exact ⟨fun hx => hdatabase (Or.inl ⟨rfl, hx⟩), fun hc => htype (Or.inr ⟨rfl, hc⟩)⟩
  · intro ⟨hdatabase, htype⟩ y _ hunfit
    rcases hunfit with ⟨-, hx⟩ | ⟨-, hc⟩
    · exact hdatabase hx
    · exact htype hc

/-- The values of a textual database are refused for the reasons there are. -/
theorem outcome_valuesOf_eq_error_iff (ht : t.tokens = Registry.textualTokens) (hx : x ≠ "")
    {strict : Bool} : t.outcome (valuesOf x spec) strict = .error e ↔ Declines t x spec e := by
  have hunfit : ∀ y, y ∈ t.tokens ∧ t.Unfit (valuesOf x spec) y ↔
      (y = Registry.databaseToken ∧ HoldsToken x) ∨
        (y = Registry.columnTypeToken ∧ HoldsToken spec.columnType) := by
    intro y
    rw [unfit_valuesOf_iff ht, ht, and_iff_right_iff_imp]
    rintro (⟨rfl, -⟩ | ⟨rfl, -⟩)
    · decide
    · decide
  have hadmits : t.Admits (valuesOf x spec) strict := admits_valuesOf ht
  rw [Template.outcome_eq_error_iff]
  constructor
  · rintro (⟨hnames, hsome⟩ | ⟨-, hstrict, hnames, hsome⟩ | ⟨-, hnames, hsome⟩ |
      ⟨-, hfit, hfills, hnames, hsome⟩)
    · obtain ⟨y, hy⟩ := hsome
      exact absurd (hadmits.complete y ((hnames y).mp hy).1) ((hnames y).mp hy).2
    · obtain ⟨y, hy⟩ := hsome
      exact absurd (hadmits.declared hstrict y ((hnames y).mp hy).1) ((hnames y).mp hy).2
    · have hheld := fun y => (hnames y).trans (hunfit y)
      obtain ⟨y, hy⟩ := hsome
      exact .held hx hheld (((hheld y).mp hy).imp And.right And.right)
    · obtain ⟨hdatabase, htype⟩ := (forall_not_unfit_valuesOf_iff ht).mp hfit
      rw [ht] at hnames
      obtain ⟨y, hy⟩ := hsome
      exact .formed hx hdatabase htype hfills hnames ⟨y, (hnames y).mp hy⟩
  · rintro (hempty | ⟨-, hnames, hsome⟩ | ⟨-, hdatabase, htype, hfills, hnames, hsome⟩)
    · exact absurd hempty hx
    · refine .value hadmits (fun y => (hnames y).trans (hunfit y).symm) ?_
      rcases hsome with hheld | hheld
      · exact ⟨_, (hnames _).mpr (Or.inl ⟨rfl, hheld⟩)⟩
      · exact ⟨_, (hnames _).mpr (Or.inr ⟨rfl, hheld⟩)⟩
    · have hfit := (forall_not_unfit_valuesOf_iff ht).mpr ⟨hdatabase, htype⟩
      obtain ⟨y, hy⟩ := hsome
      exact .leftover hadmits hfit hfills (ht ▸ hnames) ⟨y, (hnames y).mpr hy⟩

/-- With a name, a type and a length that can be written, the schema is what the template is
made into. -/
theorem textualColumns_outcome (hx : x ≠ "") (htype : spec.columnType ≠ "")
    (hpos : 1 ≤ spec.columnLength) (hlt : spec.columnLength < tenTo Decimal.digitLimit)
    (hnamed : r.templates.named r.textualTemplate = .ok t) :
    (textualColumns r (.text x) (.text spec.columnType) (.int spec.columnLength)).outcome =
      t.outcome (valuesOf x spec) r.templates.strict := by
  have hcheck : checkTextual (.text x) (.text spec.columnType) = .ok () := by
    rw [checkTextual, require_text hx]
    exact require_text htype
  have hlength : lengthText (.int spec.columnLength) =
      .ok (String.ofList (Decimal.chars spec.columnLength)) :=
    lengthText_eq_ok_iff.mpr ⟨hpos, hlt, rfl⟩
  rw [textualColumns, Run.outcome_bind, Run.ofExcept, hcheck, Outcome.ok_bind, Run.outcome_bind,
    Run.ofExcept, hlength, Outcome.ok_bind]
  exact render_outcome hnamed _

theorem textualColumns_empty {columnType columnLength : Value} :
    (textualColumns r (.text "") columnType columnLength).outcome =
      .error (.value (.required "database")) := rfl

section

variable (htype : spec.columnType ≠ "") (hpos : 1 ≤ spec.columnLength)
  (hlt : spec.columnLength < tenTo Decimal.digitLimit)
  (hnamed : r.templates.named r.textualTemplate = .ok t) (ht : t.tokens = Registry.textualTokens)
include htype hpos hlt hnamed ht

/-- The schema of a textual database is not made for the reasons there are, and for no
other. -/
theorem textualColumns_outcome_eq_error_iff :
    (textualColumns r (.text x) (.text spec.columnType) (.int spec.columnLength)).outcome =
      .error e ↔ Declines t x spec e := by
  by_cases hx : x = ""
  · subst hx
    rw [textualColumns_empty]
    constructor
    · intro he
      cases he
      exact .empty rfl
    · rintro (- | ⟨hx, -, -⟩ | ⟨hx, -, -, -, -, -⟩)
      · rfl
      · exact absurd rfl hx
      · exact absurd rfl hx
  · rw [textualColumns_outcome hx htype hpos hlt hnamed]
    exact outcome_valuesOf_eq_error_iff ht hx

/-- The schema is made in all other cases: where there is a name and no token stands in the
name, in the type or in the text they are put into. -/
theorem textualColumns_outcome_eq_ok_iff_fills :
    (textualColumns r (.text x) (.text spec.columnType) (.int spec.columnLength)).outcome =
      .ok s ↔ x ≠ "" ∧ ¬ HoldsToken x ∧ ¬ HoldsToken spec.columnType ∧
        t.Fills (valuesOf x spec) s ∧ ¬ HoldsToken s := by
  by_cases hx : x = ""
  · subst hx
    rw [textualColumns_empty]
    simp
  · have hclear : (∀ y ∈ t.tokens, contains s y = false) ↔ ¬ HoldsToken s := by
      simp [HoldsToken, ht]
    rw [textualColumns_outcome hx htype hpos hlt hnamed, Template.outcome_eq_ok_iff_fills,
      forall_not_unfit_valuesOf_iff ht, hclear]
    simp [admits_valuesOf ht, hx, and_assoc]

end

end Scheme

namespace Registry

open Scheme

variable {h : Host} {settings : Settings} {r : Registry} {x : String}

theorem schemaOf_fixed (hx : x ∉ r.textualDatabases.keys) {text : String}
    (hschema : r.catalogue.schema x = .ok text) : schemaOf r (.text x) = pure text := by
  change schemaNamed r x = _
  rw [schemaNamed, Listing.get?_eq_none hx, hschema]
  rfl

theorem schemaOf_textual {spec : ColumnSpec} (hspec : r.textualDatabases.get? x = some spec) :
    schemaOf r (.text x) =
      textualColumns r (.text x) (.text spec.columnType) (.int spec.columnLength) := by
  change schemaNamed r x = _
  rw [schemaNamed, hspec]

/-- **When a schema is made.** In a registry that was built, strict or not, a fixed database
has the text of its file. A textual one, whose length can be written, has a template with the
three tokens; its schema is not made for exactly the reasons there are, and otherwise it is
the template filled with its values. -/
theorem schema_declined_exactly (hr : (build h settings).outcome = .ok r) :
    ∃ m, (Manifest.load h settings.manifestPath).outcome = .ok m ∧
    (∀ x ∈ r.catalogue.identifiers, ∃ path text, m.fixed.get? x = some path ∧
      h.readSchema path = .ok text ∧ schemaOf r (.text x) = pure text) ∧
    ∀ x spec, r.textualDatabases.get? x = some spec →
      spec.columnLength < tenTo Decimal.digitLimit →
      ∃ t, r.templates.named r.textualTemplate = .ok t ∧ t.name = r.textualTemplate ∧
        t.tokens = textualTokens ∧
        (∀ e, (schemaOf r (.text x)).outcome = .error e ↔ Declines t x spec e) ∧
        ∀ s, (schemaOf r (.text x)).outcome = .ok s ↔
          x ≠ "" ∧ ¬ HoldsToken x ∧ ¬ HoldsToken spec.columnType ∧
            t.Fills (valuesOf x spec) s ∧ ¬ HoldsToken s := by
  obtain ⟨m, hload, hm⟩ := build_outcome_eq_ok_iff.mp hr
  have hregular := Manifest.regular_of_load hload
  have hserves := serves_of_ofManifest hregular hm
  refine ⟨m, hload, fun x hx => ?_, fun x spec hspec hlt => ?_⟩
  · obtain ⟨text, hschema, -, -⟩ := exists_schema_of_fixed hregular hm hx
    obtain ⟨path, hpath, hread⟩ := (hserves.schema x text).mp hschema
    exact ⟨path, text, hpath, hread, schemaOf_fixed (hserves.apart x hx) hschema⟩
  · obtain ⟨t, hnamed, ht⟩ := exists_textualTemplate hm hspec
    obtain ⟨-, -, -, hname, -⟩ := hserves.template _ t hnamed
    obtain ⟨-, htype, hpos⟩ := hserves.columns _ (Listing.get?_eq_some_iff.mp hspec)
    have htype' : spec.columnType ≠ "" := by
      intro hempty
      rw [hempty] at htype
      cases htype
    rw [schemaOf_textual hspec]
    exact ⟨t, hnamed, hname, ht,
      fun e => textualColumns_outcome_eq_error_iff htype' hpos hlt hnamed ht,
      fun s => textualColumns_outcome_eq_ok_iff_fills htype' hpos hlt hnamed ht⟩

theorem exists_schema_strayHost :
    ∃ r, (build strayHost ⟨strayHost.bundled, true⟩).outcome = .ok r ∧
      r.catalogue.identifiers.toList = ["a", "a\n"] ∧
      r.textualDatabases.entries = [("b", ⟨"c", 8⟩), ("COLUMN_TYPE", ⟨"c", 8⟩)] ∧
      (schemaOf r (.text "b")).outcome = .ok "b c 8" := by
  obtain ⟨r, hr, hidentifiers, hentries, t, hnamed, htext, ht⟩ := exists_build_strayHost
  have hspec : r.textualDatabases.get? "b" = some ⟨"c", 8⟩ := by
    rw [Listing.get?_eq_some_iff, hentries]
    decide
  have hfills : t.Fills (valuesOf "b" ⟨"c", 8⟩) "b c 8" := by
    refine (Template.fills_iff fun y hy => exists_get?_valuesOf (ht ▸ hy)).mpr ?_
    apply String.toList_injective
    rw [Template.toList_filled_eq_scan, htext, ht]
    decide +kernel
  have hclear : ¬ HoldsToken "b" ∧ ¬ HoldsToken "c" ∧ ¬ HoldsToken "b c 8" := by
    unfold HoldsToken
    simp only [TextSet.mem_def]
    decide
  refine ⟨r, hr, hidentifiers, hentries, ?_⟩
  rw [schemaOf_textual hspec]
  refine (textualColumns_outcome_eq_ok_iff_fills (by decide) (by decide) (by decide +kernel) hnamed
    ht).mpr ?_
  exact ⟨by decide, hclear.1, hclear.2.1, hfills, hclear.2.2⟩

/-- In that folder the fixed database has a schema as well. The other textual database is named
like a token; its error names the token it was put in for. -/
theorem schema_declined_exactly_stray :
    ∃ r, (build strayHost ⟨strayHost.bundled, true⟩).outcome = .ok r ∧
      (∃ text, schemaOf r (.text "a") = pure text) ∧
      8 < tenTo Decimal.digitLimit ∧
      (schemaOf r (.text "b")).outcome = .ok "b c 8" ∧
      (schemaOf r (.text "COLUMN_TYPE")).outcome =
        .error (.substitution .invalid r.textualTemplate (.ofList ["DATABASE_NAME"])) := by
  obtain ⟨r, hr, hidentifiers, hentries, hb⟩ := exists_schema_strayHost
  obtain ⟨m, -, hfixed, htextual⟩ := schema_declined_exactly hr
  have ha : "a" ∈ r.catalogue.identifiers := by
    rw [TextSet.mem_def, hidentifiers]
    decide
  obtain ⟨path, text, -, -, hschema⟩ := hfixed "a" ha
  have hlt : 8 < tenTo Decimal.digitLimit := by decide +kernel
  have hspec : r.textualDatabases.get? "COLUMN_TYPE" = some ⟨"c", 8⟩ := by
    rw [Listing.get?_eq_some_iff, hentries]
    decide
  obtain ⟨t, -, hname, -, herror, -⟩ := htextual _ _ hspec hlt
  refine ⟨r, hr, ⟨text, hschema⟩, hlt, hb, ?_⟩
  have hheld : HoldsToken "COLUMN_TYPE" := ⟨columnTypeToken, by decide, by decide⟩
  have hclear : ¬ HoldsToken "c" := by
    unfold HoldsToken
    simp only [TextSet.mem_def]
    decide
  rw [herror, ← hname]
  refine .held (by decide) (fun y => ?_) (Or.inl hheld)
  simp [TextSet.mem_ofList, hheld, hclear, databaseToken]

end Registry

end SchemaDepot
