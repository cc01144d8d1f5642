/-
# What planning logs

A plan is logged when it is there, with the number of its entries. Before that each textual
database leaves one record behind, because its schema is rendered anew; a fixed database
leaves none. So what a plan logs can be told from its identifiers (`Registry.trace`).

A request that names an unknown database logs nothing. Where a database cannot be provided, the
textual ones before it have been logged, and it has been itself only if its schema was made and
its name is of blanks alone (`Registry.Stops`). There is nothing that planning warns of: the
template of the textual databases declares the three tokens for which values are given.

Key definitions: `Registry.textualRecord`, `Registry.trace`, `Registry.Stops`.
Key theorems: `Registry.provision_records_of_ok`, `Registry.stops_of_provision`,
`Registry.provisions_records_of_ok`, `Registry.of_provisions_eq_error`, `Registry.planning_is_logged`.
-/
import SchemaDepot.Proofs.Outcome.Records
import SchemaDepot.Proofs.Provision.Distinct
import SchemaDepot.Proofs.Provision.Substance

namespace SchemaDepot

open Text

namespace Log

theorem fieldText?_eq_some {f : Field} (h : f.2.text ≠ "") :
    fieldText? f = some (f.1 ++ "=" ++ f.2.text) := by
  rw [fieldText?, if_neg (by rwa [String.isEmpty_iff])]

theorem line_pair (message : String) {f g : Field} (hf : f.2.text ≠ "") (hg : g.2.text ≠ "") :
    line message [f, g] =
      message ++ " " ++ (f.1 ++ "=" ++ f.2.text ++ " " ++ (g.1 ++ "=" ++ g.2.text)) := by
  have hfields : fieldsText [f, g] =
      f.1 ++ "=" ++ f.2.text ++ " " ++ (g.1 ++ "=" ++ g.2.text) := by
    simp only [fieldsText, List.filterMap_cons, List.filterMap_nil, fieldText?_eq_some hf,
      fieldText?_eq_some hg]
    rfl
  have hsome : ¬ (fieldsText [f, g]).isEmpty = true := by
    rw [hfields, String.isEmpty_iff]
    intro hempty
    have hlist := congrArg String.toList hempty
    simp at hlist
  rw [line, if_neg hsome, hfields]

theorem text_ofNat (name : String) (n : Nat) : (ofNat name n).2.text = toString n := by
  refine trim_of_forall_not_blank fun c hc => Catalogue.not_isBlankChar ?_
  rw [Nat.toString_eq_ofList_toDigits, String.toList_ofList] at hc
  have hdigit : isAsciiDigit c = true := Nat.isDigit_of_mem_toDigits (by decide) (by decide) hc
  exact Catalogue.isIdentifierChar_iff.mpr (Or.inr (Or.inl (isAsciiDigit_iff.mp hdigit)))

end Log

namespace Template

variable {t : Template} {given : Substitutions} {strict : Bool}

/-- Where nothing but tokens is given, rendering logs its success and nothing else. -/
theorem render_logsSuccess (hgiven : ∀ x ∈ given.keys, x ∈ t.tokens) (htokens : ∃ x, x ∈ t.tokens) :
    (t.render given strict).LogsSuccess t.renderedRecord := by
  have hundeclared := isEmpty_undeclared_iff.mpr hgiven
  have hsome := TextSet.isEmpty_eq_false_iff.mpr htokens
  simp [Run.LogsSuccess, render, records, hundeclared, hsome]

end Template

namespace Scheme

variable {r : Registry} {t : Template} {x : String} {spec : ColumnSpec}

theorem textualColumns_logsSuccess (hnamed : r.templates.named r.textualTemplate = .ok t)
    (ht : t.tokens = Registry.textualTokens) :
    (textualColumns r (.text x) (.text spec.columnType) (.int spec.columnLength)).LogsSuccess
      t.renderedRecord := by
  refine .after fun _ _ => .after fun length hlength => ?_
  obtain ⟨-, -, rfl⟩ := lengthText_eq_ok_iff.mp hlength
  change (r.render r.textualTemplate (valuesOf x spec)).LogsSuccess _
  rw [Registry.render, TemplateSet.render, hnamed]
  exact Template.render_logsSuccess (fun y hy => ht ▸ mem_keys_valuesOf.mp hy)
    ⟨Registry.databaseToken, ht ▸ by decide⟩

end Scheme

namespace Registry

open Scheme

variable {h : Host} {settings : Settings} {r : Registry} {x : String} {xs : List String} {e : Error}

/-! ### Records of single databases -/

/-- The record of a textual database whose schema was made. -/
def textualRecord (r : Registry) : Log.Record :=
  ⟨.debug, .templates, Log.line "testdbs.template_rendered"
    [Log.ofText "template" r.textualTemplate, ("tokens", .many textualTokens.toList)]⟩

/-- The records of databases whose schemas were made, one for each textual one. -/
def trace (r : Registry) (xs : List String) : List Log.Record :=
  (xs.filter fun x => r.textualDatabases.has x).map fun _ => r.textualRecord

theorem trace_append (xs ys : List String) : r.trace (xs ++ ys) = r.trace xs ++ r.trace ys := by
  rw [trace, List.filter_append, List.map_append, trace, trace]

theorem trace_cons (x : String) (xs : List String) : r.trace (x :: xs) = r.trace [x] ++ r.trace xs :=
  trace_append [x] xs

theorem trace_textual (hx : x ∈ r.textualDatabases.keys) : r.trace [x] = [r.textualRecord] := by
  rw [trace, List.filter_cons_of_pos (Listing.has_eq_true_iff_mem.mpr hx)]
  rfl

theorem trace_not_textual (hx : x ∉ r.textualDatabases.keys) : r.trace [x] = [] := by
  rw [trace, List.filter_cons_of_neg (by rwa [Listing.has_eq_true_iff_mem])]
  rfl

theorem eq_textualRecord_of_mem_trace {record : Log.Record} (h : record ∈ r.trace xs) :
    record = r.textualRecord := by
  obtain ⟨x, -, rfl⟩ := List.mem_map.mp h
  rfl

theorem provision_records : (Plan.provision r x).records = (schemaNamed r x).records :=
  Run.records_bind_ofExcept _ _

/-- The schema of a textual database is logged if it is made. -/
theorem schemaNamed_logsSuccess (hr : (build h settings).outcome = .ok r)
    (hx : x ∈ r.textualDatabases.keys) : (schemaNamed r x).LogsSuccess r.textualRecord := by
  obtain ⟨m, -, hm, hserves⟩ := exists_serves_of_build hr
  obtain ⟨spec, hspec⟩ := Listing.exists_get?_of_mem_keys hx
  obtain ⟨t, hnamed, ht⟩ := exists_textualTemplate hm hspec
  obtain ⟨-, -, -, hname, -⟩ := hserves.template _ t hnamed
  have hrecord : t.renderedRecord = r.textualRecord := by
    rw [Template.renderedRecord, Template.record, hname, ht]
    rfl
  rw [schemaNamed, hspec, ← hrecord]
  exact textualColumns_logsSuccess hnamed ht

theorem schemaNamed_records_of_not_textual (hx : x ∉ r.textualDatabases.keys) :
    (schemaNamed r x).records = [] := by
  rw [schemaNamed, Listing.get?_eq_none hx]
  rfl

/-- What is provided leaves one record behind if it is textual, and none otherwise. -/
theorem provision_records_of_ok (hr : (build h settings).outcome = .ok r) {p : Provision}
    (hp : (Plan.provision r x).outcome = .ok p) : (Plan.provision r x).records = r.trace [x] := by
  rw [provision_records]
  by_cases hx : x ∈ r.textualDatabases.keys
  · obtain ⟨hschema, -⟩ := Plan.provision_outcome_eq_ok_iff.mp hp
    rw [trace_textual hx, (schemaNamed_logsSuccess hr hx).records_of_ok hschema]
  · rw [trace_not_textual hx, schemaNamed_records_of_not_textual hx]

/-- How a database is not provided, and what is logged of it. -/
inductive Stops (r : Registry) (x : String) (e : Error) : List Log.Record → Prop
  /-- Its schema is not made. -/
  | unmade (hschema : (schemaOf r (.text x)).outcome = .error e) : Stops r x e []
  /-- Its schema is made, and then its name is refused, which has blanks alone. -/
  | blank (hschema : ∃ s, (schemaOf r (.text x)).outcome = .ok s) (hne : x ≠ "")
      (hblank : isBlank x = true) (he : e = .value (.required "ProvisionSpec.identifier")) :
      Stops r x e [r.textualRecord]

theorem Stops.eq_textualRecord_of_mem {own : List Log.Record} (h : r.Stops x e own)
    {record : Log.Record} (hmem : record ∈ own) : record = r.textualRecord := by
  cases h with
  | unmade => cases hmem
  | blank => exact List.mem_singleton.mp hmem

/-- Only a textual database is not provided, and that in one of two ways. -/
theorem stops_of_provision (hr : (build h settings).outcome = .ok r) (hx : x ∈ r.provisionable)
    (he : (Plan.provision r x).outcome = .error e) :
    x ∈ r.textualDatabases.keys ∧ r.Stops x e (Plan.provision r x).records := by
  obtain ⟨m, hregular, hm, hserves⟩ := exists_serves_of_build hr
  have htextual : x ∈ r.textualDatabases.keys := by
    obtain hfixed | hkey := (hserves.provisionable x).mp hx
    · obtain ⟨p, hp⟩ := exists_provision_of_fixed hregular hm hfixed
      rw [hp] at he
      cases he
    · exact hkey
  have hlogs := schemaNamed_logsSuccess hr htextual
  refine ⟨htextual, ?_⟩
  rw [provision_records]
  obtain hschema | ⟨s, hs, hmake⟩ := Run.bind_outcome_eq_error_iff.mp he
  · rw [hlogs.records_of_error hschema]
    exact .unmade hschema
  · rw [hlogs.records_of_ok hs]
    have hsubstance : isBlank s = false := not_blank_of_schemaOf hr (v := .text x) hs
    obtain ⟨hblank, rfl⟩ | ⟨-, hsblank, -⟩ := Provision.make_eq_error_iff.mp hmake
    · refine .blank ⟨s, hs⟩ ?_ hblank rfl
      rintro rfl
      obtain ⟨spec, hspec⟩ := Listing.exists_get?_of_mem_keys htextual
      rw [schemaNamed, hspec, textualColumns_empty] at hs
      cases hs
    · rw [hsubstance] at hsblank
      cases hsblank

/-! ### Records of several databases -/

/-- Databases that are provided leave their records behind in order. -/
theorem provisions_records_of_ok (hr : (build h settings).outcome = .ok r) {ps : List Provision}
    (hps : (Plan.provisions r xs).outcome = .ok ps) : (Plan.provisions r xs).records = r.trace xs := by
  induction xs generalizing ps with
  | nil => rfl
  | cons x xs ih =>
    obtain ⟨p, rest, hp, hrest, rfl⟩ := Plan.provisions_cons_eq_ok_iff.mp hps
    rw [Plan.provisions, Run.records_bind_of_ok hp, Run.records_bind_of_ok hrest,
      provision_records_of_ok hr hp, ih hrest, trace_cons x xs]
    exact congrArg _ (List.append_nil _)

/-- Where databases are not provided, all before the first that is not have left their records
behind, and it has left its own. -/
theorem of_provisions_eq_error (hr : (build h settings).outcome = .ok r)
    (he : (Plan.provisions r xs).outcome = .error e) :
    ∃ front x rest, xs = front ++ x :: rest ∧
      (∀ y ∈ front, ∃ p, (Plan.provision r y).outcome = .ok p) ∧
      (Plan.provision r x).outcome = .error e ∧
      (Plan.provisions r xs).records = r.trace front ++ (Plan.provision r x).records := by
  induction xs with
  | nil => cases he
  | cons x xs ih =>
    obtain hx | ⟨p, hp, he⟩ := Run.bind_outcome_eq_error_iff.mp he
    · refine ⟨[], x, xs, rfl, fun y hy => absurd hy List.not_mem_nil, hx, ?_⟩
      rw [Plan.provisions, Run.records_bind_of_error hx]
      rfl
    · obtain hrest | ⟨ps, -, he⟩ := Run.bind_outcome_eq_error_iff.mp he
      · obtain ⟨front, y, rest, rfl, hfront, hy, hrecords⟩ := ih hrest
        refine ⟨x :: front, y, rest, rfl, List.forall_mem_cons.mpr ⟨⟨p, hp⟩, hfront⟩, hy, ?_⟩
        rw [Plan.provisions, Run.records_bind_of_ok hp, Run.records_bind_of_error hrest, hrecords,
          provision_records_of_ok hr hp, trace_cons x front, List.append_assoc]
      · cases he

/-! ### Records of plans -/

section

variable (hr : (build h settings).outcome = .ok r) {wanted : TextSet}
include hr

/-- A plan logs its textual databases in order, and then itself. -/
theorem ofSet_records_of_ok {p : Plan} (hp : (Plan.ofSet r wanted).outcome = .ok p) :
    (Plan.ofSet r wanted).records =
      r.trace (p.map Provision.identifier) ++ [Plan.record r p] := by
  obtain ⟨m, -, -, hserves⟩ := exists_serves_of_build hr
  obtain ⟨hknown, ps, last, hps, hlast, rfl⟩ := Plan.ofSet_outcome_eq_ok_iff.mp hp
  obtain ⟨-, -, -, hidentifier, -⟩ := Plan.sentinelProvision_eq_ok_iff.mp hlast
  have htrace : r.trace ((ps ++ [last]).map Provision.identifier) =
      r.trace (Plan.others r wanted).toList := by
    rw [List.map_append, trace_append, List.map_singleton, hidentifier,
      trace_not_textual hserves.sentinel_not_textual, List.append_nil,
      (Plan.of_provisions_eq_ok hps).1]
  rw [Plan.ofSet_of_known (Plan.firstUnknown?_eq_none_iff.mpr hknown), Run.records_bind_of_ok hps,
    hlast, Run.ok_bind, provisions_records_of_ok hr hps, htrace]
  rfl

/-- A plan for known databases that is not made has logged the textual ones before the one that
is not provided. -/
theorem ofSet_records_of_error (hknown : ∀ x ∈ wanted, x ∈ r.provisionable)
    (he : (Plan.ofSet r wanted).outcome = .error e) :
    ∃ front x rest own, (Plan.others r wanted).toList = front ++ x :: rest ∧
      (∀ y ∈ front, ∃ p, (Plan.provision r y).outcome = .ok p) ∧
      (Plan.provision r x).outcome = .error e ∧ x ∈ r.textualDatabases.keys ∧ r.Stops x e own ∧
      (Plan.ofSet r wanted).records = r.trace front ++ own := by
  obtain ⟨last, hlast⟩ := exists_sentinelProvision_of_build hr
  have hset := Plan.ofSet_of_known (Plan.firstUnknown?_eq_none_iff.mpr hknown)
  rw [hset] at he ⊢
  obtain hothers | ⟨ps, -, he⟩ := Run.bind_outcome_eq_error_iff.mp he
  · obtain ⟨front, x, rest, hsplit, hfront, hx, hrecords⟩ := of_provisions_eq_error hr hothers
    have hmem : x ∈ Plan.others r wanted := by
      rw [TextSet.mem_def, hsplit]
      exact List.mem_append_right _ List.mem_cons_self
    obtain ⟨htextual, hstops⟩ :=
      stops_of_provision hr (hknown x (Plan.mem_others.mp hmem).1) hx
    refine ⟨front, x, rest, _, hsplit, hfront, hx, htextual, hstops, ?_⟩
    rw [Run.records_bind_of_error hothers, hrecords]
  · -- the sentinel is always provided
    rw [hlast] at he
    cases he

/-- What is logged for a request is of textual databases, or of the plan once it is made. -/
theorem mem_records_of_build {v : Value} {record : Log.Record}
    (hmem : record ∈ (Plan.build r v).records) : record = r.textualRecord ∨
      ∃ p, (Plan.build r v).outcome = .ok p ∧ record = Plan.record r p := by
  obtain ⟨wanted, hasks⟩ | ⟨e, hfail⟩ := Plan.asks_or_fail r v
  · rw [Plan.build_eq_ofSet hasks] at hmem ⊢
    cases hplan : (Plan.ofSet r wanted).outcome with
    | ok p =>
      rw [ofSet_records_of_ok hr hplan] at hmem
      obtain htrace | hlast := List.mem_append.mp hmem
      · exact Or.inl (eq_textualRecord_of_mem_trace htrace)
      · exact Or.inr ⟨p, rfl, List.mem_singleton.mp hlast⟩
    | error e =>
      cases hu : Plan.firstUnknown? r.provisionable wanted with
      | some x =>
        rw [Plan.ofSet_of_unknown hu] at hmem
        cases hmem
      | none =>
        obtain ⟨front, x, rest, own, -, -, -, -, hstops, hrecords⟩ :=
          ofSet_records_of_error hr (Plan.firstUnknown?_eq_none_iff.mp hu) hplan
        rw [hrecords] at hmem
        obtain htrace | hown := List.mem_append.mp hmem
        · exact Or.inl (eq_textualRecord_of_mem_trace htrace)
        · exact Or.inl (hstops.eq_textualRecord_of_mem hown)
  · rw [hfail] at hmem
    cases hmem

end

/-- The line of a plan has the number of its entries and the sentinel. -/
theorem text_record (hr : (build h settings).outcome = .ok r) (p : Plan) :
    (Plan.record r p).text = "testdbs.plan_built entries=" ++ toString p.length ++
      " sentinel=" ++ r.catalogue.sentinel := by
  obtain ⟨-, hblank, htrim⟩ := sentinel_mem_and_isTidy hr
  have hentries : (Log.ofNat "entries" p.length).2.text = toString p.length := Log.text_ofNat _ _
  have hsentinel : (Log.ofText "sentinel" r.catalogue.sentinel).2.text = r.catalogue.sentinel :=
    htrim
  rw [Plan.record, Log.line_pair _ ?_ ?_, hentries, hsentinel]
  · apply String.toList_injective
    simp [Log.ofNat, Log.ofText]
  · rw [hentries]
    exact ne_of_apply_ne String.toList (by simp)
  · rw [hsentinel]
    rintro hempty
    rw [hempty] at hblank
    cases hblank

/-- **What planning logs.** In a registry that was built, strict or not, a plan leaves one record
behind for each textual database in it, in the order of the plan, and then its own with the
number of its entries. An unknown identifier leaves none. Where a database is not provided, the
textual ones before it have left theirs, and it has left its own only if its schema was made and
its name is of blanks alone; the plan has left none. Nothing is ever warned of. -/
theorem planning_is_logged (hr : (build h settings).outcome = .ok r) (v : Value) :
    (∀ p, (Plan.build r v).outcome = .ok p →
      (Plan.build r v).records = r.trace (p.map Provision.identifier) ++ [Plan.record r p]) ∧
    (∀ wanted, Plan.Asks r v wanted → (∃ x ∈ wanted, x ∉ r.provisionable) →
      ∃ least ∈ wanted, least ∉ r.provisionable ∧
        Plan.build r v = .fail (.unknownIdentifier least)) ∧
    (∀ wanted e, Plan.Asks r v wanted → (∀ x ∈ wanted, x ∈ r.provisionable) →
      (Plan.build r v).outcome = .error e →
      ∃ front x rest own, (Plan.others r wanted).toList = front ++ x :: rest ∧
        (∀ y ∈ front, ∃ p, (Plan.provision r y).outcome = .ok p) ∧
        (Plan.provision r x).outcome = .error e ∧ x ∈ r.textualDatabases.keys ∧ r.Stops x e own ∧
        (Plan.build r v).records = r.trace front ++ own) ∧
    (∀ e, (Plan.build r v).outcome = .error e →
      ∀ record ∈ (Plan.build r v).records, ¬ record.Tells "testdbs.plan_built") ∧
    (∀ record ∈ (Plan.build r v).records, record.level ≠ .warning) ∧
    (r.textualRecord.level = .debug ∧ r.textualRecord.Tells "testdbs.template_rendered") ∧
    ∀ p, (Plan.record r p).level = .info ∧ (Plan.record r p).text =
      "testdbs.plan_built entries=" ++ toString p.length ++ " sentinel=" ++ r.catalogue.sentinel := by
  have htells : r.textualRecord.Tells "testdbs.template_rendered" := by
    simp only [Log.Record.Tells, textualRecord]
    exact Log.prefix_line _ _
  refine ⟨fun p hp => ?_, fun wanted hasks hunknown => ?_, fun wanted e hasks hknown he => ?_,
    fun e he record hmem => ?_, fun record hmem => ?_, ⟨rfl, htells⟩,
    fun p => ⟨rfl, text_record hr p⟩⟩
  · obtain ⟨wanted, hasks⟩ | ⟨e, hfail⟩ := Plan.asks_or_fail r v
    · rw [Plan.build_eq_ofSet hasks] at hp ⊢
      exact ofSet_records_of_ok hr hp
    · rw [hfail] at hp
      cases hp
  · rw [Plan.build_eq_ofSet hasks]
    cases hu : Plan.firstUnknown? r.provisionable wanted with
    | some least =>
      obtain ⟨hmem, hout, -⟩ := Plan.firstUnknown?_eq_some_iff.mp hu
      exact ⟨least, hmem, hout, Plan.ofSet_of_unknown hu⟩
    | none =>
      obtain ⟨x, hx, hout⟩ := hunknown
      exact absurd (Plan.firstUnknown?_eq_none_iff.mp hu x hx) hout
  · rw [Plan.build_eq_ofSet hasks] at he ⊢
    exact ofSet_records_of_error hr hknown he
  · obtain rfl | ⟨p, hp, -⟩ := mem_records_of_build hr hmem
    · exact htells.not_tells (by decide) (by decide)
    · rw [hp] at he
      cases he
  · obtain rfl | ⟨p, -, rfl⟩ := mem_records_of_build hr hmem
    · show Log.Level.debug ≠ .warning
      decide
    · show Log.Level.info ≠ .warning
      decide

/-- A folder with two textual databases, one of them named by a blank alone. -/
def blankHost : Host where
  tree := ((Tree.empty.write ["r", "testdbs.yaml"] (
    "sentinel: a\nfixed: \x7ba: f\x7d\n" ++
    "dynamic: \x7bt: \x7bpath: t, tokens: [DATABASE_NAME, COLUMN_TYPE, COLUMN_LENGTH]\x7d\x7d\n" ++
    "textual_columns: \x7btemplate: t, databases: " ++
    "\x7bb: \x7bcolumn_type: c, column_length: 8\x7d, " ++
    "\"\u3000\": \x7bcolumn_type: c, column_length: 8\x7d\x7d\x7d\n").toUTF8).write
    ["r", "f"] "F;".toUTF8).write ["r", "t"] "DATABASE_NAME COLUMN_TYPE COLUMN_LENGTH".toUTF8
  workingFolder := []
  home := ⟨.top, []⟩
  bundled := ⟨.top, ["r"]⟩
  environment := []

set_option maxRecDepth 100000 in
theorem exists_build_blankHost :
    ∃ r, (build blankHost ⟨blankHost.bundled, true⟩).outcome = .ok r ∧
      r.provisionable.toList = ["a", "b", "\u3000"] ∧ r.catalogue.sentinel = "a" ∧
      r.textualDatabases.entries = [("b", ⟨"c", 8⟩), ("\u3000", ⟨"c", 8⟩)] ∧
      ∃ t, r.templates.named r.textualTemplate = .ok t ∧
        t.text = "DATABASE_NAME COLUMN_TYPE COLUMN_LENGTH" ∧ t.tokens = textualTokens := by
  have hbuilt : (build blankHost ⟨blankHost.bundled, true⟩).outcome.toOption.map (fun r =>
      (r.catalogue.sentinel :: r.provisionable.toList, r.textualDatabases.entries,
        (r.templates.named r.textualTemplate).toOption.map fun t => (t.text, t.tokens.toList))) =
      some (["a", "a", "b", "\u3000"], [("b", ⟨"c", 8⟩), ("\u3000", ⟨"c", 8⟩)],
        some ("DATABASE_NAME COLUMN_TYPE COLUMN_LENGTH", textualTokens.toList)) := by
    rw [toOption_build (h := blankHost) rfl ?hreturn]
    case hreturn =>
      simp only [String.toList_append, String.reduceToList]
      decide
    simp only [String.toList_append, String.reduceToList, List.cons_append, List.nil_append]
    decide +kernel
  obtain ⟨r, hr, hparts⟩ := Option.map_eq_some_iff.mp hbuilt
  simp only [Prod.mk.injEq, List.cons.injEq, Option.map_eq_some_iff] at hparts
  obtain ⟨⟨hsentinel, hprovisionable⟩, hentries, t, ht, htext, htokens⟩ := hparts
  exact ⟨r, Outcome.eq_ok_of_toOption hr, hprovisionable, hsentinel, hentries, t,
    Outcome.eq_ok_of_toOption ht, htext, TextSet.toList_injective htokens⟩

/-- Both textual databases of that folder have a schema, but only one of them is provided. -/
theorem exists_schemas_blankHost :
    ∃ r, (build blankHost ⟨blankHost.bundled, true⟩).outcome = .ok r ∧
      r.provisionable = .ofList ["a", "b", "\u3000"] ∧ r.catalogue.sentinel = "a" ∧
      r.textualDatabases.keys = ["b", "\u3000"] ∧
      (schemaOf r (.text "\u3000")).outcome = .ok "\u3000 c 8" ∧
      (Plan.provision r "b").outcome = .ok ⟨"b", "b c 8", false⟩ := by
  obtain ⟨r, hr, hprovisionable, hsentinel, hentries, t, hnamed, htext, ht⟩ :=
    exists_build_blankHost
  have hspec : ∀ x ∈ ["b", "\u3000"], r.textualDatabases.get? x = some ⟨"c", 8⟩ := by
    intro x hx
    rw [Listing.get?_eq_some_iff, hentries]
    revert x
    decide
  have hschema : ∀ x s, x ∈ ["b", "\u3000"] → (t.filled (valuesOf x ⟨"c", 8⟩)).toList = s.toList →
      (∀ y ∈ textualTokens, contains s y = false) → (schemaOf r (.text x)).outcome = .ok s := by
    intro x s hx hfilled hclear
    have hne : x ≠ "" := by
      rintro rfl
      revert hx
      decide
    rw [schemaOf_textual (hspec x hx),
      textualColumns_outcome hne (by decide) (by decide) (by decide +kernel) hnamed]
    exact outcome_valuesOf_of_filled ht hfilled hclear
  have hb : (schemaNamed r "b").outcome = .ok "b c 8" := by
    refine hschema "b" "b c 8" (by decide) ?_ (by simp only [TextSet.mem_def]; decide)
    rw [Template.toList_filled_eq_scan, htext, ht]
    decide +kernel
  refine ⟨r, hr, TextSet.ext_mem fun x => ?_, hsentinel, by rw [Listing.keys, hentries]; rfl, ?_,
    Plan.provision_outcome_eq_ok_iff.mpr ⟨hb, by decide, by decide, rfl, rfl⟩⟩
  · rw [TextSet.mem_def, hprovisionable, TextSet.mem_ofList]
  · refine hschema "\u3000" "\u3000 c 8" (by decide) ?_ (by simp only [TextSet.mem_def]; decide)
    rw [Template.toList_filled_eq_scan, htext, ht]
    decide +kernel

/-- In that registry a plan for the one database logs two records. A plan for everything fails
once it has logged the schemas of both, and an unknown database leaves no record. -/
theorem planning_is_logged_blank :
    ∃ r, (build blankHost ⟨blankHost.bundled, true⟩).outcome = .ok r ∧
      (∃ p, (Plan.build r (.list [.text "b"])).outcome = .ok p ∧
        p.map Provision.identifier = ["b", "a"] ∧
        (Plan.build r (.list [.text "b"])).records = [r.textualRecord, Plan.record r p]) ∧
      (Plan.build r .null).outcome = .error (.value (.required "ProvisionSpec.identifier")) ∧
      (Plan.build r .null).records = [r.textualRecord, r.textualRecord] ∧
      (Plan.build r (.list [.text "zz"])).records = [] := by
  obtain ⟨r, hr, hprovisionable, hsentinel, hkeys, hblank, hb⟩ := exists_schemas_blankHost
  have htrace : r.trace ["b"] = [r.textualRecord] := trace_textual (by rw [hkeys]; decide)
  refine ⟨r, hr, ?_, ?_⟩
  · -- one database, and the sentinel
    obtain ⟨m, hload, hm⟩ := build_outcome_eq_ok_iff.mp hr
    obtain ⟨last, hlast⟩ := exists_sentinelProvision (Manifest.regular_of_load hload) hm
    obtain ⟨-, -, -, hidentifier, -⟩ := Plan.sentinelProvision_eq_ok_iff.mp hlast
    have hothers : (Plan.others r (.ofList ["b"])).toList = ["b"] := by
      rw [Plan.others, hsentinel]
      decide
    have hasks : Plan.Asks r (.list [.text "b"]) (.ofList ["b"]) :=
      Plan.asks_of_requested (Outcome.eq_ok_of_toOption (by decide))
    have hplan : (Plan.build r (.list [.text "b"])).outcome = .ok [⟨"b", "b c 8", false⟩, last] := by
      rw [Plan.build_eq_ofSet hasks, Plan.ofSet_outcome_eq_ok_iff, hprovisionable, hothers]
      refine ⟨by simp, [⟨"b", "b c 8", false⟩], last, ?_, hlast, rfl⟩
      exact Plan.provisions_cons_eq_ok_iff.mpr ⟨_, [], hb, rfl, rfl⟩
    have hidentifiers : [⟨"b", "b c 8", false⟩, last].map Provision.identifier = ["b", "a"] := by
      rw [List.map_cons, List.map_singleton, hidentifier, hsentinel]
    obtain ⟨hmade, -⟩ := planning_is_logged hr (.list [.text "b"])
    refine ⟨_, hplan, hidentifiers, ?_⟩
    rw [hmade _ hplan, hidentifiers, trace_cons, htrace,
      trace_not_textual (by rw [hkeys]; decide)]
    rfl
  · -- everything, and something unknown
    have hothers : (Plan.others r r.provisionable).toList = ["b", "\u3000"] := by
      rw [Plan.others, hprovisionable, hsentinel]
      decide
    have hunknown : Plan.Asks r (.list [.text "zz"]) (.ofList ["zz"]) :=
      Plan.asks_of_requested (Outcome.eq_ok_of_toOption (by decide))
    have hfail : (Plan.build r (.list [.text "zz"])).records = [] := by
      obtain ⟨-, hunplanned, -⟩ := planning_is_logged hr (.list [.text "zz"])
      obtain ⟨least, -, -, hrun⟩ := hunplanned _ hunknown
        ⟨"zz", by decide, by rw [hprovisionable]; decide⟩
      rw [hrun]
      rfl
    obtain ⟨-, -, hfails, -⟩ := planning_is_logged hr .null
    cases hnull : (Plan.build r .null).outcome with
    | ok p =>
      obtain ⟨q, hq⟩ := exists_provision_of_ofSet hr ⟨p, hnull⟩ (x := "\u3000")
        (by rw [hprovisionable]; decide)
      exact absurd (Plan.provision_outcome_eq_ok_iff.mp hq).2.1 (by decide)
    | error e =>
      obtain ⟨front, x, rest, own, hsplit, -, hx, -, hstops, hrecords⟩ :=
        hfails _ e .everything (fun x hx => hx) hnull
      rw [hothers] at hsplit
      cases front with
      | nil =>
        -- the first database is provided
        cases hsplit
        rw [hb] at hx
        cases hx
      | cons y front =>
        cases front with
        | nil =>
          cases hsplit
          rw [hrecords, htrace]
          cases hstops with
          | unmade hschema =>
            rw [hblank] at hschema
            cases hschema
          | blank _ _ _ he => exact ⟨congrArg _ he, rfl, hfail⟩
        | cons z front => simp at hsplit

end Registry

end SchemaDepot
