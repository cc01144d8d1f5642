/-
# What a validation cannot find

The checks of a validation look for what building and rendering have excluded already: no
schema that is served is blank, no rendered schema holds a token of its template, and every
plan ends with the sentinel. So the checks change nothing: a validation ends as planning and
rendering do (`check_outcome`), and never because one of them fails (`run_asserts_nothing`).
This holds for whatever templates have the names of the schemes, however names count that
are not declared.

Key definitions: `Error.isAssertion`, `Validation.Clear`,
`Validation.unchecked`.
Key theorems: `Validation.clear_of_rendered`, `Validation.check_outcome`,
`Validation.run_asserts_nothing`.
-/
import SchemaDepot.Proofs.CommandLine
import SchemaDepot.Proofs.Provision
import SchemaDepot.Proofs.Registry.Failure
import SchemaDepot.Proofs.Template.Refusal
import SchemaDepot.Validation

namespace SchemaDepot

open Outcome Text

namespace Error

/-- The error says that a check of a validation failed. -/
def isAssertion : Error → Bool
  | .blankSchema _ | .tokensLeft _ _ | .sentinelNotLast => true
  | _ => false

variable {e : Error}

theorem not_isAssertion_of_isReported (h : CommandLine.isReported e = true) :
    e.isAssertion = false := by
  cases e <;> first | rfl | cases h

theorem not_isAssertion_of_isForeign (h : e.isForeign = true) : e.isAssertion = false := by
  cases e <;> first | rfl | cases h

theorem not_isDepotError_of_isAssertion (h : e.isAssertion = true) :
    ¬ e.isResource ∧ ¬ e.isDefinition := by
  cases e <;> first | exact ⟨Bool.false_ne_true, Bool.false_ne_true⟩ | cases h

end Error

/-! ### Building -/

/-- What can be wrong with the settings is that a folder is unknown or a word is no flag. -/
theorem Settings.resolve_fails (h : Host) :
    FailsOnly (fun e => e.isAssertion = false) (Settings.resolve h) := by
  have hflag : ∀ raw? default name,
      FailsOnly (fun e : Error => e.isAssertion = false) (readFlag raw? default name) := by
    intro raw? default name
    unfold readFlag
    split
    · exact .ok _
    · exact .ite (.ok _) (.ite (.ok _) (.ite (.ok _) (.error rfl)))
  have hhome : ∀ p home : Path,
      FailsOnly (fun e : Error => e.isAssertion = false) (p.expandHome home) := by
    intro p home
    unfold Path.expandHome
    split
    · exact .ite (.ok _) (.ite (.error rfl) (.ok _))
    · exact .ok _
  have hrest : ∀ folder, FailsOnly (fun e : Error => e.isAssertion = false) (do
      let strict ← readFlag (h.setting? strictVariable) true strictVariable
      .ok (⟨folder, strict⟩ : Settings)) :=
    fun folder => (hflag _ _ _).bind fun strict => .ok _
  unfold resolve
  dsimp only
  split
  · exact (FailsOnly.ok _).bind hrest
  · exact .ite ((FailsOnly.ok _).bind hrest) ((hhome _ _).bind hrest)

/-- Building fails for resources, for definitions or for the surroundings. -/
theorem Registry.not_isAssertion_of_build {h : Host} {settings : Settings} {e : Error}
    (he : (build h settings).outcome = .error e) : e.isAssertion = false := by
  refine Bool.eq_false_iff.mpr fun hassertion => ?_
  obtain ⟨hresource, hdefinition⟩ := Error.not_isDepotError_of_isAssertion hassertion
  have hescapes := (build_outcome_eq_error_iff_escapes hresource hdefinition).mp he
  rw [Error.not_isAssertion_of_isForeign hescapes.isForeign] at hassertion
  cases hassertion

namespace Validation

variable {r : Registry}

/-! ### Rendered schemas -/

/-- The name is that of a template, and no token of it is in the schema. -/
def Clear (r : Registry) (name schema : String) : Prop :=
  ∃ t, r.templates.named name = .ok t ∧ ∀ x ∈ t.tokens, contains schema x = false

theorem clear_of_render {name schema : String} {given : Template.Substitutions}
    (h : (r.render name given).outcome = .ok schema) : Clear r name schema := by
  unfold Registry.render TemplateSet.render at h
  split at h
  · rename_i t hnamed
    obtain ⟨-, -, hclear, rfl⟩ := Template.outcome_eq_ok_iff.mp h
    exact ⟨t, hnamed, hclear⟩
  · cases h

theorem clear_benchmark {v : Value} {schema : String}
    (h : (Scheme.benchmark r v).outcome = .ok schema) : Clear r Scheme.benchmarkTemplate schema := by
  obtain ⟨length, -, hrender⟩ := Run.bind_outcome_eq_ok_iff.mp h
  exact clear_of_render hrender

theorem clear_project {name number : Value} {schema : String}
    (h : (Scheme.project r name number).outcome = .ok schema) :
    Clear r Scheme.projectTemplate schema := by
  obtain ⟨-, -, h⟩ := Run.bind_outcome_eq_ok_iff.mp h
  obtain ⟨text, -, hrender⟩ := Run.bind_outcome_eq_ok_iff.mp h
  exact clear_of_render hrender

theorem clear_textualColumns {database columnType columnLength : Value} {schema : String}
    (h : (Scheme.textualColumns r database columnType columnLength).outcome = .ok schema) :
    Clear r r.textualTemplate schema := by
  obtain ⟨-, -, h⟩ := Run.bind_outcome_eq_ok_iff.mp h
  obtain ⟨length, -, hrender⟩ := Run.bind_outcome_eq_ok_iff.mp h
  exact clear_of_render hrender

/-- The schema of an entry for a textual database was rendered for it; the sentinel is not
one of them. -/
theorem clear_of_mem_plan {h : Host} {settings : Settings}
    (hr : (Registry.build h settings).outcome = .ok r) {p : Plan}
    (hp : (Plan.build r .null).outcome = .ok p) {q : Provision} (hq : q ∈ p)
    (htextual : r.textualDatabases.has q.identifier = true) : Clear r r.textualTemplate q.schema := by
  obtain ⟨m, -, -, hserves⟩ := Registry.exists_serves_of_build hr
  obtain ⟨-, ps, last, hps, hlast, rfl⟩ := Plan.ofSet_outcome_eq_ok_iff.mp hp
  obtain ⟨spec, hspec⟩ := Listing.has_eq_true_iff.mp htextual
  rcases List.mem_append.mp hq with hq | hq
  · have hprovision := (Plan.of_provisions_eq_ok hps).2 q hq
    obtain ⟨hschema, -⟩ := Plan.provision_outcome_eq_ok_iff.mp hprovision
    rw [Scheme.schemaNamed, hspec] at hschema
    exact clear_textualColumns hschema
  · rw [List.mem_singleton] at hq
    obtain ⟨-, -, -, hidentifier, -⟩ := Plan.sentinelProvision_eq_ok_iff.mp hlast
    have hkey := Listing.mem_keys_of_get? hspec
    rw [hq, hidentifier] at hkey
    exact absurd hkey hserves.sentinel_not_textual

/-- All schemas that are rendered for the checks are clear. -/
theorem clear_of_rendered {h : Host} {settings : Settings}
    (hr : (Registry.build h settings).outcome = .ok r) {p : Plan}
    (hp : (Plan.build r .null).outcome = .ok p) {schemas : List (String × String)}
    (hschemas : (rendered r p).outcome = .ok schemas) : ∀ e ∈ schemas, Clear r e.1 e.2 := by
  unfold rendered at hschemas
  obtain ⟨benchmark, hbenchmark, hschemas⟩ := Run.bind_outcome_eq_ok_iff.mp hschemas
  obtain ⟨row, hrow, hschemas⟩ := Run.bind_outcome_eq_ok_iff.mp hschemas
  obtain ⟨project, hproject, hschemas⟩ := Run.bind_outcome_eq_ok_iff.mp hschemas
  cases hschemas
  intro e he
  rcases List.mem_append.mp he with he | he
  · simp only [List.mem_cons, List.not_mem_nil, or_false] at he
    rcases he with rfl | rfl | rfl
    · exact clear_benchmark hbenchmark
    · exact clear_of_render hrow
    · exact clear_project hproject
  · obtain ⟨q, hq, rfl⟩ := List.mem_map.mp he
    obtain ⟨hmem, htextual⟩ := List.mem_filter.mp hq
    exact clear_of_mem_plan hr hp hmem htextual

/-! ### The checks -/

theorem checkSchemas_eq_ok {xs : List String}
    (h : ∀ x ∈ xs, ∃ s, r.catalogue.schema x = .ok s ∧ isBlank s = false) :
    checkSchemas r xs = .ok () := by
  induction xs with
  | nil => rfl
  | cons x xs ih =>
    obtain ⟨⟨s, hs, hblank⟩, hxs⟩ := List.forall_mem_cons.mp h
    rw [checkSchemas, hs, ok_bind, hblank, if_neg Bool.false_ne_true, ih hxs]

theorem checkRendered_eq_ok {schemas : List (String × String)}
    (h : ∀ e ∈ schemas, Clear r e.1 e.2) : checkRendered r schemas = .ok () := by
  induction schemas with
  | nil => rfl
  | cons e rest ih =>
    obtain ⟨⟨t, hnamed, hclear⟩, hrest⟩ := List.forall_mem_cons.mp h
    rw [checkRendered, hnamed, ok_bind, Template.isEmpty_leftover_iff.mpr hclear, if_pos rfl,
      ih hrest]

theorem checkLast_eq_ok {p : Plan} {identifier schema : String}
    (h : p.getLast? = some ⟨identifier, schema, true⟩) : checkLast p = .ok () := by
  rw [checkLast, h]
  rfl

/-- How planning everything and rendering the schemes end, if nothing is checked. -/
def unchecked (r : Registry) : Except Error Unit := do
  let p ← (Plan.build r .null).outcome
  let _ ← (rendered r p).outcome
  .ok ()

/-- The checks change nothing: a validation of what was built ends as planning and rendering
do. -/
theorem check_outcome {h : Host} {settings : Settings}
    (hr : (Registry.build h settings).outcome = .ok r) : (check r).outcome = unchecked r := by
  obtain ⟨m, hregular, hm, -⟩ := Registry.exists_serves_of_build hr
  have hschemas : checkSchemas r r.catalogue.identifiers.toList = .ok () := by
    refine checkSchemas_eq_ok fun x hx => ?_
    obtain ⟨s, hs, -, hblank⟩ := Registry.exists_schema_of_fixed hregular hm hx
    exact ⟨s, hs, hblank⟩
  unfold check unchecked
  simp only [Run.outcome_bind]
  rw [show (Run.ofExcept (checkSchemas r r.catalogue.identifiers.toList)).outcome = .ok () from
    hschemas, ok_bind]
  refine bind_congr_of_ok fun p hp => bind_congr_of_ok fun schemas hrendered => ?_
  obtain ⟨schema, -, hlast⟩ := (Plan.answers_of_ofSet hp).last
  change (checkRendered r schemas >>= fun _ => checkLast p) = .ok ()
  rw [checkRendered_eq_ok (clear_of_rendered hr hp hrendered), ok_bind, checkLast_eq_ok hlast]

/-! ### What a validation fails with -/

theorem rendered_orderly (r : Registry) (p : Plan) : (rendered r p).Orderly := by
  have hbenchmark : (Scheme.benchmark r (.int 100)).Orderly :=
    (Run.orderly_ofExcept (Scheme.positiveText_reports _ _)).bind fun _ => r.render_orderly _ _
  have hnumber : Reports (Scheme.numberText (.int 5)) := by
    simp only [Scheme.numberText]
    exact Scheme.positiveText_reports "project_number" 5
  have hproject : (Scheme.project r (.text "demo") (.int 5)).Orderly := by
    apply (Run.orderly_ofExcept (Scheme.require_reports _ _)).bind
    intro _
    apply (Run.orderly_ofExcept hnumber).bind
    intro _
    exact r.render_orderly _ _
  unfold rendered
  exact hbenchmark.bind fun _ => (r.render_orderly _ _).bind fun _ => hproject.bind fun _ =>
    Run.orderly_pure _

/-- **What a validation cannot find.** No validation fails because a check does. In whatever
was built, every fixed schema is there and not blank; every plan of everything ends with the
sentinel; all schemas that are then rendered are clear of the tokens of their templates; and
the checks change nothing about how the validation ends. -/
theorem run_asserts_nothing (h : Host) :
    (∀ e, (run h).outcome = .error e → e.isAssertion = false) ∧
    ∀ settings r, (Registry.build h settings).outcome = .ok r →
      (∀ x ∈ r.catalogue.identifiers, ∃ s, r.catalogue.schema x = .ok s ∧ isBlank s = false) ∧
      (∀ p, (Plan.build r .null).outcome = .ok p →
        (∃ schema, p.getLast? = some ⟨r.catalogue.sentinel, schema, true⟩) ∧
        ∀ schemas, (rendered r p).outcome = .ok schemas → ∀ e ∈ schemas,
          ∃ t, r.templates.named e.1 = .ok t ∧ ∀ x ∈ t.tokens, contains e.2 x = false) ∧
      (check r).outcome = unchecked r := by
  refine ⟨fun e he => ?_, fun settings r hr => ⟨fun x hx => ?_, fun p hp => ⟨?_, ?_⟩, ?_⟩⟩
  · rcases Run.bind_outcome_eq_error_iff.mp he with hbuild | ⟨r, hbuild, hcheck⟩
    · rcases Run.bind_outcome_eq_error_iff.mp hbuild with hsettings | ⟨settings, -, hr⟩
      · exact (Settings.resolve_fails h).error_of hsettings
      · exact Registry.not_isAssertion_of_build hr
    · obtain ⟨settings, -, hr⟩ := Run.bind_outcome_eq_ok_iff.mp hbuild
      rw [check_outcome hr] at hcheck
      refine Error.not_isAssertion_of_isReported ?_
      rcases bind_eq_error_iff.mp hcheck with hp | ⟨p, -, hcheck⟩
      · exact (Plan.ofSet_orderly r r.provisionable).reported hp
      · rcases bind_eq_error_iff.mp hcheck with hrendered | ⟨schemas, -, hnone⟩
        · exact (rendered_orderly r p).reported hrendered
        · cases hnone
  · obtain ⟨m, hload, hm⟩ := Registry.build_outcome_eq_ok_iff.mp hr
    obtain ⟨s, hs, -, hblank⟩ :=
      Registry.exists_schema_of_fixed (Manifest.regular_of_load hload) hm hx
    exact ⟨s, hs, hblank⟩
  · obtain ⟨schema, -, hlast⟩ := (Plan.answers_of_ofSet hp).last
    exact ⟨schema, hlast⟩
  · exact fun schemas hschemas => clear_of_rendered hr hp hschemas
  · exact check_outcome hr

/-- A folder whose templates have the names of the schemes, and other tokens or none. Names
that are not declared do not count there. -/
def lenientHost : Host where
  tree := ((Tree.empty.write ["r", "testdbs.yaml"]
    ("sentinel: a\nfixed: \x7ba: f\x7d\ndynamic:\n  benchmark: \x7bpath: f\x7d\n" ++
      "  benchmark_add_row: \x7bpath: g, tokens: [VALUE_COLUMN_2]\x7d\n" ++
      "  hopsworks_add_project: \x7bpath: f\x7d\n").toUTF8).write
    ["r", "f"] "F;".toUTF8).write ["r", "g"] "VALUE_COLUMN_2;".toUTF8
  workingFolder := []
  home := ⟨.top, []⟩
  bundled := ⟨.top, ["r"]⟩
  environment := [("TESTDBS_STRICT_SUBSTITUTIONS", "0")]

set_option maxRecDepth 100000 in
/-- A validation of that folder comes to its end, past all checks. -/
theorem run_asserts_nothing_lenient :
    ∃ r p schemas, (Registry.build lenientHost ⟨lenientHost.bundled, false⟩).outcome = .ok r ∧
      (Plan.build r .null).outcome = .ok p ∧ (rendered r p).outcome = .ok schemas ∧
      (check r).outcome = .ok () ∧
      ∀ e ∈ schemas, ∃ t, r.templates.named e.1 = .ok t ∧
        ∀ x ∈ t.tokens, contains e.2 x = false := by
  have hchecked : (Registry.build lenientHost ⟨lenientHost.bundled, false⟩).outcome.toOption.bind
      (fun r => (check r).outcome.toOption) = some () := by
    rw [Registry.toOption_build (h := lenientHost) rfl ?hreturn]
    case hreturn =>
      simp only [String.toList_append, String.reduceToList]
      decide
    simp only [String.toList_append, String.reduceToList, List.cons_append, List.nil_append]
    decide +kernel
  obtain ⟨r, hbuilt, hcheck⟩ := Option.bind_eq_some_iff.mp hchecked
  have hr := eq_ok_of_toOption hbuilt
  obtain ⟨-, hplan, houtcome⟩ := (run_asserts_nothing lenientHost).2 _ r hr
  obtain ⟨p, hp, hrest⟩ := bind_eq_ok_iff.mp (houtcome.symm.trans (eq_ok_of_toOption hcheck))
  obtain ⟨schemas, hschemas, -⟩ := bind_eq_ok_iff.mp hrest
  exact ⟨r, p, schemas, hr, hp, hschemas, eq_ok_of_toOption hcheck, (hplan p hp).2 schemas hschemas⟩

end Validation

end SchemaDepot
