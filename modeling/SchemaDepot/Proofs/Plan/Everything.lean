/-
# Asking for everything

Everything can be asked for in two ways: by giving nothing, or by listing what can be
provided. Only what is listed is trimmed, and blank identifiers are left out of it. So
the two come to the same when all identifiers are tidy: not blank, and without blanks at
either end. A registry can have others, since a fixed identifier may end with a line feed
and the textual ones are not looked at. Then a plan that is made for the one request is
not made for the other (`Registry.plan_of_everything`).

Key definitions: `Plan.tidied`, `Plan.Lists`.
Key theorems: `Plan.tidied_eq_iff`, `Registry.ofSet_outcome_eq_unknown_iff`,
`Registry.tidy_provisionable_iff`, `Registry.plan_of_everything`.
-/
import SchemaDepot.Proofs.Provision
import SchemaDepot.Proofs.Value

namespace SchemaDepot

open Text

namespace Plan

variable {r : Registry} {s : TextSet} {v : Value}

/-! ### Listed identifiers -/

/-- What is left of identifiers that are listed: each is trimmed, and the blank ones are
left out. -/
def tidied (s : TextSet) : TextSet :=
  TextSet.ofList ((s.toList.filter fun x => !isBlank x).map trim)

theorem mem_tidied {y : String} : y ∈ tidied s ↔ ∃ x ∈ s, isBlank x = false ∧ trim x = y := by
  simp only [tidied, TextSet.mem_ofList, List.mem_map, List.mem_filter, Bool.not_eq_true',
    ← TextSet.mem_def, and_assoc]

/-- Listed identifiers are left as they are exactly when they are tidy. -/
theorem tidied_eq_iff : tidied s = s ↔ ∀ x ∈ s, IsTidy x := by
  constructor
  · intro hsame x hx
    rw [← hsame] at hx
    obtain ⟨y, -, hblank, rfl⟩ := mem_tidied.mp hx
    exact isTidy_trim hblank
  · intro htidy
    refine TextSet.ext_mem fun y => ?_
    rw [mem_tidied]
    constructor
    · rintro ⟨x, hx, -, htrim⟩
      rwa [← htrim, (htidy x hx).2]
    · exact fun hy => ⟨y, hy, (htidy y hy).1, (htidy y hy).2⟩

/-- The value is a collection of the texts of a set. -/
def Lists (v : Value) (s : TextSet) : Prop :=
  ∃ items, v.members = .ok items ∧ ∀ i, i ∈ items ↔ ∃ x ∈ s, i = .text x

/-- A collection asks for what is left of its texts. -/
theorem Lists.asks (h : Lists v s) : Asks r v (tidied s) := by
  obtain ⟨items, hitems, hmem⟩ := h
  refine .members hitems (fun i hi => ?_) fun y => ?_
  · obtain ⟨x, -, rfl⟩ := (hmem i).mp hi
    exact ⟨x, rfl⟩
  · rw [mem_tidied]
    constructor
    · rintro ⟨x, hx, hblank, rfl⟩
      exact ⟨.text x, (hmem _).mpr ⟨x, hx, rfl⟩, x, rfl, hblank, rfl⟩
    · rintro ⟨i, hi, x, hshown, hblank, htrim⟩
      obtain ⟨x', hx, rfl⟩ := (hmem i).mp hi
      obtain rfl : x' = x := Except.ok.inj hshown
      exact ⟨x', hx, hblank, htrim.symm⟩

/-- Plans for several databases that both are made of the same registry list the same
identifiers only if they were asked for the same, the sentinel apart. -/
theorem eq_of_ofSet {wanted wanted' : TextSet} {p : Plan}
    (hsentinel : r.catalogue.sentinel ∈ wanted) (hsentinel' : r.catalogue.sentinel ∈ wanted')
    (h : (ofSet r wanted).outcome = .ok p) (h' : (ofSet r wanted').outcome = .ok p) :
    wanted = wanted' := by
  refine TextSet.ext_mem fun x => ?_
  by_cases hx : x = r.catalogue.sentinel
  · subst hx
    exact iff_of_true hsentinel hsentinel'
  · have hlisted := (answers_of_ofSet h).identifiers x
    rw [(answers_of_ofSet h').identifiers x] at hlisted
    simpa [hx] using hlisted.symm

end Plan

/-! ### What is refused as unknown -/

/-- The error says that an argument of a scheme is missing or cannot be written. -/
def Error.isOfArgument : Error → Bool
  | .value (.required _) | .value (.notPositive _ _) | .value (.numberTooLong _) => true
  | _ => false

namespace Scheme

open Outcome

variable {r : Registry} {e : Error}

/-- The operation fails only because of an argument. -/
abbrev BlamesArguments {α : Type} (x : Except Error α) : Prop :=
  FailsOnly (fun e => e.isOfArgument = true) x

theorem require_blames (name : String) (v : Value) : BlamesArguments (require name v) :=
  .ite (.ok _) (.error rfl)

theorem checkTextual_blames (database columnType : Value) :
    BlamesArguments (checkTextual database columnType) :=
  (require_blames _ _).bind fun _ => require_blames _ _

theorem positiveText_blames (name : String) (v : Value) :
    BlamesArguments (positiveText name v) := by
  have hrefusal : BlamesArguments (do
      let shown ← v.literal
      .error (.value (.notPositive name shown)) : Except Error String) :=
    (Value.literal_failsOnly (by rfl) v).bind fun _ => .error rfl
  unfold positiveText
  split
  · exact .ite (Decimal.write_failsOnly (by rfl) _) hrefusal
  · exact hrefusal

theorem lengthText_blames (v : Value) : BlamesArguments (lengthText v) := positiveText_blames _ v

/-- What goes wrong when a template is rendered is said of the substitutions. -/
theorem outcome_eq_error {t : Template} {given : Template.Substitutions} {strict : Bool}
    (h : t.outcome given strict = .error e) :
    ∃ fault tokens, e = .substitution fault t.name tokens := by
  unfold Template.outcome at h
  simp only [Outcome.refuse_eq_error_iff] at h
  rcases h with ⟨-, rfl⟩ | ⟨-, ⟨-, rfl⟩ | ⟨-, ⟨-, rfl⟩ | ⟨-, ⟨-, rfl⟩ | ⟨-, h⟩⟩⟩⟩
  case inr.inr.inr.inr => cases h
  all_goals exact ⟨_, _, rfl⟩

/-- What goes wrong with a textual database whose template is there is said of its arguments
or of what is put into the template. -/
theorem textualColumns_outcome_eq_error {t : Template} {x columnType : String} {n : Int}
    (hnamed : r.templates.named r.textualTemplate = .ok t)
    (h : (textualColumns r (.text x) (.text columnType) (.int n)).outcome = .error e) :
    e.isOfArgument = true ∨ ∃ fault tokens, e = .substitution fault t.name tokens := by
  rcases Run.bind_outcome_eq_error_iff.mp h with hcheck | ⟨_, -, h⟩
  · exact Or.inl ((checkTextual_blames _ _).error_of hcheck)
  rcases Run.bind_outcome_eq_error_iff.mp h with hlength | ⟨length, -, h⟩
  · exact Or.inl ((lengthText_blames (.int n)).error_of hlength)
  · rw [render_outcome hnamed] at h
    exact Or.inr (outcome_eq_error h)

end Scheme

theorem Provision.make_eq_error_iff {identifier schema : String} {isSentinel : Bool} {e : Error} :
    make identifier schema isSentinel = .error e ↔
      isBlank identifier = true ∧ e = .value (.required "ProvisionSpec.identifier") ∨
        isBlank identifier = false ∧ isBlank schema = true ∧ e = .value (.sqlRequired identifier) := by
  unfold make
  simp only [Outcome.refuse_eq_error_iff, reduceCtorEq, and_false, or_false, Bool.not_eq_true,
    eq_comm (a := e)]

namespace Plan

variable {r : Registry} {e : Error}

theorem exists_of_provisions_eq_error {xs : List String}
    (h : (provisions r xs).outcome = .error e) :
    ∃ x ∈ xs, (provision r x).outcome = .error e := by
  induction xs with
  | nil => cases h
  | cons x xs ih =>
    rcases Run.bind_outcome_eq_error_iff.mp h with hx | ⟨p, -, h⟩
    · exact ⟨x, List.mem_cons_self, hx⟩
    · rcases Run.bind_outcome_eq_error_iff.mp h with hrest | ⟨ps, -, h⟩
      · obtain ⟨y, hy, he⟩ := ih hrest
        exact ⟨y, List.mem_cons_of_mem _ hy, he⟩
      · cases h

/-- A plan for a set is not made where one of its identifiers is unknown, or where one of its
databases or the sentinel is not provided. -/
theorem ofSet_outcome_eq_error {wanted : TextSet} (h : (ofSet r wanted).outcome = .error e) :
    (∃ x, firstUnknown? r.provisionable wanted = some x ∧ e = .unknownIdentifier x) ∨
      (∃ x ∈ wanted, x ∈ r.provisionable ∧ (provision r x).outcome = .error e) ∨
        sentinelProvision r = .error e := by
  cases hu : firstUnknown? r.provisionable wanted with
  | some x =>
    rw [ofSet_of_unknown hu] at h
    cases h
    exact Or.inl ⟨x, rfl, rfl⟩
  | none =>
    rw [ofSet_of_known hu] at h
    rcases Run.bind_outcome_eq_error_iff.mp h with hothers | ⟨ps, -, h⟩
    · obtain ⟨x, hx, hprovision⟩ := exists_of_provisions_eq_error hothers
      have hwanted := (mem_others.mp (TextSet.mem_def.mpr hx)).1
      have hknown := firstUnknown?_eq_none_iff.mp hu x hwanted
      exact Or.inr (Or.inl ⟨x, hwanted, hknown, hprovision⟩)
    · rcases Run.bind_outcome_eq_error_iff.mp h with hsentinel | ⟨_, -, h⟩
      · exact Or.inr (Or.inr hsentinel)
      · cases h

end Plan

theorem Catalogue.isTidy_iff_of_isIdentifier {x : String} (h : isIdentifier x = true) :
    IsTidy x ↔ '\n' ∉ x.toList := by
  constructor
  · intro htidy
    exact (isPlain_of_trim h htidy.2).not_mem_break
  · intro hbreak
    have hplain := isPlain_iff_all.mp ((isPlain_iff_of_isIdentifier h).mpr hbreak)
    exact ⟨not_blank_of_isIdentifier h, trim_of_forall_not_blank fun c hc =>
      not_isBlankChar (List.all_eq_true.mp hplain.2 c hc)⟩

namespace Registry

variable {h : Host} {settings : Settings} {r : Registry} {x y : String} {wanted : TextSet}

/-- What goes wrong with the schema of a textual database of a registry that was built is
said of an argument or of what is put into the template. -/
theorem schemaNamed_outcome_eq_error_of_textual (hr : (build h settings).outcome = .ok r)
    {spec : ColumnSpec} (hspec : r.textualDatabases.get? x = some spec) {e : Error}
    (he : (Scheme.schemaNamed r x).outcome = .error e) :
    e.isOfArgument = true ∨ ∃ fault name tokens, e = .substitution fault name tokens := by
  obtain ⟨m, -, hm, -⟩ := exists_serves_of_build hr
  obtain ⟨t, hnamed, -⟩ := exists_textualTemplate hm hspec
  rw [Scheme.schemaNamed, hspec] at he
  obtain hargument | ⟨fault, tokens, he⟩ := Scheme.textualColumns_outcome_eq_error hnamed he
  · exact Or.inl hargument
  · exact Or.inr ⟨fault, t.name, tokens, he⟩

theorem provision_ne_unknown (hr : (build h settings).outcome = .ok r) (hx : x ∈ r.provisionable) :
    (Plan.provision r x).outcome ≠ .error (.unknownIdentifier y) := by
  obtain ⟨m, hregular, hm, hserves⟩ := exists_serves_of_build hr
  rcases (hserves.provisionable x).mp hx with hfixed | hkey
  · obtain ⟨p, hp⟩ := exists_provision_of_fixed hregular hm hfixed
    rw [hp]
    intro he
    cases he
  · obtain ⟨spec, hspec⟩ := Listing.exists_get?_of_mem_keys hkey
    intro he
    rcases Run.bind_outcome_eq_error_iff.mp he with hschema | ⟨schema, -, hmake⟩
    · rcases schemaNamed_outcome_eq_error_of_textual hr hspec hschema with hargument | ⟨_, _, _, he⟩
      · cases hargument
      · cases he
    · rcases Provision.make_eq_error_iff.mp hmake with ⟨-, he⟩ | ⟨-, -, he⟩
      · cases he
      · cases he

/-- A set is refused as unknown exactly when one of its identifiers cannot be provided; the
least such one is named. -/
theorem ofSet_outcome_eq_unknown_iff (hr : (build h settings).outcome = .ok r) :
    (Plan.ofSet r wanted).outcome = .error (.unknownIdentifier x) ↔
      Plan.firstUnknown? r.provisionable wanted = some x := by
  constructor
  · intro he
    rcases Plan.ofSet_outcome_eq_error he with ⟨y, hy, he⟩ | ⟨z, -, hz, hprovision⟩ | hsentinel
    · cases he
      exact hy
    · exact absurd hprovision (provision_ne_unknown hr hz)
    · obtain ⟨last, hlast⟩ := exists_sentinelProvision_of_build hr
      cases hlast.symm.trans hsentinel
  · intro hu
    rw [Plan.ofSet_of_unknown hu]
    rfl

theorem sentinel_mem_and_isTidy (hr : (build h settings).outcome = .ok r) :
    r.catalogue.sentinel ∈ r.provisionable ∧ IsTidy r.catalogue.sentinel := by
  obtain ⟨m, hload, hm⟩ := build_outcome_eq_ok_iff.mp hr
  obtain ⟨text, d, -, -, hdata⟩ := Manifest.exists_of_load hload
  have hserves := serves_of_ofManifest (Manifest.regular_of_ofData hdata) hm
  have hfits := isIdentifier_of_ofManifest hm hserves.sentinel_fixed
  refine ⟨(hserves.provisionable _).mpr (Or.inl hserves.sentinel_fixed),
    Catalogue.not_blank_of_isIdentifier hfits, ?_⟩
  rw [hserves.sentinel_eq]
  exact Manifest.trim_sentinel_of_ofData hdata

/-- Everything that can be provided is tidy exactly when no fixed identifier holds a line
feed and the textual ones happen to be tidy. -/
theorem tidy_provisionable_iff (hr : (build h settings).outcome = .ok r) :
    (∀ x ∈ r.provisionable, IsTidy x) ↔
      (∀ x ∈ r.catalogue.identifiers, '\n' ∉ x.toList) ∧
        ∀ x ∈ r.textualDatabases.keys, IsTidy x := by
  obtain ⟨m, -, hm, hserves⟩ := exists_serves_of_build hr
  have hfixed : ∀ x ∈ r.catalogue.identifiers, (IsTidy x ↔ '\n' ∉ x.toList) := fun x hx =>
    Catalogue.isTidy_iff_of_isIdentifier (isIdentifier_of_ofManifest hm hx)
  constructor
  · intro hall
    exact ⟨fun x hx => (hfixed x hx).mp (hall x ((hserves.provisionable x).mpr (Or.inl hx))),
      fun x hx => hall x ((hserves.provisionable x).mpr (Or.inr hx))⟩
  · intro ⟨hbreak, htextual⟩ x hx
    rcases (hserves.provisionable x).mp hx with hx | hx
    · exact (hfixed x hx).mpr (hbreak x hx)
    · exact htextual x hx

section

variable {v : Value}

/-- Tidy identifiers can be listed as well as not. -/
theorem build_eq_of_tidy (hv : Plan.Lists v r.provisionable) (hall : ∀ x ∈ r.provisionable, IsTidy x) :
    Plan.build r v = Plan.build r .null := by
  rw [Plan.build_eq_ofSet hv.asks, Plan.tidied_eq_iff.mpr hall]
  rfl

theorem build_null_ne_unknown (hr : (build h settings).outcome = .ok r) :
    (Plan.build r .null).outcome ≠ .error (.unknownIdentifier x) := by
  intro he
  have hunknown := (ofSet_outcome_eq_unknown_iff hr).mp he
  rw [Plan.firstUnknown?_eq_none_iff.mpr fun x hx => hx] at hunknown
  cases hunknown

/-- A listed identifier of which something is left that cannot be provided makes the list
refused as unknown. -/
theorem exists_build_eq_unknown (hr : (build h settings).outcome = .ok r)
    (hv : Plan.Lists v r.provisionable) (hx : x ∈ r.provisionable) (hblank : isBlank x = false)
    (hout : trim x ∉ r.provisionable) :
    ∃ y, (Plan.build r v).outcome = .error (.unknownIdentifier y) := by
  have hlisted : trim x ∈ Plan.tidied r.provisionable := Plan.mem_tidied.mpr ⟨x, hx, hblank, rfl⟩
  cases hu : Plan.firstUnknown? r.provisionable (Plan.tidied r.provisionable) with
  | none => exact absurd (Plan.firstUnknown?_eq_none_iff.mp hu _ hlisted) hout
  | some y =>
    rw [Plan.build_eq_ofSet hv.asks]
    exact ⟨y, (ofSet_outcome_eq_unknown_iff hr).mpr hu⟩

/-- The two ways to ask for everything end in the same way exactly when the identifiers are
tidy, or both fail alike. -/
theorem build_outcome_eq_iff (hr : (build h settings).outcome = .ok r)
    (hv : Plan.Lists v r.provisionable) :
    (Plan.build r v).outcome = (Plan.build r .null).outcome ↔
      (∀ x ∈ r.provisionable, IsTidy x) ∨
        (∀ x ∈ r.provisionable, isBlank x = false → trim x ∈ r.provisionable) ∧
          ∃ e, (Plan.build r v).outcome = .error e ∧ (Plan.build r .null).outcome = .error e := by
  constructor
  · intro hsame
    cases hend : (Plan.build r .null).outcome with
    | ok p =>
      -- a plan lists what it was made for
      obtain ⟨hsentinel, htidy⟩ := sentinel_mem_and_isTidy hr
      have hleft : r.catalogue.sentinel ∈ Plan.tidied r.provisionable :=
        Plan.mem_tidied.mpr ⟨_, hsentinel, htidy⟩
      rw [hend, Plan.build_eq_ofSet hv.asks] at hsame
      exact Or.inl (Plan.tidied_eq_iff.mp (Plan.eq_of_ofSet hleft hsentinel hsame hend))
    | error e =>
      refine Or.inr ⟨fun x hx hblank => ?_, e, hsame.trans hend, rfl⟩
      by_contra hout
      obtain ⟨y, hy⟩ := exists_build_eq_unknown hr hv hx hblank hout
      exact build_null_ne_unknown hr (hsame.symm.trans hy)
  · rintro (hall | ⟨-, e, hlisted, hnothing⟩)
    · rw [build_eq_of_tidy hv hall]
    · rw [hlisted, hnothing]

theorem build_one_eq_unknown_iff (hr : (build h settings).outcome = .ok r)
    (hv : Plan.Lists v (.ofList [x])) :
    (Plan.build r v).outcome = .error (.unknownIdentifier y) ↔
      isBlank x = false ∧ trim x = y ∧ y ∉ r.provisionable := by
  have hleft : ∀ {z : String}, z ∈ Plan.tidied (.ofList [x]) ↔ isBlank x = false ∧ trim x = z := by
    intro z
    simp [Plan.mem_tidied]
  rw [Plan.build_eq_ofSet hv.asks, ofSet_outcome_eq_unknown_iff hr, Plan.firstUnknown?_eq_some_iff]
  simp only [hleft]
  constructor
  · rintro ⟨⟨hblank, htrim⟩, hout, -⟩
    exact ⟨hblank, htrim, hout⟩
  · rintro ⟨hblank, rfl, hout⟩
    exact ⟨⟨hblank, rfl⟩, hout, fun z hz _ => Or.inl hz.2.symm⟩

end

/-- **When listing everything is asking for everything.** In a registry that was built, the
list of what can be provided has the same plan as nothing at all if all identifiers are
tidy, which depends on the line feeds in the fixed ones and on the textual ones. If one is
not tidy, the outcomes are the same only if both fail alike and what is left of each
identifier can be provided as well. A single identifier is refused as unknown exactly when
what is left of it cannot be provided. -/
theorem plan_of_everything (hr : (build h settings).outcome = .ok r) :
    ((∀ x ∈ r.provisionable, IsTidy x) ↔
      (∀ x ∈ r.catalogue.identifiers, '\n' ∉ x.toList) ∧
        ∀ x ∈ r.textualDatabases.keys, IsTidy x) ∧
    (∀ v, Plan.Lists v r.provisionable →
      ((∀ x ∈ r.provisionable, IsTidy x) → Plan.build r v = Plan.build r .null) ∧
      ((Plan.build r v).outcome = (Plan.build r .null).outcome ↔
        (∀ x ∈ r.provisionable, IsTidy x) ∨
          (∀ x ∈ r.provisionable, isBlank x = false → trim x ∈ r.provisionable) ∧
            ∃ e, (Plan.build r v).outcome = .error e ∧ (Plan.build r .null).outcome = .error e)) ∧
    ∀ x ∈ r.provisionable, ∀ v, Plan.Lists v (.ofList [x]) → ∀ y,
      ((Plan.build r v).outcome = .error (.unknownIdentifier y) ↔
        isBlank x = false ∧ trim x = y ∧ y ∉ r.provisionable) :=
  ⟨tidy_provisionable_iff hr,
    fun _ hv => ⟨build_eq_of_tidy hv, build_outcome_eq_iff hr hv⟩,
    fun _ _ _ hv _ => build_one_eq_unknown_iff hr hv⟩

/-- A folder whose manifest has a line feed behind a fixed identifier, and no identifier
without it. -/
def untidyHost : Host where
  tree := (Tree.empty.write ["r", "testdbs.yaml"]
    "sentinel: a\nfixed: \x7ba: f, \"b\\n\": f\x7d\n".toUTF8).write ["r", "f"] "F;".toUTF8
  workingFolder := []
  home := ⟨.top, []⟩
  bundled := ⟨.top, ["r"]⟩
  environment := []

set_option maxRecDepth 100000 in
theorem exists_build_untidyHost :
    ∃ r, (build untidyHost ⟨untidyHost.bundled, true⟩).outcome = .ok r ∧
      r.provisionable.toList = ["a", "b\n"] ∧
      (Plan.build r .null).outcome = .ok [⟨"b\n", "F;", false⟩, ⟨"a", "F;", true⟩] := by
  have hbuilt : (build untidyHost ⟨untidyHost.bundled, true⟩).outcome.toOption.map (fun r =>
      (r.provisionable.toList, (Plan.build r .null).outcome.toOption)) =
      some (["a", "b\n"], some [⟨"b\n", "F;", false⟩, ⟨"a", "F;", true⟩]) := by
    decide +kernel
  obtain ⟨r, hr, hparts⟩ := Option.map_eq_some_iff.mp hbuilt
  simp only [Prod.mk.injEq] at hparts
  exact ⟨r, Outcome.eq_ok_of_toOption hr, hparts.1, Outcome.eq_ok_of_toOption hparts.2⟩

/-- In that registry one identifier is tidy and can be asked for; not all are, so that a list
of them has no plan. -/
theorem plan_of_everything_untidy :
    ∃ r, (build untidyHost ⟨untidyHost.bundled, true⟩).outcome = .ok r ∧
      (∀ y, (Plan.build r (.list [.text "a"])).outcome ≠ .error (.unknownIdentifier y)) ∧
      (¬ ∀ x ∈ r.provisionable, IsTidy x) ∧
      ∀ v, Plan.Lists v r.provisionable →
        (Plan.build r v).outcome ≠ (Plan.build r .null).outcome := by
  obtain ⟨r, hr, hlist, hplan⟩ := exists_build_untidyHost
  obtain ⟨-, hall, hone⟩ := plan_of_everything hr
  have hmem : ∀ {x}, x ∈ r.provisionable ↔ x ∈ ["a", "b\n"] := by
    intro x
    rw [TextSet.mem_def, hlist]
  have hsingle : Plan.Lists (.list [.text "a"]) (.ofList ["a"]) :=
    ⟨[.text "a"], rfl, fun i => by simp⟩
  have huntidy : ¬ ∀ x ∈ r.provisionable, IsTidy x := fun htidy =>
    absurd (htidy "b\n" (hmem.mpr (by decide))) (by decide)
  refine ⟨r, hr, fun y hy => ?_, huntidy, fun v hv hsame => ?_⟩
  · obtain ⟨-, htrim, hout⟩ := (hone "a" (hmem.mpr (by decide)) _ hsingle y).mp hy
    rw [← htrim] at hout
    exact hout (hmem.mpr (by decide))
  · rcases (hall v hv).2.mp hsame with htidy | ⟨-, e, -, hfail⟩
    · exact huntidy htidy
    · cases hplan.symm.trans hfail

/-- A registry can be built that has a plan for everything, and refuses the list of
everything and the identifier with the line feed as unknown. -/
theorem untidy_identifier_refused :
    ∃ r, (build untidyHost ⟨untidyHost.bundled, true⟩).outcome = .ok r ∧
      r.provisionable.toList = ["a", "b\n"] ∧
      (Plan.build r .null).outcome = .ok [⟨"b\n", "F;", false⟩, ⟨"a", "F;", true⟩] ∧
      (Plan.build r (.list [.text "a", .text "b\n"])).outcome = .error (.unknownIdentifier "b") ∧
      (Plan.build r (.list [.text "b\n"])).outcome = .error (.unknownIdentifier "b") := by
  obtain ⟨r, hr, hlist, hplan⟩ := exists_build_untidyHost
  have hset : r.provisionable = .ofList ["a", "b\n"] :=
    TextSet.ext_mem fun x => by rw [TextSet.mem_ofList, TextSet.mem_def, hlist]
  have hasks : Plan.Asks r (.list [.text "a", .text "b\n"]) (.ofList ["a", "b"]) :=
    Plan.asks_of_requested (Outcome.eq_ok_of_toOption (by decide))
  have hasksOne : Plan.Asks r (.list [.text "b\n"]) (.ofList ["b"]) :=
    Plan.asks_of_requested (Outcome.eq_ok_of_toOption (by decide))
  refine ⟨r, hr, hlist, hplan, ?_, ?_⟩
  · rw [Plan.build_eq_ofSet hasks, ofSet_outcome_eq_unknown_iff hr, hset]
    decide
  · rw [Plan.build_eq_ofSet hasksOne, ofSet_outcome_eq_unknown_iff hr, hset]
    decide

end Registry

end SchemaDepot
