/-
# What the bundled templates render

Each bundled template renders the texts that hold none of its tokens, whatever else they are,
and no others (`Bundle.Installed.exists_render_texts_iff`). Digits hold no token. So the
benchmark database can be made for every length that can be written, and a project can be added
under every name that holds neither of the two tokens (`Bundle.bundled_templates_render`).

Key theorems: `Bundle.Installed.exists_render_texts_iff`, `Bundle.Installed.exists_benchmark`,
`Bundle.Installed.exists_project`, `Bundle.bundled_templates_render`.
-/
import SchemaDepot.Proofs.Bundle.Installed
import SchemaDepot.Proofs.Provision
import SchemaDepot.Proofs.Scheme

namespace SchemaDepot.Bundle

open Text Template

/-- No token is made of digits. -/
theorem exists_letter_of_token : ∀ u ∈ templateFiles, ∀ y ∈ u.tokens,
    (y.toList.any fun c => !isAsciiDigit c) = true := by
  decide

theorem nodup_tokens : ∀ u ∈ templateFiles, u.tokens.Nodup := by
  decide

theorem contains_eq_false_of_digits {s : String} (hs : ∀ c ∈ s.toList, isAsciiDigit c = true)
    {u : TemplateFile} (hu : u ∈ templateFiles) {y : String} (hy : y ∈ u.tokens) :
    contains s y = false := by
  rw [contains_eq_false_iff]
  intro hin
  obtain ⟨c, hc, hletter⟩ := List.any_eq_true.mp (exists_letter_of_token u hu y hy)
  rw [hs c (hin.subset hc)] at hletter
  cases hletter

namespace Installed

variable {h : Host} {settings : Settings} {r : Registry}

/-- Of texts for its tokens, a bundled template renders those that hold no token. -/
theorem exists_render_texts_iff (hi : Installed h settings)
    (hr : (Registry.build h settings).outcome = .ok r) {u : TemplateFile}
    (hu : u ∈ templateFiles) (texts : List (String × String))
    (htexts : texts.map Prod.fst = u.tokens) :
    (∃ s, (r.render u.name (.ofList (texts.map fun e => (e.1, .text e.2)))).outcome = .ok s) ↔
      ∀ e ∈ texts, ∀ y ∈ u.tokens, contains e.2 y = false := by
  obtain ⟨t, hnamed, htext, htokens⟩ := hi.exists_named hr hu
  have hmem : ∀ x, x ∈ t.tokens ↔ x ∈ texts.map Prod.fst := fun x => by
    rw [htokens, TextSet.mem_ofList, htexts]
  have hnodup : (texts.map Prod.fst).Nodup := htexts ▸ nodup_tokens u hu
  have hvalue : ∀ e ∈ texts, (texts.lookup e.1).getD "" = e.2 := fun e he => by
    rw [(Listing.lookup_eq_some_iff_mem hnodup).mpr he, Option.getD_some]
  have hnames : (texts.map fun e => (e.1, Value.text e.2)).map Prod.fst = texts.map Prod.fst := by
    rw [List.map_map]
    rfl
  have hiff := exists_render_iff hu htext htokens
    (.ofList (texts.map fun e => (e.1, .text e.2))) (fun x => (texts.lookup x).getD "")
    r.templates.strict (fun x => by rw [Listing.mem_keys_ofList, hnames, hmem]) fun x hx => by
      obtain ⟨e, he, rfl⟩ := List.mem_map.mp ((hmem x).mp hx)
      rw [hvalue e he]
      exact Listing.get?_ofList_of_nodup (hnames ▸ hnodup) (List.mem_map.mpr ⟨e, he, rfl⟩)
  rw [Scheme.render_outcome hnamed]
  refine hiff.trans ?_
  simp only [hmem, List.forall_mem_map, ← htexts]
  exact forall₂_congr fun e he => by rw [hvalue e he]

/-- The benchmark database can be made for every length that can be written. -/
theorem exists_benchmark (hi : Installed h settings)
    (hr : (Registry.build h settings).outcome = .ok r) {n : Nat} (hpos : 0 < n)
    (hlt : n < tenTo Decimal.digitLimit) :
    ∃ s, (Scheme.benchmark r (.int n)).outcome = .ok s := by
  have hu : benchmarkFile ∈ templateFiles := by simp [templateFiles]
  obtain ⟨digits, hdigits⟩ : ∃ digits, Scheme.lengthText (.int n) = .ok digits :=
    ⟨_, Scheme.lengthText_eq_ok_iff.mpr ⟨hpos, hlt, rfl⟩⟩
  have hclean : ∀ e ∈ [("COLUMN_LENGTH", digits)], ∀ y ∈ benchmarkFile.tokens,
      contains e.2 y = false :=
    List.forall_mem_singleton.mpr fun y =>
      contains_eq_false_of_digits (Scheme.isAsciiDigit_of_positiveText hdigits) hu
  obtain ⟨s, hs⟩ := (hi.exists_render_texts_iff hr hu _ rfl).mpr hclean
  exact ⟨s, Run.bind_outcome_eq_ok_iff.mpr ⟨digits, hdigits, hs⟩⟩

/-- A project can be added under every name that holds none of the tokens. -/
theorem exists_project (hi : Installed h settings)
    (hr : (Registry.build h settings).outcome = .ok r) {name : String} {number : Value}
    (hname : name ≠ "") (hnumber : Scheme.IsNumber number)
    (hclean : ∀ y ∈ ["PROJECT_NAME", "PROJECT_NUMBER"], contains name y = false) :
    ∃ s, (Scheme.project r (.text name) number).outcome = .ok s := by
  have hu : projectFile ∈ templateFiles := by simp [templateFiles]
  obtain ⟨digits, hdigits⟩ := Scheme.exists_numberText_iff.mpr hnumber
  have hclean : ∀ e ∈ [("PROJECT_NAME", name), ("PROJECT_NUMBER", digits)],
      ∀ y ∈ projectFile.tokens, contains e.2 y = false :=
    List.forall_mem_cons.mpr ⟨hclean, List.forall_mem_singleton.mpr fun y =>
      contains_eq_false_of_digits (Scheme.isAsciiDigit_of_numberText hdigits) hu⟩
  obtain ⟨s, hs⟩ := (hi.exists_render_texts_iff hr hu _ rfl).mpr hclean
  exact ⟨s, Run.bind_outcome_eq_ok_iff.mpr ⟨(), Scheme.require_text hname,
    Run.bind_outcome_eq_ok_iff.mpr ⟨digits, hdigits, hs⟩⟩⟩

end Installed

/-- **What the bundled templates render.** From a folder with the bundled files a registry is
built. It has the four templates, and of texts for exactly its tokens, empty ones included, each
of them renders those that hold none of the tokens, and no others. So the benchmark database can
be made for every length that can be written, and a project can be added under every name that
holds neither token and with every number. -/
theorem bundled_templates_render {h : Host} {settings : Settings} (hi : Installed h settings) :
    ∃ r, (Registry.build h settings).outcome = .ok r ∧
      (∀ x, x ∈ r.templates.names ↔ ∃ u ∈ templateFiles, u.name = x) ∧
      (∀ u ∈ templateFiles, ∃ t, r.templates.named u.name = .ok t ∧
        t.text = fileText u.lines ∧ t.tokens = .ofList u.tokens ∧
        ∀ (given : Substitutions) (value : String → String) (strict : Bool),
          (∀ x, x ∈ given.keys ↔ x ∈ t.tokens) →
          (∀ x ∈ t.tokens, given.get? x = some (.text (value x))) →
          ((∃ s, (t.render given strict).outcome = .ok s) ↔
            ∀ x ∈ t.tokens, ∀ y ∈ t.tokens, contains (value x) y = false)) ∧
      (∀ n : Nat, 0 < n → n < tenTo Decimal.digitLimit →
        ∃ s, (Scheme.benchmark r (.int n)).outcome = .ok s) ∧
      ∀ (name : String) (number : Value), name ≠ "" → contains name "PROJECT_NAME" = false →
        contains name "PROJECT_NUMBER" = false → Scheme.IsNumber number →
        ∃ s, (Scheme.project r (.text name) number).outcome = .ok s := by
  obtain ⟨r, hr⟩ := hi.exists_build
  refine ⟨r, hr, fun x => hi.mem_names_iff hr, fun u hu => ?_, fun n hpos hlt => ?_, ?_⟩
  · obtain ⟨t, hnamed, htext, htokens⟩ := hi.exists_named hr hu
    exact ⟨t, hnamed, htext, htokens, exists_render_iff hu htext htokens⟩
  · exact hi.exists_benchmark hr hpos hlt
  · intro name number hname hclean hclean' hnumber
    exact hi.exists_project hr hname hnumber
      (List.forall_mem_cons.mpr ⟨hclean, List.forall_mem_singleton.mpr hclean'⟩)

/-- What is left of a token in the text of textual columns behind the word `DATABASE` is
rendered for it, next to empty texts. -/
theorem bundled_templates_render_here :
    Installed bundledHost ⟨bundledHost.bundled, true⟩ ∧
    ∃ r, (Registry.build bundledHost ⟨bundledHost.bundled, true⟩).outcome = .ok r ∧
      (∃ t, r.templates.named "textual_columns" = .ok t ∧ ∃ s, (t.render (.ofList
        [("DATABASE_NAME", .text "_NAME"), ("COLUMN_TYPE", .text ""),
          ("COLUMN_LENGTH", .text "")]) true).outcome = .ok s) ∧
      (∃ s, (Scheme.benchmark r (.int 30)).outcome = .ok s) ∧
      ∃ s, (Scheme.project r (.text "demo") (.text "0119")).outcome = .ok s := by
  obtain ⟨r, hr, -, hrender, hbenchmark, hproject⟩ :=
    bundled_templates_render installed_bundledHost
  refine ⟨installed_bundledHost, r, hr, ?_, hbenchmark 30 (by decide) (by decide +kernel), ?_⟩
  · obtain ⟨t, hnamed, -, htokens, hiff⟩ := hrender textualFile (by simp [templateFiles])
    have hmem : ∀ x, x ∈ t.tokens ↔ x ∈ ["DATABASE_NAME", "COLUMN_TYPE", "COLUMN_LENGTH"] :=
      fun x => by rw [htokens, TextSet.mem_ofList]; rfl
    refine ⟨t, hnamed, (hiff _ (fun x => if x = "DATABASE_NAME" then "_NAME" else "") true
      (fun x => ?_) fun x hx => ?_).mpr ?_⟩
    · rw [hmem, Listing.mem_keys_ofList]
      rfl
    · simp only [hmem, List.mem_cons, List.not_mem_nil, or_false] at hx
      rcases hx with rfl | rfl | rfl <;> rfl
    · simp only [hmem]
      decide
  · have hdigits : ∀ c ∈ "0119".toList, isAsciiDigit c = true := List.all_eq_true.mp (by decide)
    exact hproject "demo" (.text "0119") (by decide) (by decide) (by decide)
      (.numeral hdigits ⟨'9', by decide, by decide⟩ (by decide))

end SchemaDepot.Bundle
