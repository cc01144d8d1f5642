/-
# The bundled templates

Four templates come with the depot. What can be seen from their texts is checked here, once:
the tokens that the manifest declares can be told apart in the text, and each of them has its
fence there (`Bundle.wellFenced_of_mem`). So whatever text is given for the tokens, its ends
form no token with what stands around it, and such a template renders exactly the texts that
hold no token (`Bundle.exists_render_iff`).

Key definitions: `Bundle.TemplateFile`, `Bundle.templateFiles`, `Bundle.WellFenced`.
Key theorems: `Bundle.wellFenced_of_mem`, `Bundle.WellFenced.admissible`,
`Bundle.exists_render_iff`.
-/
import SchemaDepot.Proofs.Bundle
import SchemaDepot.Proofs.Template.Crossing

namespace SchemaDepot.Bundle

open Text Template

/-- A template that comes with the depot. -/
structure TemplateFile where
  name : String
  /-- The name of its file. -/
  file : String
  lines : List String
  tokens : List String

/-- The template of the benchmark database. -/
def benchmarkFile : TemplateFile where
  name := "benchmark"
  file := "benchmark.sql"
  lines := benchmark
  tokens := ["COLUMN_LENGTH"]

/-- The template of a row of the benchmark database. -/
def benchmarkRowFile : TemplateFile where
  name := "benchmark_add_row"
  file := "benchmark_add_row.sql"
  lines := benchmarkAddRow
  tokens := ["VALUE_COLUMN_1", "VALUE_COLUMN_2"]

/-- The template of a project. -/
def projectFile : TemplateFile where
  name := "hopsworks_add_project"
  file := "hopsworks_add_project.sql"
  lines := hopsworksAddProject
  tokens := ["PROJECT_NAME", "PROJECT_NUMBER"]

/-- The template of textual columns. -/
def textualFile : TemplateFile where
  name := "textual_columns"
  file := "textual_columns.sql"
  lines := textualColumns
  tokens := ["DATABASE_NAME", "COLUMN_TYPE", "COLUMN_LENGTH"]

/-- The templates that come with the depot. -/
def templateFiles : List TemplateFile :=
  [benchmarkFile, benchmarkRowFile, projectFile, textualFile]

theorem dynamicFiles_eq : dynamicFiles = templateFiles.map fun u => (u.file, u.lines) := rfl

theorem dynamic_bundledOutline : bundledOutline.dynamic =
    templateFiles.map fun u => (u.name, "dynamic/" ++ u.file, u.tokens) := by
  decide

/-! ### What is checked of a text -/

/-- The words can be told apart in the characters, and each has its fence there. -/
structure WellFenced (cs : List Char) (words : List (List Char)) : Prop where
  text_not_blank : cs.all isBlankChar = false
  no_return : '\r' ∉ cs
  word_not_blank : ∀ w ∈ words, w.all isBlankChar = false
  word_occurs : ∀ w ∈ words, occurs w cs = true
  word_not_within : ∀ w ∈ words, ∀ u ∈ words, u ≠ w → occurs w u = false
  fenced : (cutFrom words 0 cs).isFenced words = true

instance (cs : List Char) (words : List (List Char)) : Decidable (WellFenced cs words) :=
  decidable_of_iff
    (cs.all isBlankChar = false ∧ '\r' ∉ cs ∧ (∀ w ∈ words, w.all isBlankChar = false) ∧
      (∀ w ∈ words, occurs w cs = true) ∧
      (∀ w ∈ words, ∀ u ∈ words, u ≠ w → occurs w u = false) ∧
      (cutFrom words 0 cs).isFenced words = true)
    ⟨fun ⟨h1, h2, h3, h4, h5, h6⟩ => ⟨h1, h2, h3, h4, h5, h6⟩, fun h => ⟨h.text_not_blank,
      h.no_return, h.word_not_blank, h.word_occurs, h.word_not_within, h.fenced⟩⟩

theorem wellFenced_benchmarkFile :
    WellFenced (fileChars benchmark) (benchmarkFile.tokens.map String.toList) := by
  unfold benchmark
  repeat rw [fileChars_cons]
  decide +kernel

theorem wellFenced_benchmarkRowFile :
    WellFenced (fileChars benchmarkAddRow) (benchmarkRowFile.tokens.map String.toList) := by
  unfold benchmarkAddRow
  repeat rw [fileChars_cons]
  decide +kernel

theorem wellFenced_projectFile :
    WellFenced (fileChars hopsworksAddProject) (projectFile.tokens.map String.toList) := by
  unfold hopsworksAddProject
  repeat rw [fileChars_cons]
  decide +kernel

theorem wellFenced_textualFile :
    WellFenced (fileChars textualColumns) (textualFile.tokens.map String.toList) := by
  unfold textualColumns
  repeat rw [fileChars_cons]
  decide +kernel

/-- The tokens of each bundled template are fenced in its text. -/
theorem wellFenced_of_mem : ∀ u ∈ templateFiles,
    WellFenced (fileText u.lines).toList (u.tokens.map String.toList) := by
  simp only [templateFiles, List.forall_mem_cons, toList_fileText]
  exact ⟨wellFenced_benchmarkFile, wellFenced_benchmarkRowFile, wellFenced_projectFile,
    wellFenced_textualFile, fun _ h => absurd h List.not_mem_nil⟩

/-! ### What follows for the templates -/

theorem WellFenced.admissible {text : String} {tokens : List String}
    (h : WellFenced text.toList (tokens.map String.toList)) :
    Admissible text (.ofList tokens) where
  text_not_blank := h.text_not_blank
  token_not_blank _ hx :=
    h.word_not_blank _ (List.mem_map_of_mem (TextSet.mem_ofList.mp hx))
  token_occurs _ hx := h.word_occurs _ (List.mem_map_of_mem (TextSet.mem_ofList.mp hx))
  token_not_within _ hx _ hy hne :=
    h.word_not_within _ (List.mem_map_of_mem (TextSet.mem_ofList.mp hx)) _
      (List.mem_map_of_mem (TextSet.mem_ofList.mp hy)) fun e => hne (String.toList_injective e)

variable {u : TemplateFile} {t : Template}

theorem isFenced_of_mem (hu : u ∈ templateFiles) (htext : t.text = fileText u.lines)
    (htokens : t.tokens = .ofList u.tokens) : t.cut.isFenced (wordsOf t.tokens) = true := by
  have hwords : ∀ w, w ∈ u.tokens.map String.toList ↔ w ∈ wordsOf t.tokens := fun w => by
    rw [htokens, mem_wordsOf_ofList]
  refine isFenced_cut hwords ?_
  rw [htext]
  exact (wellFenced_of_mem u hu).fenced

/-- Of texts for exactly its tokens, a bundled template renders those that hold no token. -/
theorem exists_render_iff (hu : u ∈ templateFiles) (htext : t.text = fileText u.lines)
    (htokens : t.tokens = .ofList u.tokens) (given : Substitutions) (value : String → String)
    (strict : Bool) (hkeys : ∀ x, x ∈ given.keys ↔ x ∈ t.tokens)
    (hgiven : ∀ x ∈ t.tokens, given.get? x = some (.text (value x))) :
    (∃ s, (t.render given strict).outcome = .ok s) ↔
      ∀ x ∈ t.tokens, ∀ y ∈ t.tokens, contains (value x) y = false :=
  exists_outcome_iff_of_fenced (isFenced_of_mem hu htext htokens)
    ⟨fun x hx => (hkeys x).mpr hx, fun _ x hx => (hkeys x).mp hx⟩ hgiven

end SchemaDepot.Bundle
