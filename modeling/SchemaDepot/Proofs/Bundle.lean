/-
# What the bundled manifest lists

The manifest that comes with the depot is read once, here, by its characters. What is
read depends on nothing else: the folder only settles where the paths lead.

The manifest declares four templates. In none of them a token ends as one begins, so
whatever text a file of that folder holds, none of its tokens can stand across another.

Key definitions: `Bundle.bundledOutline`, `Manifest.declaredTokens`,
`Bundle.bundledTokens`.
Key theorems: `Bundle.outline_manifest`, `Manifest.exists_declaredTokens`,
`Bundle.declaredTokens_manifest`, `Bundle.overlapFree_of_build`.
-/
import SchemaDepot.Bundle
import SchemaDepot.Proofs.Manifest.Outline
import SchemaDepot.Proofs.Registry
import SchemaDepot.Proofs.Template.Rendering

namespace SchemaDepot

namespace Manifest

/-- The tokens of one dynamic scheme in the data of a manifest. -/
def entryTokens (pool : Pool) (e : Value × Value) : Except Error (List String) := do
  let name ← e.1.shown
  let conf ← sectionEntries pool ("dynamic." ++ name) e.2
  tokensOf pool name (Value.entry "tokens" conf)

/-- The tokens of each dynamic scheme in the data of a manifest. -/
def declaredTokens (d : Data) : Except Error (List (List String)) := do
  let root ← sectionEntries d.pool "<root>" d.root
  let dynamicData ← sectionEntries d.pool "dynamic" (Value.entry "dynamic" root)
  dynamicData.mapM (entryTokens d.pool)

theorem entryTokens_of_dynamicEntry {workingFolder : List String} {folder : Path} {pool : Pool}
    (x : Value × Value) (e : String × TemplateEntry)
    (h : dynamicEntry workingFolder folder pool x = .ok e) :
    entryTokens pool x = .ok e.2.tokens := by
  obtain ⟨hname, -, conf, hconf, -, htokens⟩ := exists_of_dynamicEntry h
  exact Outcome.bind_eq_ok_iff.mpr ⟨_, hname, Outcome.bind_eq_ok_iff.mpr ⟨_, hconf, htokens⟩⟩

theorem entryTokens_of_dynamicOutline {pool : Pool} (x : Value × Value)
    (e : String × String × List String) (h : dynamicOutline pool x = .ok e) :
    entryTokens pool x = .ok e.2.2 := by
  obtain ⟨name, hname, h⟩ := Outcome.bind_eq_ok_iff.mp h
  obtain ⟨conf, hconf, h⟩ := Outcome.bind_eq_ok_iff.mp h
  obtain ⟨raw, -, h⟩ := Outcome.bind_eq_ok_iff.mp h
  obtain ⟨tokens, htokens, h⟩ := Outcome.bind_eq_ok_iff.mp h
  cases h
  rw [entryTokens, hname, Outcome.ok_bind, hconf, Outcome.ok_bind, htokens]

theorem declaredTokens_of_outline {d : Data} {o : Outline} (h : outline d = .ok o) :
    declaredTokens d = .ok (o.dynamic.map fun e => e.2.2) := by
  obtain ⟨root, hroot, h⟩ := Outcome.bind_eq_ok_iff.mp h
  obtain ⟨sentinel, -, h⟩ := Outcome.bind_eq_ok_iff.mp h
  obtain ⟨fixedData, -, h⟩ := Outcome.bind_eq_ok_iff.mp h
  obtain ⟨fixed, -, h⟩ := Outcome.bind_eq_ok_iff.mp h
  obtain ⟨dynamicData, hdynamicData, h⟩ := Outcome.bind_eq_ok_iff.mp h
  obtain ⟨dynamic, hdynamic, h⟩ := Outcome.bind_eq_ok_iff.mp h
  obtain ⟨textual, -, h⟩ := Outcome.bind_eq_ok_iff.mp h
  obtain ⟨template, -, h⟩ := Outcome.bind_eq_ok_iff.mp h
  obtain ⟨databaseData, -, h⟩ := Outcome.bind_eq_ok_iff.mp h
  obtain ⟨databases, -, h⟩ := Outcome.bind_eq_ok_iff.mp h
  cases h
  rw [declaredTokens, hroot, Outcome.ok_bind, hdynamicData, Outcome.ok_bind]
  exact Outcome.mapM_eq_ok_map entryTokens_of_dynamicOutline hdynamic

/-- The tokens of the dynamic schemes of a manifest are those in its data. -/
theorem exists_declaredTokens {workingFolder : List String} {folder : Path} {d : Data}
    {m : Manifest} (h : ofData workingFolder folder d = .ok m) :
    ∃ tss, declaredTokens d = .ok tss ∧ ∀ e ∈ m.dynamic.entries, e.2.tokens ∈ tss := by
  obtain ⟨root, -, -, dynamicData, dynamic, -, -, -, hroot, -, -, -, hdata, hread, -, -, -, -, -,
    hm, -⟩ := exists_of_ofData h
  refine ⟨dynamic.map fun e => e.2.tokens, ?_, fun e he => ?_⟩
  · exact Outcome.bind_eq_ok_iff.mpr ⟨root, hroot, Outcome.bind_eq_ok_iff.mpr ⟨dynamicData, hdata,
      Outcome.mapM_eq_ok_map entryTokens_of_dynamicEntry hread⟩⟩
  · rw [hm] at he
    exact List.mem_map.mpr ⟨e, Listing.mem_of_get?_ofList (Listing.get?_eq_some_iff.mpr he), rfl⟩

end Manifest

namespace Bundle

open Text Template

/-- The characters of a file of lines. -/
def fileChars (lines : List String) : List Char := lines.flatMap fun l => l.toList ++ ['\n']

theorem toList_fileText (lines : List String) : (fileText lines).toList = fileChars lines := by
  rw [fileText, fileChars, String.toList_join, List.flatMap_map]
  simp only [String.toList_append, String.reduceToList]

/-- A literal is a list of characters as it stands. Evaluation takes a file apart by this much
faster than it decodes the bytes of its lines. -/
theorem fileChars_cons (cs : List Char) (lines : List String) :
    fileChars (String.ofList cs :: lines) = cs ++ '\n' :: fileChars lines := by
  rw [fileChars, List.flatMap_cons, String.toList_ofList, List.append_assoc]
  rfl

/-- The outline of the bundled manifest. -/
def bundledOutline : Manifest.Outline where
  sentinel := "sentinel"
  fixed := [("hopsworks", "fixed/hopsworks.sql"), ("db000", "fixed/DB000.sql"),
    ("db001", "fixed/DB001.sql"), ("db002", "fixed/DB002.sql"), ("db003", "fixed/DB003.sql"),
    ("db004", "fixed/DB004.sql"), ("db005", "fixed/DB005.sql"), ("db006", "fixed/DB006.sql"),
    ("db007", "fixed/DB007.sql"), ("db008", "fixed/DB008.sql"), ("db009", "fixed/DB009.sql"),
    ("db010", "fixed/DB010.sql"), ("db011", "fixed/DB011.sql"), ("db013", "fixed/DB013.sql"),
    ("db019", "fixed/DB019.sql"), ("db020", "fixed/DB020.sql"), ("db021", "fixed/DB021.sql"),
    ("db022", "fixed/DB022.sql"), ("db023", "fixed/DB023.sql"), ("db024", "fixed/DB024.sql"),
    ("sentinel", "fixed/sentinel.sql")]
  dynamic := [("benchmark", "dynamic/benchmark.sql", ["COLUMN_LENGTH"]),
    ("benchmark_add_row", "dynamic/benchmark_add_row.sql", ["VALUE_COLUMN_1", "VALUE_COLUMN_2"]),
    ("hopsworks_add_project", "dynamic/hopsworks_add_project.sql",
      ["PROJECT_NAME", "PROJECT_NUMBER"]),
    ("textual_columns", "dynamic/textual_columns.sql",
      ["DATABASE_NAME", "COLUMN_TYPE", "COLUMN_LENGTH"])]
  textualTemplate := "textual_columns"
  textualDatabases := [("db012", ⟨"VARCHAR", 50⟩), ("db014", ⟨"CHAR", 100⟩),
    ("db015", ⟨"VARCHAR", 256⟩), ("db016", ⟨"BINARY", 100⟩), ("db017", ⟨"VARBINARY", 100⟩),
    ("db018", ⟨"VARBINARY", 255⟩)]

/-- The tokens of each template in the bundled manifest. -/
def bundledTokens : List (List String) :=
  [["COLUMN_LENGTH"], ["VALUE_COLUMN_1", "VALUE_COLUMN_2"], ["PROJECT_NAME", "PROJECT_NUMBER"],
    ["DATABASE_NAME", "COLUMN_TYPE", "COLUMN_LENGTH"]]

set_option maxRecDepth 100000 in
/-- Reading the bundled manifest gives this outline. -/
theorem outline_manifest :
    (Yaml.readChars (fileChars manifest)).toOption.bind
      (fun d => (Manifest.outline d).toOption) = some bundledOutline := by
  unfold manifest
  repeat rw [fileChars_cons]
  decide +kernel

theorem exists_outline : ∃ d, Yaml.read (fileText manifest) = .ok d ∧
    Manifest.outline d = .ok bundledOutline := by
  obtain ⟨d, hd, ho⟩ := Option.bind_eq_some_iff.mp outline_manifest
  refine ⟨d, ?_, Outcome.eq_ok_of_toOption ho⟩
  rw [Yaml.read, toList_fileText]
  exact Outcome.eq_ok_of_toOption hd

/-- Reading the bundled manifest gives these tokens. -/
theorem declaredTokens_manifest :
    (Yaml.readChars (fileChars manifest)).toOption.bind
      (fun d => (Manifest.declaredTokens d).toOption) = some bundledTokens := by
  obtain ⟨d, hd, ho⟩ := Option.bind_eq_some_iff.mp outline_manifest
  refine Option.bind_eq_some_iff.mpr ⟨d, hd, ?_⟩
  rw [Manifest.declaredTokens_of_outline (Outcome.eq_ok_of_toOption ho)]
  rfl

/-- The registry is built from the bundled manifest, wherever that stands. -/
def Supplies (h : Host) (settings : Settings) : Prop :=
  h.read settings.manifestPath (.resource (.manifestAbsent settings.manifestPath.text)) =
    .ok (fileText manifest)

/-- In no template of a registry built from the bundled manifest a token ends as one
begins. -/
theorem overlapFree_of_build {h : Host} {settings : Settings} {r : Registry}
    (hs : Supplies h settings) (hr : (Registry.build h settings).outcome = .ok r) {x : String}
    {t : Template} (ht : r.templates.named x = .ok t) : OverlapFree (wordsOf t.tokens) := by
  obtain ⟨m, hload, hm⟩ := Registry.build_outcome_eq_ok_iff.mp hr
  obtain ⟨text, d, htext, hd, hdata⟩ := Manifest.exists_of_load hload
  have hserves := Registry.serves_of_ofManifest (Manifest.regular_of_ofData hdata) hm
  obtain ⟨e, he, -, -, htokens⟩ := hserves.template x t ht
  obtain ⟨tss, htss, hmem⟩ := Manifest.exists_declaredTokens hdata
  have hsame : text = fileText manifest := Except.ok.inj (htext.symm.trans hs)
  -- the data is that of the bundled characters, so the tokens are among the bundled ones
  rw [hsame, Yaml.read, toList_fileText] at hd
  have hread := declaredTokens_manifest
  rw [hd] at hread
  simp only [Except.toOption, Option.bind_some, htss, Option.some.injEq] at hread
  subst hread
  have hfree : ∀ ts ∈ bundledTokens, OverlapFree (ts.map String.toList) := by decide
  rw [htokens]
  exact (hfree _ (hmem _ (Listing.get?_eq_some_iff.mp he))).mono fun w => mem_wordsOf_ofList.mp

theorem overlapFree_textualTokens : OverlapFree (wordsOf Registry.textualTokens) := by
  have hfree : OverlapFree ([Registry.databaseToken, Registry.columnTypeToken,
      Registry.columnLengthToken].map String.toList) := by decide
  exact hfree.mono fun w => mem_wordsOf_ofList.mp

end Bundle

end SchemaDepot
