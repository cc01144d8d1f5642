/-
# What a manifest lists, apart from its folder

The data of a manifest settle all of it but one thing: where the paths lead. So a manifest
can be read in two passes. The first goes through the data and keeps the text of each path;
the second takes the paths from a folder. Where both end well, reading the manifest at once
gives the same (`ofData_of_outline`).

A text of names that do not lead upwards leads to the place these names have below the
folder, whatever the folder is (`pathWithin_of_isDescent`).

Key definitions: `Manifest.Outline`, `Manifest.outline`, `Manifest.Outline.resolve`,
`Manifest.IsDescent`.
Key theorems: `Manifest.ofData_of_outline`, `Manifest.pathWithin_of_isDescent`,
`Manifest.resolve_outline`.
-/
import SchemaDepot.Proofs.Manifest
import SchemaDepot.Proofs.Manifest.Containment

namespace SchemaDepot.Manifest

open Outcome SchemaDepot.Path

/-- A manifest whose paths are texts. -/
structure Outline where
  sentinel : String
  fixed : List (String × String)
  /-- Each name with its path and its tokens. -/
  dynamic : List (String × String × List String)
  textualTemplate : String
  textualDatabases : List (String × ColumnSpec)
deriving DecidableEq

/-! ### The first pass -/

/-- The text of a path, if there is one. -/
def rawPath (owner : String) : Value → Except Error String
  | .text raw => .ok raw
  | _ => .error (.resource (.pathMissing owner))

/-- A fixed database: its identifier and the text of its path. -/
def fixedOutline (e : Value × Value) : Except Error (String × String) := do
  let identifier ← e.1.shown
  let raw ← rawPath identifier e.2
  .ok (identifier, raw)

/-- A dynamic scheme: its name, the text of its path and its tokens. -/
def dynamicOutline (pool : Pool) (e : Value × Value) :
    Except Error (String × String × List String) := do
  let name ← e.1.shown
  let conf ← sectionEntries pool ("dynamic." ++ name) e.2
  let raw ← rawPath name (Value.entry "path" conf)
  let tokens ← tokensOf pool name (Value.entry "tokens" conf)
  .ok (name, raw, tokens)

/-- The outline of the manifest that data describes. -/
def outline (d : Data) : Except Error Outline := do
  let root ← sectionEntries d.pool "<root>" d.root
  let sentinel ← sentinelOf (Value.entry "sentinel" root)
  let fixedData ← sectionEntries d.pool "fixed" (Value.entry "fixed" root)
  let fixed ← fixedData.mapM fixedOutline
  let dynamicData ← sectionEntries d.pool "dynamic" (Value.entry "dynamic" root)
  let dynamic ← dynamicData.mapM (dynamicOutline d.pool)
  let textual ← sectionEntries d.pool "textual_columns" (Value.entry "textual_columns" root)
  let template ← textualTemplateOf d.pool (Value.entry "template" textual)
  let databaseData ←
    sectionEntries d.pool "textual_columns.databases" (Value.entry "databases" textual)
  let databases ← databaseData.mapM (textualEntry d.pool)
  .ok ⟨sentinel, fixed, dynamic, template, databases⟩

/-! ### The second pass -/

section

variable (workingFolder : List String) (folder : Path)

/-- A fixed database with its path from a folder. -/
def fixedWithin (e : String × String) : Except Error (String × Path) := do
  let path ← pathWithin workingFolder folder e.1 (.text e.2)
  .ok (e.1, path)

/-- A dynamic scheme with its path from a folder. -/
def dynamicWithin (e : String × String × List String) : Except Error (String × TemplateEntry) := do
  let path ← pathWithin workingFolder folder e.1 (.text e.2.1)
  .ok (e.1, ⟨e.1, path, e.2.2⟩)

/-- The manifest of an outline, with paths from a folder. -/
def Outline.resolve (o : Outline) : Except Error Manifest := do
  let fixed ← o.fixed.mapM (fixedWithin workingFolder folder)
  let dynamic ← o.dynamic.mapM (dynamicWithin workingFolder folder)
  .ok ⟨o.sentinel, .ofList fixed, .ofList dynamic, o.textualTemplate, .ofList o.textualDatabases⟩

end

/-! ### Both passes -/

variable {workingFolder : List String} {folder : Path}

theorem eq_text_of_rawPath {owner raw : String} {v : Value} (h : rawPath owner v = .ok raw) :
    v = .text raw := by
  unfold rawPath at h
  split at h
  · cases h
    rfl
  · cases h

theorem fixedEntry_of_outline (x : Value × Value) (y : String × String) (z : String × Path)
    (hy : fixedOutline x = .ok y) (hz : fixedWithin workingFolder folder y = .ok z) :
    fixedEntry workingFolder folder x = .ok z := by
  obtain ⟨identifier, hidentifier, hy⟩ := bind_eq_ok_iff.mp hy
  obtain ⟨raw, hraw, hy⟩ := bind_eq_ok_iff.mp hy
  cases hy
  rw [fixedEntry, hidentifier, ok_bind, eq_text_of_rawPath hraw]
  exact hz

theorem dynamicEntry_of_outline {pool : Pool} (x : Value × Value)
    (y : String × String × List String) (z : String × TemplateEntry)
    (hy : dynamicOutline pool x = .ok y) (hz : dynamicWithin workingFolder folder y = .ok z) :
    dynamicEntry workingFolder folder pool x = .ok z := by
  obtain ⟨name, hname, hy⟩ := bind_eq_ok_iff.mp hy
  obtain ⟨conf, hconf, hy⟩ := bind_eq_ok_iff.mp hy
  obtain ⟨raw, hraw, hy⟩ := bind_eq_ok_iff.mp hy
  obtain ⟨tokens, htokens, hy⟩ := bind_eq_ok_iff.mp hy
  cases hy
  obtain ⟨path, hpath, hz⟩ := bind_eq_ok_iff.mp hz
  cases hz
  rw [dynamicEntry, hname, ok_bind, hconf, ok_bind, eq_text_of_rawPath hraw, hpath, ok_bind,
    htokens, ok_bind]

/-- A manifest that is read in two passes is read at once. -/
theorem ofData_of_outline {d : Data} {o : Outline} {m : Manifest} (ho : outline d = .ok o)
    (hm : o.resolve workingFolder folder = .ok m) : ofData workingFolder folder d = .ok m := by
  obtain ⟨root, hroot, ho⟩ := bind_eq_ok_iff.mp ho
  obtain ⟨sentinel, hsentinel, ho⟩ := bind_eq_ok_iff.mp ho
  obtain ⟨fixedData, hfixedData, ho⟩ := bind_eq_ok_iff.mp ho
  obtain ⟨fixed, hfixed, ho⟩ := bind_eq_ok_iff.mp ho
  obtain ⟨dynamicData, hdynamicData, ho⟩ := bind_eq_ok_iff.mp ho
  obtain ⟨dynamic, hdynamic, ho⟩ := bind_eq_ok_iff.mp ho
  obtain ⟨textual, htextual, ho⟩ := bind_eq_ok_iff.mp ho
  obtain ⟨template, htemplate, ho⟩ := bind_eq_ok_iff.mp ho
  obtain ⟨databaseData, hdatabaseData, ho⟩ := bind_eq_ok_iff.mp ho
  obtain ⟨databases, hdatabases, ho⟩ := bind_eq_ok_iff.mp ho
  cases ho
  obtain ⟨fixedPaths, hfixedPaths, hm⟩ := bind_eq_ok_iff.mp hm
  obtain ⟨dynamicPaths, hdynamicPaths, hm⟩ := bind_eq_ok_iff.mp hm
  cases hm
  rw [ofData, hroot, ok_bind, hsentinel, ok_bind, hfixedData, ok_bind,
    mapM_eq_ok_of_passes fixedEntry_of_outline hfixed hfixedPaths, ok_bind, hdynamicData, ok_bind,
    mapM_eq_ok_of_passes dynamicEntry_of_outline hdynamic hdynamicPaths, ok_bind, htextual, ok_bind,
    htemplate, ok_bind, hdatabaseData, ok_bind, hdatabases, ok_bind]

/-! ### Paths that lead downwards -/

/-- The text is made of names, of which none leads upwards. -/
structure IsDescent (raw : String) : Prop where
  not_blank : Text.isBlank raw = false
  trimmed : Text.trim raw = raw
  relative : raw.toList.head? ≠ some '/'
  names : (ofText raw).parts ≠ []
  downwards : up ∉ (ofText raw).parts
  chars : (raw.toList.all fun x => !Text.hasNoBytes x && x != '\x00') = true

instance (raw : String) : Decidable (IsDescent raw) :=
  decidable_of_iff
    (Text.isBlank raw = false ∧ Text.trim raw = raw ∧ raw.toList.head? ≠ some '/' ∧
      (ofText raw).parts ≠ [] ∧ up ∉ (ofText raw).parts ∧
      (raw.toList.all fun x => !Text.hasNoBytes x && x != '\x00') = true)
    ⟨fun ⟨h1, h2, h3, h4, h5, h6⟩ => ⟨h1, h2, h3, h4, h5, h6⟩,
      fun h => ⟨h.not_blank, h.trimmed, h.relative, h.names, h.downwards, h.chars⟩⟩

/-- The place that a text leads to below a settled folder. -/
def descent (root : List String) (raw : String) : Path := ⟨.top, root ++ (ofText raw).parts⟩

theorem pathWithin_of_isDescent {owner raw : String} (hraw : IsDescent raw)
    (hfolder : ∀ c ∈ folder.absoluteParts workingFolder, IsName c) :
    pathWithin workingFolder folder owner (.text raw) =
      .ok (descent (folder.settle workingFolder) raw) := by
  have hplace : (folder.join (ofText raw)).settle workingFolder =
      folder.settle workingFolder ++ (ofText raw).parts := by
    rw [settle, absoluteParts_join, if_neg hraw.relative, follow_append,
      follow_of_not_mem hraw.downwards, settle]
  have hbelow : (descent (folder.settle workingFolder) raw).isBelow
      ⟨.top, folder.settle workingFolder⟩ = true :=
    isBelow_iff.mpr ⟨rfl, _, hraw.names, rfl⟩
  rw [pathWithin_text hfolder (isNameChar_of_all hraw.chars), if_neg (by simp [hraw.not_blank]),
    hraw.trimmed]
  dsimp only
  rw [hplace]
  exact if_pos hbelow

/-- The manifest of an outline whose paths lead downwards. -/
def Outline.below (o : Outline) (root : List String) : Manifest :=
  ⟨o.sentinel, .ofList (o.fixed.map fun e => (e.1, descent root e.2)),
    .ofList (o.dynamic.map fun e => (e.1, ⟨e.1, descent root e.2.1, e.2.2⟩)), o.textualTemplate,
    .ofList o.textualDatabases⟩

/-- An outline whose paths lead downwards can be taken from any folder of names. -/
theorem resolve_outline {o : Outline} (hfixed : ∀ e ∈ o.fixed, IsDescent e.2)
    (hdynamic : ∀ e ∈ o.dynamic, IsDescent e.2.1)
    (hfolder : ∀ c ∈ folder.absoluteParts workingFolder, IsName c) :
    o.resolve workingFolder folder = .ok (o.below (folder.settle workingFolder)) := by
  have hfixedPaths : ∀ e ∈ o.fixed, fixedWithin workingFolder folder e =
      .ok (e.1, descent (folder.settle workingFolder) e.2) := by
    intro e he
    rw [fixedWithin, pathWithin_of_isDescent (hfixed e he) hfolder, ok_bind]
  have hdynamicPaths : ∀ e ∈ o.dynamic, dynamicWithin workingFolder folder e =
      .ok (e.1, ⟨e.1, descent (folder.settle workingFolder) e.2.1, e.2.2⟩) := by
    intro e he
    rw [dynamicWithin, pathWithin_of_isDescent (hdynamic e he) hfolder, ok_bind]
  rw [Outline.resolve, mapM_eq_ok_map_of_forall hfixedPaths, ok_bind,
    mapM_eq_ok_map_of_forall hdynamicPaths, ok_bind]
  rfl

end SchemaDepot.Manifest
