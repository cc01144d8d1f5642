/-
# The bundled files in a resource folder

A registry can be built from a folder that holds the bundled files, wherever that folder is
(`Bundle.Installed.exists_build`), and it serves the bundled templates with the texts of their
files (`Bundle.Installed.exists_named`). Installing the files in a tree makes such a folder
(`Bundle.installed_of_install`), as in `Bundle.bundledHost`.

Nothing but the manifest and the four templates is read for this. Of the other files it is
enough that none of them is blank.

Key definitions: `Bundle.Installed`, `Bundle.bundledHost`.
Key theorems: `Bundle.Installed.load`, `Bundle.Installed.exists_build`,
`Bundle.Installed.exists_named`, `Bundle.installed_of_install`.
-/
import SchemaDepot.Proofs.Bundle.Templates
import SchemaDepot.Proofs.Host

namespace SchemaDepot.Bundle

open Text Template

/-! ### The bundled files -/

theorem isBlank_fileText (lines : List String) :
    isBlank (fileText lines) = lines.all isBlank := by
  have hbreak : isBlankChar '\n' = true := by decide
  rw [isBlank, toList_fileText, fileChars, List.all_flatMap]
  refine congrArg (List.all lines) (funext fun l => ?_)
  simp [hbreak, isBlank]

theorem not_blank_fixedFiles : ∀ f ∈ fixedFiles, isBlank (fileText f.2) = false := by
  simp only [isBlank_fileText]
  decide +kernel

theorem no_return_manifest : '\r' ∉ (fileText manifest).toList := by
  rw [toList_fileText]
  unfold manifest
  repeat rw [fileChars_cons]
  decide +kernel

theorem exists_fixedFile : ∀ e ∈ bundledOutline.fixed, ∃ f ∈ fixedFiles,
    (Path.ofText e.2).parts = ["fixed", f.1] := by
  decide +kernel

theorem parts_of_mem : ∀ u ∈ templateFiles,
    (Path.ofText ("dynamic/" ++ u.file)).parts = ["dynamic", u.file] := by
  decide +kernel

theorem isDescent_fixed : ∀ e ∈ bundledOutline.fixed, Manifest.IsDescent e.2 := by
  decide +kernel

theorem isDescent_dynamic : ∀ e ∈ bundledOutline.dynamic, Manifest.IsDescent e.2.1 := by
  decide +kernel

/-! ### Building from them -/

/-- The resource folder holds the bundled files. The manifest is found by the path of the
settings; the other files are found below the place it leads to. -/
structure Installed (h : Host) (settings : Settings) : Prop where
  /-- Each name on the way can be that of a file, or leads upwards. -/
  named : ∀ c ∈ settings.resourceFolder.absoluteParts h.workingFolder, Path.IsName c
  manifest : h.tree.find h.workingFolder settings.manifestPath =
    .ok (some (fileText manifest).toUTF8)
  file : ∀ f ∈ files, h.tree.find h.workingFolder ⟨.top, h.place settings.resourceFolder ++ f.1⟩ =
    .ok (some f.2.toUTF8)

section

variable {root : List String}

theorem of_mem_fixed {e : String × Path} (he : e ∈ (bundledOutline.below root).fixed.entries) :
    ∃ f ∈ fixedFiles, e.2 = ⟨.top, root ++ ["fixed", f.1]⟩ := by
  have hmem : (e.1, e.2) ∈ bundledOutline.fixed.map fun o => (o.1, Manifest.descent root o.2) :=
    Listing.mem_of_get?_ofList (Listing.get?_eq_some_iff.mpr he)
  obtain ⟨o, ho, hoe⟩ := List.mem_map.mp hmem
  obtain ⟨f, hf, hparts⟩ := exists_fixedFile o ho
  refine ⟨f, hf, ?_⟩
  rw [← (Prod.mk.inj hoe).2, Manifest.descent, hparts]

theorem get?_dynamic_eq_some_iff {x : String} {e : TemplateEntry} :
    (bundledOutline.below root).dynamic.get? x = some e ↔ ∃ u ∈ templateFiles,
      u.name = x ∧ e = ⟨x, ⟨.top, root ++ ["dynamic", u.file]⟩, u.tokens⟩ := by
  have hnames : (templateFiles.map TemplateFile.name).Nodup := by decide
  have hentries : (bundledOutline.below root).dynamic = .ofList (templateFiles.map fun u =>
      (u.name, ⟨u.name, ⟨.top, root ++ ["dynamic", u.file]⟩, u.tokens⟩)) := by
    rw [Manifest.Outline.below, dynamic_bundledOutline, List.map_map]
    refine congrArg Listing.ofList (List.map_congr_left fun u hu => ?_)
    rw [Function.comp_apply, Manifest.descent, parts_of_mem u hu]
  rw [hentries]
  constructor
  · intro he
    obtain ⟨u, hu, hue⟩ := List.mem_map.mp (Listing.mem_of_get?_ofList he)
    obtain ⟨rfl, rfl⟩ := Prod.mk.inj hue
    exact ⟨u, hu, rfl, rfl⟩
  · rintro ⟨u, hu, rfl, rfl⟩
    refine Listing.get?_ofList_of_nodup ?_ (List.mem_map.mpr ⟨u, hu, rfl⟩)
    rwa [List.map_map]

end

/-- What is checked of the manifest without the files it names. -/
theorem checks_bundledOutline :
    (∀ x ∈ bundledOutline.fixed.map Prod.fst, Catalogue.isIdentifier x = true) ∧
    bundledOutline.sentinel ∈ bundledOutline.fixed.map Prod.fst ∧
    ∀ x ∈ bundledOutline.textualDatabases.map Prod.fst, x ∉ bundledOutline.fixed.map Prod.fst := by
  decide +kernel

namespace Installed

variable {h : Host} {settings : Settings}

theorem readSchema_template (hi : Installed h settings) {u : TemplateFile}
    (hu : u ∈ templateFiles) :
    h.readSchema ⟨.top, h.place settings.resourceFolder ++ ["dynamic", u.file]⟩ =
      .ok (fileText u.lines) := by
  have hf : (["dynamic", u.file], fileText u.lines) ∈ files := by
    refine List.mem_append_right _ ?_
    rw [dynamicFiles_eq, List.map_map]
    exact List.mem_map_of_mem hu
  have hchecked := wellFenced_of_mem u hu
  exact Host.readSchema_of_find (hi.file _ hf) hchecked.no_return hchecked.text_not_blank

theorem exists_readSchema_fixed (hi : Installed h settings) {f : String × List String}
    (hf : f ∈ fixedFiles) :
    ∃ s, h.readSchema ⟨.top, h.place settings.resourceFolder ++ ["fixed", f.1]⟩ = .ok s := by
  have hmem : (["fixed", f.1], fileText f.2) ∈ files :=
    List.mem_append_left _ (List.mem_cons_of_mem _ (List.mem_map_of_mem hf))
  exact Host.exists_readSchema_of_find (hi.file _ hmem) (not_blank_fixedFiles f hf)

theorem supplies (hi : Installed h settings) : Supplies h settings :=
  Host.read_of_find hi.manifest no_return_manifest

/-- The manifest that is loaded has the bundled outline. -/
theorem load (hi : Installed h settings) :
    (Manifest.load h settings.manifestPath).outcome =
      .ok (bundledOutline.below (h.place settings.resourceFolder)) := by
  obtain ⟨d, hd, ho⟩ := exists_outline
  have hdata := Manifest.ofData_of_outline ho
    (Manifest.resolve_outline isDescent_fixed isDescent_dynamic hi.named)
  have hread : Manifest.read h settings.manifestPath =
      .ok (bundledOutline.below (h.place settings.resourceFolder)) := by
    rw [Manifest.read, hi.supplies, Outcome.ok_bind]
    simp only [hd]
    rw [Settings.manifestPath, Path.parent_child]
    exact hdata
  exact Run.bind_outcome_eq_ok_iff.mpr ⟨_, hread, rfl⟩

theorem buildable (hi : Installed h settings) :
    (bundledOutline.below (h.place settings.resourceFolder)).Buildable h := by
  obtain ⟨hidentifier, hsentinel, hapart⟩ := checks_bundledOutline
  have hfixed : ∀ x, x ∈ (bundledOutline.below (h.place settings.resourceFolder)).fixed.keys ↔
      x ∈ bundledOutline.fixed.map Prod.fst := by
    intro x
    rw [Manifest.Outline.below, Listing.mem_keys_ofList, List.map_map]
    rfl
  constructor
  case fixed_loads =>
    intro e he
    obtain ⟨f, hf, hpath⟩ := of_mem_fixed he
    rw [hpath]
    exact hi.exists_readSchema_fixed hf
  case identifier => exact fun x hx => hidentifier x ((hfixed x).mp hx)
  case sentinel_fixed => exact (hfixed _).mpr hsentinel
  case dynamic_loads =>
    intro e he
    obtain ⟨u, hu, -, hentry⟩ := get?_dynamic_eq_some_iff.mp (Listing.get?_eq_some_iff.mpr he)
    rw [hentry]
    exact ⟨_, hi.readSchema_template hu,
      fault?_eq_none_iff.mpr (wellFenced_of_mem u hu).admissible⟩
  case textual_apart =>
    intro x hx
    rw [hfixed]
    exact hapart x (Listing.mem_keys_ofList.mp hx)
  case textual_template =>
    intro _
    have hu : textualFile ∈ templateFiles := by simp [templateFiles]
    exact ⟨_, get?_dynamic_eq_some_iff.mpr ⟨textualFile, hu, rfl, rfl⟩, rfl⟩

/-- A registry can be built from the folder. -/
theorem exists_build (hi : Installed h settings) :
    ∃ r, (Registry.build h settings).outcome = .ok r :=
  (Registry.exists_build_iff_serves h settings).1.mpr ⟨_, hi.load, hi.buildable⟩

theorem serves (hi : Installed h settings) {r : Registry}
    (hr : (Registry.build h settings).outcome = .ok r) :
    r.Serves h (bundledOutline.below (h.place settings.resourceFolder)) := by
  obtain ⟨m, hload, hserves⟩ := (Registry.exists_build_iff_serves h settings).2 r hr
  rw [hi.load, Except.ok.injEq] at hload
  rwa [hload]

/-- The registry serves the four templates, each with the text of its file. -/
theorem exists_named (hi : Installed h settings) {r : Registry}
    (hr : (Registry.build h settings).outcome = .ok r) {u : TemplateFile}
    (hu : u ∈ templateFiles) :
    ∃ t, r.templates.named u.name = .ok t ∧ t.text = fileText u.lines ∧
      t.tokens = .ofList u.tokens := by
  have hserves := hi.serves hr
  have hentry : (bundledOutline.below (h.place settings.resourceFolder)).dynamic.get? u.name =
      some _ := get?_dynamic_eq_some_iff.mpr ⟨u, hu, rfl, rfl⟩
  have hkey : u.name ∈ r.templates.names :=
    (hserves.template_names u.name).mpr (Listing.mem_keys_of_get? hentry)
  obtain ⟨t, ht⟩ := Listing.exists_get?_of_mem_keys (TemplateSet.mem_names.mp hkey)
  have hnamed : r.templates.named u.name = .ok t := TemplateSet.named_eq_ok_iff.mpr ht
  obtain ⟨e, he, hread, -, htokens⟩ := hserves.template _ t hnamed
  cases hentry.symm.trans he
  rw [hi.readSchema_template hu, Except.ok.injEq] at hread
  exact ⟨t, hnamed, hread.symm, htokens⟩

theorem mem_names_iff (hi : Installed h settings) {r : Registry}
    (hr : (Registry.build h settings).outcome = .ok r) {x : String} :
    x ∈ r.templates.names ↔ ∃ u ∈ templateFiles, u.name = x := by
  rw [(hi.serves hr).template_names, ← Listing.has_eq_true_iff_mem, Listing.has_eq_true_iff]
  simp only [get?_dynamic_eq_some_iff]
  constructor
  · rintro ⟨_, u, hu, hname, -⟩
    exact ⟨u, hu, hname⟩
  · rintro ⟨u, hu, hname⟩
    exact ⟨_, u, hu, hname, rfl⟩

end Installed

/-! ### Installing them -/

/-- Files written one after another at places of their own are all held. -/
theorem holds_foldl_write {fs : List (List String × ByteArray)} (hfs : (fs.map Prod.fst).Nodup) :
    ∀ (t : Tree), (∀ f ∈ fs, (fs.foldl (fun t f => t.write f.1 f.2) t).Holds f.1 f.2) ∧
      ∀ place bytes, place ∉ fs.map Prod.fst → t.Holds place bytes →
        (fs.foldl (fun t f => t.write f.1 f.2) t).Holds place bytes := by
  induction fs with
  | nil => exact fun t => ⟨fun _ hf => absurd hf List.not_mem_nil, fun _ _ _ h => h⟩
  | cons f fs ih =>
    intro t
    obtain ⟨hnot, hfs⟩ := List.nodup_cons.mp hfs
    obtain ⟨hnew, hold⟩ := ih hfs (t.write f.1 f.2)
    refine ⟨List.forall_mem_cons.mpr ⟨hold _ _ hnot (Tree.holds_write t f.1 f.2), hnew⟩, ?_⟩
    intro place bytes hplace h
    rw [List.map_cons, List.mem_cons, not_or] at hplace
    exact hold place bytes hplace.2 (h.write hplace.1)

theorem nodup_files : (files.map Prod.fst).Nodup := by
  decide +kernel

theorem holds_install (t : Tree) (folder : List String) :
    ∀ f ∈ files, (install t folder).Holds (folder ++ f.1) f.2.toUTF8 := by
  have hplaces : ((files.map fun f => (folder ++ f.1, f.2.toUTF8)).map Prod.fst).Nodup := by
    have hbelow : ((files.map Prod.fst).map (folder ++ ·)).Nodup :=
      List.Pairwise.map _ (fun _ _ hne h => hne (List.append_cancel_left h)) nodup_files
    rwa [List.map_map] at hbelow ⊢
  have hall := (holds_foldl_write hplaces t).1
  rw [List.foldl_map] at hall
  exact fun f hf => hall _ (List.mem_map_of_mem hf)

/-- A registry can be built where the files were installed. -/
theorem installed_of_install {h : Host} {settings : Settings} {t : Tree} {folder : List String}
    (htree : h.tree = install t folder) (hfolder : settings.resourceFolder = ⟨.top, folder⟩)
    (hdot : "." ∉ folder) (hopen : ∀ f ∈ files, Tree.IsOpen (folder ++ f.1)) :
    Installed h settings := by
  have hmanifest : ([Settings.manifestName], fileText manifest) ∈ files :=
    List.mem_append_left _ List.mem_cons_self
  have hopened := hopen _ hmanifest
  have hfind : ∀ f ∈ files, h.tree.find h.workingFolder ⟨.top, folder ++ f.1⟩ =
      .ok (some f.2.toUTF8) := by
    intro f hf
    rw [htree]
    exact (holds_install t folder f hf).find (hopen f hf)
  have hplace : h.place settings.resourceFolder = folder := by
    rw [hfolder]
    exact Path.follow_of_not_mem (fun hup => hopened.downwards (List.mem_append_left _ hup)) []
  constructor
  case named =>
    rw [hfolder]
    intro c hc
    exact ⟨fun hsame => hdot (hsame ▸ hc),
      Path.partFault?_eq_none_iff.mp (hopened.named c (List.mem_append_left _ hc))⟩
  case manifest =>
    rw [Settings.manifestPath, hfolder]
    exact hfind _ hmanifest
  case file =>
    rw [hplace]
    exact hfind

/-- Surroundings with the bundled files in a folder of their own. -/
def bundledHost : Host where
  tree := install (Tree.empty.makeFolder ["w"]) ["r"]
  workingFolder := ["w"]
  home := ⟨.top, []⟩
  bundled := ⟨.top, ["r"]⟩
  environment := []

theorem installed_bundledHost : Installed bundledHost ⟨bundledHost.bundled, true⟩ :=
  installed_of_install rfl rfl (by decide) (by decide +kernel)

end SchemaDepot.Bundle
