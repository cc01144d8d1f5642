/-
# When a registry is built

A registry is built from a manifest exactly when all files it names can be read, the
fixed identifiers and the sentinel fit, the tokens of every template fit its text, and
the textual databases fit the fixed ones and their template (`exists_build_iff_serves`).
Each of the steps has its own condition here: reading a schema, loading a template,
making the catalogue, gathering the templates, and checking the textual databases.

What was checked then holds of the registry: it serves what the manifest lists and
nothing else.

Key definitions: `Manifest.Buildable`, `Registry.Serves`.
Key theorems: `Registry.loadTemplate_eq_ok_iff`, `Registry.checkTextual_eq_ok_iff`,
`Registry.ofManifest_eq_ok_iff`, `Registry.exists_catalogue_iff`,
`Registry.exists_ofManifest_iff`, `Registry.serves_of_ofManifest`,
`Registry.exists_serves_of_build`, `Registry.exists_build_iff_serves`.
-/
import SchemaDepot.Proofs.Catalogue
import SchemaDepot.Proofs.Host
import SchemaDepot.Proofs.Manifest
import SchemaDepot.Proofs.TemplateSet
import SchemaDepot.Proofs.TextSet
import SchemaDepot.Registry

namespace SchemaDepot

/-- A manifest from which, with the files it names, a registry can be built. -/
structure Manifest.Buildable (h : Host) (m : Manifest) : Prop where
  fixed_loads : ∀ e ∈ m.fixed.entries, ∃ text, h.readSchema e.2 = .ok text
  identifier : ∀ x ∈ m.fixed.keys, Catalogue.isIdentifier x = true
  sentinel_fixed : m.sentinel ∈ m.fixed.keys
  dynamic_loads : ∀ e ∈ m.dynamic.entries, ∃ text, h.readSchema e.2.path = .ok text ∧
    Template.fault? e.1 text (.ofList e.2.tokens) = none
  textual_apart : ∀ x ∈ m.textualDatabases.keys, x ∉ m.fixed.keys
  textual_template : m.textualDatabases.size ≠ 0 →
    ∃ e, m.dynamic.get? m.textualTemplate = some e ∧
      TextSet.ofList e.tokens = Registry.textualTokens

/-- The registry serves what the manifest lists, and nothing else. -/
structure Registry.Serves (h : Host) (m : Manifest) (r : Registry) : Prop where
  identifiers : ∀ x, x ∈ r.catalogue.identifiers ↔ x ∈ m.fixed.keys
  schema : ∀ x s, r.catalogue.schema x = .ok s ↔
    ∃ path, m.fixed.get? x = some path ∧ h.readSchema path = .ok s
  schema_not_blank : ∀ x s, r.catalogue.schema x = .ok s → Text.isBlank s = false
  sentinel_eq : r.catalogue.sentinel = m.sentinel
  sentinel_fixed : r.catalogue.sentinel ∈ r.catalogue.identifiers
  sentinel_not_textual : r.catalogue.sentinel ∉ r.textualDatabases.keys
  template_names : ∀ x, x ∈ r.templates.names ↔ x ∈ m.dynamic.keys
  template : ∀ x t, r.templates.named x = .ok t →
    ∃ e, m.dynamic.get? x = some e ∧ h.readSchema e.path = .ok t.text ∧
      t.name = x ∧ t.tokens = .ofList e.tokens
  textual_databases : r.textualDatabases = m.textualDatabases
  textual_template : r.textualTemplate = m.textualTemplate
  columns : ∀ e ∈ r.textualDatabases.entries, Text.trim e.2.columnType = e.2.columnType ∧
    Text.isBlank e.2.columnType = false ∧ 1 ≤ e.2.columnLength
  provisionable : ∀ x, x ∈ r.provisionable ↔
    x ∈ r.catalogue.identifiers ∨ x ∈ r.textualDatabases.keys
  apart : ∀ x ∈ r.catalogue.identifiers, x ∉ r.textualDatabases.keys
  size_provisionable : r.provisionable.size =
    r.catalogue.identifiers.size + r.textualDatabases.size

theorem Host.not_blank_of_readSchema {h : Host} {p : Path} {s : String}
    (hs : h.readSchema p = .ok s) : Text.isBlank s = false := by
  obtain ⟨text, -, hs⟩ := Outcome.bind_eq_ok_iff.mp hs
  obtain ⟨hb, hs⟩ := Outcome.refuse_eq_ok_iff.mp hs
  cases hs
  simpa using hb

namespace Registry

variable {h : Host} {m : Manifest}

/-! ### The steps -/

theorem loadTemplate_eq_ok_iff {e : TemplateEntry} {t : Template} :
    loadTemplate h e = .ok t ↔
      h.readSchema e.path = .ok t.text ∧
        Template.fault? e.name t.text (.ofList e.tokens) = none ∧
        t.name = e.name ∧ t.tokens = .ofList e.tokens := by
  unfold loadTemplate
  rw [Outcome.bind_eq_ok_iff]
  simp only [Template.make_eq_ok_iff]
  constructor
  · rintro ⟨text, hread, hfault, hname, rfl, htokens⟩
    exact ⟨hread, hfault, hname, htokens⟩
  · rintro ⟨hread, hfault, hname, htokens⟩
    exact ⟨t.text, hread, hfault, hname, rfl, htokens⟩

theorem exists_loadTemplate_iff {e : TemplateEntry} :
    (∃ t, loadTemplate h e = .ok t) ↔
      ∃ text, h.readSchema e.path = .ok text ∧
        Template.fault? e.name text (.ofList e.tokens) = none := by
  constructor
  · rintro ⟨t, ht⟩
    obtain ⟨hread, hfault, -⟩ := loadTemplate_eq_ok_iff.mp ht
    exact ⟨t.text, hread, hfault⟩
  · rintro ⟨text, hread, hfault⟩
    exact ⟨⟨e.name, text, .ofList e.tokens, Template.fault?_eq_none_iff.mp hfault⟩,
      loadTemplate_eq_ok_iff.mpr ⟨hread, hfault, rfl, rfl⟩⟩

theorem isEmpty_clashes_iff {c : Catalogue} {databases : Listing ColumnSpec} :
    (clashes c databases).isEmpty = true ↔ ∀ x ∈ databases.keys, x ∉ c.schemas.keys := by
  simp only [clashes, TextSet.isEmpty_iff, TextSet.mem_intersection, Catalogue.identifiers,
    Listing.mem_keySet]
  exact ⟨fun hc x hx hf => hc x ⟨hf, hx⟩, fun hc x hx => hc x hx.2 hx.1⟩

/-- The textual databases fit exactly when none is fixed and, if there are any, their
template has the tokens it needs. -/
theorem checkTextual_eq_ok_iff {c : Catalogue} {ts : TemplateSet} :
    checkTextual c ts m = .ok () ↔
      (∀ x ∈ m.textualDatabases.keys, x ∉ c.schemas.keys) ∧
        (m.textualDatabases.size ≠ 0 →
          ∃ t, ts.templates.get? m.textualTemplate = some t ∧ t.tokens = textualTokens) := by
  rw [← isEmpty_clashes_iff]
  unfold checkTextual
  by_cases hsize : m.textualDatabases.size = 0
  · have hkeys : m.textualDatabases.keys = [] := by
      rw [Listing.keys, List.length_eq_zero_iff.mp hsize, List.map_nil]
    have hclash : (clashes c m.textualDatabases).isEmpty = true := by
      rw [isEmpty_clashes_iff, hkeys]
      exact fun x hx => absurd hx List.not_mem_nil
    simp [hsize, hclash]
  · rw [if_neg hsize]
    cases ts.templates.get? m.textualTemplate with
    | none => simp [hsize]
    | some t =>
      by_cases hclash : (clashes c m.textualDatabases).isEmpty = true
      · by_cases ht : t.tokens = textualTokens <;> simp [hsize, hclash, ht]
      · simp [hclash]

/-- The parts of a registry that was built from a manifest. -/
theorem ofManifest_eq_ok_iff {settings : Settings} {r : Registry} :
    ofManifest h settings m = .ok r ↔
      m.fixed.traverse h.readSchema = .ok r.catalogue.schemas ∧
      Catalogue.ofListing r.catalogue.schemas m.sentinel = .ok r.catalogue ∧
      TemplateSet.gatherFrom (loadTemplate h) .empty m.dynamic.values = .ok r.templates.templates ∧
      checkTextual r.catalogue r.templates m = .ok () ∧
      r.textualDatabases = m.textualDatabases ∧ r.textualTemplate = m.textualTemplate ∧
      r.templates.strict = settings.strict ∧ r.settings = settings := by
  constructor
  · intro hr
    obtain ⟨schemas, hschemas, hr⟩ := Outcome.bind_eq_ok_iff.mp hr
    obtain ⟨c, hc, hr⟩ := Outcome.bind_eq_ok_iff.mp hr
    obtain ⟨ts, hts, hr⟩ := Outcome.bind_eq_ok_iff.mp hr
    obtain ⟨_, hcheck, hr⟩ := Outcome.bind_eq_ok_iff.mp hr
    obtain ⟨l, hl, hts⟩ := Outcome.bind_eq_ok_iff.mp hts
    cases hts
    cases hr
    obtain ⟨-, -, hsame⟩ := Catalogue.ofListing_eq_ok_iff.mp hc
    subst hsame
    exact ⟨hschemas, hc, hl, hcheck, rfl, rfl, rfl, rfl⟩
  · rintro ⟨hschemas, hc, hl, hcheck, hd, ht, hstrict, rfl⟩
    obtain ⟨c, ⟨l, strict⟩, databases, template, settings⟩ := r
    have hstrict' : strict = settings.strict := hstrict
    subst hstrict'
    cases hd
    cases ht
    exact Outcome.bind_eq_ok_iff.mpr ⟨_, hschemas, Outcome.bind_eq_ok_iff.mpr ⟨_, hc,
      Outcome.bind_eq_ok_iff.mpr ⟨_, Outcome.bind_eq_ok_iff.mpr ⟨_, hl, rfl⟩,
        Outcome.bind_eq_ok_iff.mpr ⟨_, hcheck, rfl⟩⟩⟩⟩

/-! ### The templates of a regular manifest -/

theorem name_of_loadTemplate (e : TemplateEntry) (t : Template) (ht : loadTemplate h e = .ok t) :
    t.name = e.name :=
  (loadTemplate_eq_ok_iff.mp ht).2.2.1

theorem map_name_values (hm : m.Regular) : m.dynamic.values.map TemplateEntry.name =
    m.dynamic.keys := by
  rw [Listing.values, Listing.keys, List.map_map]
  exact List.map_congr_left hm.names

theorem nodup_map_name_values (hm : m.Regular) :
    (m.dynamic.values.map TemplateEntry.name).Nodup := by
  rw [map_name_values hm]
  exact m.dynamic.distinct

/-- What is gathered from a regular manifest: under the name of each dynamic scheme the
template loaded for it. -/
theorem of_gatherFrom_eq_ok (hm : m.Regular) {l : Listing Template}
    (hl : TemplateSet.gatherFrom (loadTemplate h) .empty m.dynamic.values = .ok l) :
    l.keys = m.dynamic.keys ∧ ∀ x t, l.get? x = some t ↔
      ∃ e, m.dynamic.get? x = some e ∧ loadTemplate h e = .ok t := by
  obtain ⟨hkeys, hget⟩ := TemplateSet.of_gatherFrom_eq_ok name_of_loadTemplate hl
  rw [map_name_values hm] at hkeys
  refine ⟨hkeys, fun x t => ?_⟩
  rw [hget]
  simp only [Listing.get?_empty, reduceCtorEq, false_or, Listing.get?_eq_some_iff]
  constructor
  · rintro ⟨e, he, rfl, ht⟩
    obtain ⟨⟨x, e'⟩, hmem, rfl⟩ := List.mem_map.mp he
    have hx : e'.name = x := hm.names _ hmem
    exact ⟨e', hx ▸ hmem, ht⟩
  · rintro ⟨e, he, ht⟩
    exact ⟨e, List.mem_map.mpr ⟨(x, e), he, rfl⟩, hm.names _ he, ht⟩

theorem exists_gatherFrom_iff (hm : m.Regular) :
    (∃ l, TemplateSet.gatherFrom (loadTemplate h) .empty m.dynamic.values = .ok l) ↔
      ∀ e ∈ m.dynamic.entries, ∃ text, h.readSchema e.2.path = .ok text ∧
        Template.fault? e.1 text (.ofList e.2.tokens) = none := by
  rw [TemplateSet.exists_gatherFrom_iff name_of_loadTemplate (nodup_map_name_values hm)
    (fun _ _ => List.not_mem_nil)]
  simp only [exists_loadTemplate_iff, Listing.values, List.forall_mem_map]
  refine forall₂_congr fun e he => ?_
  rw [hm.names e he]

theorem exists_gathered (hm : m.Regular) {l : Listing Template}
    (hl : TemplateSet.gatherFrom (loadTemplate h) .empty m.dynamic.values = .ok l) {x : String}
    {e : TemplateEntry} (he : m.dynamic.get? x = some e) :
    ∃ t, l.get? x = some t ∧ t.tokens = .ofList e.tokens := by
  obtain ⟨hnames, hget⟩ := of_gatherFrom_eq_ok hm hl
  have hx : l.has x = true := by
    rw [Listing.has_eq_true_iff_mem, hnames, ← Listing.has_eq_true_iff_mem, Listing.has_eq_true_iff]
    exact ⟨e, he⟩
  obtain ⟨t, ht⟩ := Listing.has_eq_true_iff.mp hx
  obtain ⟨e', he', hload⟩ := (hget x t).mp ht
  have hsame : e' = e := Option.some.inj (he'.symm.trans he)
  subst hsame
  exact ⟨t, ht, (loadTemplate_eq_ok_iff.mp hload).2.2.2⟩

/-! ### The whole registry -/

/-- The catalogue of a manifest is made exactly when its files can be read and the
identifiers and the sentinel fit. -/
theorem exists_catalogue_iff :
    (∃ schemas c, m.fixed.traverse h.readSchema = .ok schemas ∧
        Catalogue.ofListing schemas m.sentinel = .ok c) ↔
      (∀ e ∈ m.fixed.entries, ∃ text, h.readSchema e.2 = .ok text) ∧
        (∀ x ∈ m.fixed.keys, Catalogue.isIdentifier x = true) ∧ m.sentinel ∈ m.fixed.keys := by
  constructor
  · rintro ⟨schemas, c, hschemas, hc⟩
    obtain ⟨hkeys, -⟩ := Listing.of_traverse_eq_ok hschemas
    obtain ⟨hentries, hsentinel, -⟩ := Catalogue.ofListing_eq_ok_iff.mp hc
    refine ⟨Listing.exists_traverse_iff.mp ⟨_, hschemas⟩, ?_, hkeys ▸ hsentinel⟩
    rw [← hkeys]
    exact List.forall_mem_map.mpr fun e he => (hentries e he).1
  · rintro ⟨hloads, hidentifier, hsentinel⟩
    obtain ⟨schemas, hschemas⟩ := Listing.exists_traverse_iff.mpr hloads
    obtain ⟨hkeys, hget⟩ := Listing.of_traverse_eq_ok hschemas
    refine ⟨schemas, ⟨schemas, m.sentinel⟩, hschemas, Catalogue.ofListing_eq_ok_iff.mpr
      ⟨fun e he => ?_, hkeys ▸ hsentinel, rfl⟩⟩
    obtain ⟨p, -, hp⟩ := (hget e.1 e.2).mp (Listing.get?_eq_some_iff.mpr he)
    have hx : e.1 ∈ m.fixed.keys := hkeys ▸ List.mem_map.mpr ⟨e, he, rfl⟩
    exact ⟨hidentifier _ hx, Host.not_blank_of_readSchema hp⟩

/-- Where the templates are those of a regular manifest, what is checked of the textual
databases can be seen from the manifest. -/
theorem checkTextual_eq_ok_iff_of_gathered (hm : m.Regular) {c : Catalogue} {ts : TemplateSet}
    (hkeys : c.schemas.keys = m.fixed.keys)
    (hl : TemplateSet.gatherFrom (loadTemplate h) .empty m.dynamic.values = .ok ts.templates) :
    checkTextual c ts m = .ok () ↔
      (∀ x ∈ m.textualDatabases.keys, x ∉ m.fixed.keys) ∧
        (m.textualDatabases.size ≠ 0 → ∃ e, m.dynamic.get? m.textualTemplate = some e ∧
          TextSet.ofList e.tokens = textualTokens) := by
  have htemplate : (∃ t, ts.templates.get? m.textualTemplate = some t ∧ t.tokens = textualTokens) ↔
      ∃ e, m.dynamic.get? m.textualTemplate = some e ∧ TextSet.ofList e.tokens = textualTokens := by
    constructor
    · rintro ⟨t, ht, htokens⟩
      obtain ⟨e, he, hload⟩ := ((of_gatherFrom_eq_ok hm hl).2 _ t).mp ht
      exact ⟨e, he, (loadTemplate_eq_ok_iff.mp hload).2.2.2.symm.trans htokens⟩
    · rintro ⟨e, he, htokens⟩
      obtain ⟨t, ht, hsame⟩ := exists_gathered hm hl he
      exact ⟨t, ht, hsame.trans htokens⟩
  rw [checkTextual_eq_ok_iff, hkeys, htemplate]

/-- A registry is built from a regular manifest exactly when that is buildable. -/
theorem exists_ofManifest_iff (hm : m.Regular) (settings : Settings) :
    (∃ r, ofManifest h settings m = .ok r) ↔ m.Buildable h := by
  constructor
  · rintro ⟨r, hr⟩
    obtain ⟨hschemas, hc, hl, hcheck, -⟩ := ofManifest_eq_ok_iff.mp hr
    obtain ⟨hkeys, -⟩ := Listing.of_traverse_eq_ok hschemas
    obtain ⟨hloads, hidentifier, hsentinel⟩ := exists_catalogue_iff.mp ⟨_, _, hschemas, hc⟩
    obtain ⟨hapart, htemplate⟩ := (checkTextual_eq_ok_iff_of_gathered hm hkeys hl).mp hcheck
    exact ⟨hloads, hidentifier, hsentinel, (exists_gatherFrom_iff hm).mp ⟨_, hl⟩, hapart, htemplate⟩
  · intro hb
    obtain ⟨schemas, c, hschemas, hc⟩ :=
      exists_catalogue_iff.mpr ⟨hb.fixed_loads, hb.identifier, hb.sentinel_fixed⟩
    obtain ⟨l, hl⟩ := (exists_gatherFrom_iff hm).mpr hb.dynamic_loads
    obtain ⟨hkeys, -⟩ := Listing.of_traverse_eq_ok hschemas
    obtain ⟨-, -, rfl⟩ := Catalogue.ofListing_eq_ok_iff.mp hc
    have hcheck : checkTextual ⟨schemas, m.sentinel⟩ ⟨l, settings.strict⟩ m = .ok () :=
      (checkTextual_eq_ok_iff_of_gathered hm hkeys hl).mpr ⟨hb.textual_apart, hb.textual_template⟩
    exact ⟨⟨_, _, m.textualDatabases, m.textualTemplate, settings⟩,
      ofManifest_eq_ok_iff.mpr ⟨hschemas, hc, hl, hcheck, rfl, rfl, rfl, rfl⟩⟩

/-- A registry that was built serves what its manifest lists. -/
theorem serves_of_ofManifest (hm : m.Regular) {settings : Settings} {r : Registry}
    (hr : ofManifest h settings m = .ok r) : r.Serves h m := by
  obtain ⟨hschemas, hc, hl, hcheck, hdatabases, htemplate, -⟩ := ofManifest_eq_ok_iff.mp hr
  obtain ⟨hkeys, hschema⟩ := Listing.of_traverse_eq_ok hschemas
  obtain ⟨hentries, hsentinel, hsame⟩ := Catalogue.ofListing_eq_ok_iff.mp hc
  obtain ⟨hclash, -⟩ := checkTextual_eq_ok_iff.mp hcheck
  obtain ⟨hnames, hget⟩ := of_gatherFrom_eq_ok hm hl
  have heq : r.catalogue.sentinel = m.sentinel := by rw [hsame]
  have hfixed : r.catalogue.sentinel ∈ r.catalogue.identifiers := by
    rw [heq]
    exact Catalogue.mem_identifiers.mpr hsentinel
  have hapart : ∀ x ∈ r.catalogue.identifiers, x ∉ r.textualDatabases.keys := by
    intro x hx hd
    exact hclash x (hdatabases ▸ hd) (Catalogue.mem_identifiers.mp hx)
  constructor
  case identifiers =>
    intro x
    rw [Catalogue.mem_identifiers, hkeys]
  case schema =>
    intro x s
    rw [Catalogue.schema_eq_ok_iff, hschema]
  case schema_not_blank =>
    intro x s hs
    rw [Catalogue.schema_eq_ok_iff, Listing.get?_eq_some_iff] at hs
    exact (hentries (x, s) hs).2
  case sentinel_eq => exact heq
  case sentinel_fixed => exact hfixed
  case sentinel_not_textual => exact hapart _ hfixed
  case template_names =>
    intro x
    rw [TemplateSet.mem_names, hnames]
  case template =>
    intro x t ht
    obtain ⟨e, he, hload⟩ := (hget x t).mp (TemplateSet.named_eq_ok_iff.mp ht)
    obtain ⟨hread, -, hname, htokens⟩ := loadTemplate_eq_ok_iff.mp hload
    have hx : e.name = x := hm.names _ (Listing.get?_eq_some_iff.mp he)
    exact ⟨e, he, hread, hname.trans hx, htokens⟩
  case textual_databases => exact hdatabases
  case textual_template => exact htemplate
  case columns =>
    intro e he
    rw [hdatabases] at he
    exact ⟨hm.columnType_trimmed e he, hm.columnType_not_blank e he, hm.columnLength_pos e he⟩
  case provisionable =>
    intro x
    rw [Registry.provisionable, TextSet.mem_union, Listing.mem_keySet]
  case apart => exact hapart
  case size_provisionable =>
    rw [Registry.provisionable, TextSet.size_union fun x hx hd => hapart x hx
      (Listing.mem_keySet.mp hd), Listing.size_keySet]

theorem build_outcome (h : Host) (settings : Settings) : (build h settings).outcome =
    (Manifest.load h settings.manifestPath).outcome >>= ofManifest h settings := by
  unfold build
  rw [Run.outcome_bind]
  refine congrArg _ (funext fun m => ?_)
  rw [Run.outcome_bind]
  change (ofManifest h settings m >>= fun r => Except.ok r) = _
  cases ofManifest h settings m <;> rfl

theorem build_outcome_eq_ok_iff {settings : Settings} {r : Registry} :
    (build h settings).outcome = .ok r ↔
      ∃ m, (Manifest.load h settings.manifestPath).outcome = .ok m ∧
        ofManifest h settings m = .ok r := by
  rw [build_outcome, Outcome.bind_eq_ok_iff]

/-- A registry that was built was made of a regular manifest, and serves what that lists. -/
theorem exists_serves_of_build {settings : Settings} {r : Registry}
    (hr : (build h settings).outcome = .ok r) :
    ∃ m, m.Regular ∧ ofManifest h settings m = .ok r ∧ r.Serves h m := by
  obtain ⟨m, hload, hm⟩ := build_outcome_eq_ok_iff.mp hr
  have hregular := Manifest.regular_of_load hload
  exact ⟨m, hregular, hm, serves_of_ofManifest hregular hm⟩

theorem build_outcome_eq_error_iff {settings : Settings} {e : Error} :
    (build h settings).outcome = .error e ↔
      (Manifest.load h settings.manifestPath).outcome = .error e ∨
        ∃ m, (Manifest.load h settings.manifestPath).outcome = .ok m ∧
          ofManifest h settings m = .error e := by
  rw [build_outcome, Outcome.bind_eq_error_iff]

/-- What is built is settled by the characters of the manifest and by the files it names. -/
theorem toOption_build {settings : Settings} {text : String}
    (hfind : h.tree.find h.workingFolder settings.manifestPath = .ok (some text.toUTF8))
    (hreturn : '\r' ∉ text.toList) :
    (build h settings).outcome.toOption = (Yaml.readChars text.toList).toOption.bind fun d =>
      (Manifest.ofData h.workingFolder settings.resourceFolder d).toOption.bind fun m =>
        (ofManifest h settings m).toOption := by
  have hread : (Manifest.read h settings.manifestPath).toOption =
      (Yaml.readChars text.toList).toOption.bind fun d =>
        (Manifest.ofData h.workingFolder settings.resourceFolder d).toOption := by
    rw [Manifest.read, Host.read_of_find hfind hreturn, Outcome.ok_bind, Yaml.read,
      Settings.manifestPath, Path.parent_child]
    cases Yaml.readChars text.toList <;> rfl
  rw [build_outcome, Manifest.load_outcome, Outcome.toOption_bind, hread, Option.bind_assoc]

/-- **When a registry is built, and what is in it.** A registry is built exactly when
its manifest can be loaded and is buildable, and it then serves what the manifest lists. -/
theorem exists_build_iff_serves (h : Host) (settings : Settings) :
    ((∃ r, (build h settings).outcome = .ok r) ↔
      ∃ m, (Manifest.load h settings.manifestPath).outcome = .ok m ∧ m.Buildable h) ∧
    ∀ r, (build h settings).outcome = .ok r →
      ∃ m, (Manifest.load h settings.manifestPath).outcome = .ok m ∧ r.Serves h m := by
  simp only [build_outcome_eq_ok_iff]
  refine ⟨⟨?_, ?_⟩, ?_⟩
  · rintro ⟨r, m, hload, hr⟩
    exact ⟨m, hload, (exists_ofManifest_iff (Manifest.regular_of_load hload) settings).mp ⟨r, hr⟩⟩
  · rintro ⟨m, hload, hb⟩
    obtain ⟨r, hr⟩ := (exists_ofManifest_iff (Manifest.regular_of_load hload) settings).mpr hb
    exact ⟨r, m, hload, hr⟩
  · rintro r ⟨m, hload, hr⟩
    exact ⟨m, hload, serves_of_ofManifest (Manifest.regular_of_load hload) hr⟩

/-- A folder with one database. -/
def sampleHost : Host where
  tree := (Tree.empty.write ["r", "testdbs.yaml"] "sentinel: a\nfixed:\n  a: a.sql\n".toUTF8).write
    ["r", "a.sql"] "CREATE DATABASE a;".toUTF8
  workingFolder := []
  home := ⟨.top, []⟩
  bundled := ⟨.top, ["r"]⟩
  environment := []

/-- The settings for its folder. -/
abbrev bundledSettings : Settings := ⟨⟨.top, ["r"]⟩, true⟩

set_option maxRecDepth 100000 in
/-- A registry of that folder can be built, so its manifest is buildable. -/
theorem exists_build_iff_serves_sample :
    (∃ r, (build sampleHost ⟨sampleHost.bundled, true⟩).outcome = .ok r) ∧
    ∃ m, (Manifest.load sampleHost ⟨.top, ["r", "testdbs.yaml"]⟩).outcome = .ok m ∧
      m.Buildable sampleHost := by
  have hbuilt : ∃ r, (build sampleHost ⟨sampleHost.bundled, true⟩).outcome = .ok r := by
    have hok : (build sampleHost ⟨sampleHost.bundled, true⟩).outcome.isOk = true := by
      decide +kernel
    cases hr : (build sampleHost ⟨sampleHost.bundled, true⟩).outcome with
    | error e =>
      rw [hr] at hok
      cases hok
    | ok r => exact ⟨r, rfl⟩
  exact ⟨hbuilt, (exists_build_iff_serves sampleHost ⟨sampleHost.bundled, true⟩).1.mp hbuilt⟩

end Registry

end SchemaDepot
