/-
# Why a registry is not built

Building reads the manifest, then the files of the fixed databases, then those of the
templates, and it stops at the first one that cannot be used. If a file is missing or
blank, or the manifest is malformed, the error says that a resource is unusable; if the
files can be read but do not fit together, it says that a definition is inconsistent.

These are the errors of the depot. There are others (`Registry.Escapes`): a file that is
opened may be no text in UTF-8 or have too long a name, and a value of the manifest may be
unsuitable where it stands. Exactly these errors are passed on as they are
(`Registry.build_failure`).

Key definitions: `Manifest.LoadStrays`, `Manifest.Opens`, `Registry.Escapes`.
Key theorems: `Manifest.load_eq_error_iff`, `Registry.ofManifest_eq_error_iff`,
`Registry.build_failure`.
-/
import SchemaDepot.Proofs.Host
import SchemaDepot.Proofs.Manifest.Containment
import SchemaDepot.Proofs.Manifest.Failure
import SchemaDepot.Proofs.Registry
import SchemaDepot.Proofs.Yaml.Document

namespace SchemaDepot

open Outcome

/-! ### The manifest -/

namespace Manifest

variable {h : Host} {path : Path} {e : Error}

/-- The file of the manifest cannot be read, or a value in it is unsuitable, already in the
document or in the data that this gives. -/
inductive LoadStrays (h : Host) (path : Path) (e : Error) : Prop
  | file (hfile : h.Unreadable path e)
  | document {text : String}
      (hread : h.read path (.resource (.manifestAbsent path.text)) = .ok text)
      (hdocument : Yaml.read text = .error (.unsuitable e))
  | data {text : String} {d : Data}
      (hread : h.read path (.resource (.manifestAbsent path.text)) = .ok text)
      (hdocument : Yaml.read text = .ok d)
      (hdata : Strays h.workingFolder path.parent d e)

theorem LoadStrays.isForeign (hload : LoadStrays h path e) : e.isForeign = true := by
  cases hload with
  | file hfile => exact hfile.isForeign
  | document _ hdocument =>
    exact Error.isForeign_of_isUnsuitable ((Yaml.read_sound _).error_of hdocument)
  | data _ _ hdata => exact hdata.isForeign

/-- A manifest that is not missing or malformed fails to be loaded exactly so. -/
theorem load_eq_error_iff (he : ¬ e.isResource) :
    (load h path).outcome = .error e ↔ LoadStrays h path e := by
  rw [load_outcome_eq_error_iff]
  constructor
  · intro hread
    obtain hread | ⟨text, htext, hread⟩ := bind_eq_error_iff.mp hread
    · exact .file ((Host.read_eq_error_iff.mp hread).resolve_right fun hnone =>
        Error.resource_ne he _ hnone.2)
    · cases hd : Yaml.read text with
      | ok d =>
        simp only [hd] at hread
        exact .data htext hd ((ofData_eq_error_iff he).mp hread)
      | error fault =>
        simp only [hd] at hread
        cases fault with
        | unsuitable e' =>
          cases hread
          exact .document htext hd
        | malformed => exact absurd (Except.error.inj hread) (Error.resource_ne he _)
        | repeatedKey key => exact absurd (Except.error.inj hread) (Error.resource_ne he _)
  · intro hstrays
    cases hstrays with
    | file hfile =>
      exact bind_eq_error_iff.mpr (Or.inl (Host.read_eq_error_iff.mpr (Or.inl hfile)))
    | document hread hdocument =>
      rw [read, hread, ok_bind]
      simp only [hdocument, documentError]
    | data hread hdocument hdata =>
      rw [read, hread, ok_bind]
      simp only [hdocument]
      exact (ofData_eq_error_iff he).mpr hdata

/-- Making the registry of a manifest gets to the file at the path: a schema once those
before it were read, a template once there is a catalogue and those before it were
loaded. -/
inductive Opens (h : Host) (m : Manifest) : Path → Prop
  | fixed {p : Path} (hreach : Reaches h.readSchema m.fixed.values p) : Opens h m p
  | template {t : TemplateEntry}
      (hloads : ∀ x ∈ m.fixed.entries, ∃ text, h.readSchema x.2 = .ok text)
      (hidentifiers : ∀ x ∈ m.fixed.keys, Catalogue.isIdentifier x = true)
      (hsentinel : m.sentinel ∈ m.fixed.keys)
      (hreach : Reaches (Registry.loadTemplate h) m.dynamic.values t) : Opens h m t.path

theorem Opens.mem_paths {m : Manifest} {p : Path} (hp : m.Opens h p) : p ∈ m.paths := by
  cases hp with
  | fixed hreach => exact List.mem_append_left _ hreach.mem
  | template _ _ _ hreach =>
    exact List.mem_append_right _ (List.mem_map.mpr ⟨_, hreach.mem, rfl⟩)

end Manifest

/-! ### The registry -/

/-- The operation fails only because a definition is inconsistent. -/
def Defines {α : Type} (x : Except Error α) : Prop :=
  Ends (fun e => e.isDefinition = true) (fun _ => True) x

theorem Catalogue.ofListing_defines (schemas : Listing String) (sentinel : String) :
    Defines (ofListing schemas sentinel) := by
  unfold ofListing
  split
  · exact Ends.error rfl
  · exact Ends.ite (fun _ => Ends.ok trivial) fun _ => Ends.error rfl

theorem Template.make_defines (name text : String) (tokens : TextSet) :
    Defines (make name text tokens) := by
  unfold make
  split
  · exact Ends.error rfl
  · exact Ends.ok trivial

namespace Registry

variable {h : Host} {settings : Settings} {m : Manifest} {e : Error}

theorem checkTextual_defines (c : Catalogue) (ts : TemplateSet) : Defines (checkTextual c ts m) := by
  refine Ends.ite (fun _ => Ends.ok trivial) fun _ => ?_
  split
  · exact Ends.error rfl
  · refine Ends.ite (fun _ => Ends.error rfl) fun _ => ?_
    exact Ends.ite (fun _ => Ends.error rfl) fun _ => Ends.ok trivial

theorem loadTemplate_eq_error_iff (he : ¬ e.isDefinition) {t : TemplateEntry} :
    loadTemplate h t = .error e ↔ h.readSchema t.path = .error e := by
  constructor
  · intro hload
    obtain hread | ⟨text, -, hmake⟩ := bind_eq_error_iff.mp hload
    · exact hread
    · exact absurd hmake ((Template.make_defines _ _ _).ne_error he)
  · exact fun hread => bind_eq_error_iff.mpr (Or.inl hread)

/-- Consistent definitions fail to give a registry as the first file that cannot be used. -/
theorem ofManifest_eq_error_iff (hm : m.Regular) (he : ¬ e.isDefinition) :
    ofManifest h settings m = .error e ↔ ∃ p, m.Opens h p ∧ h.readSchema p = .error e := by
  have hgather : TemplateSet.gather (loadTemplate h) settings.strict m.dynamic.values = .error e ↔
      ∃ t, Reaches (loadTemplate h) m.dynamic.values t ∧ h.readSchema t.path = .error e := by
    rw [TemplateSet.gather, bind_eq_error_iff, TemplateSet.gatherFrom_eq_error_iff
      name_of_loadTemplate (nodup_map_name_values hm) fun _ _ => List.not_mem_nil]
    simp only [reduceCtorEq, and_false, exists_false, or_false, loadTemplate_eq_error_iff he]
  constructor
  · intro hmake
    obtain hfixed | ⟨schemas, hschemas, hmake⟩ := bind_eq_error_iff.mp hmake
    · obtain ⟨p, hreach, hp⟩ := Listing.traverse_eq_error_iff.mp hfixed
      exact ⟨p, .fixed hreach, hp⟩
    obtain hc | ⟨c, hc, hmake⟩ := bind_eq_error_iff.mp hmake
    · exact absurd hc ((Catalogue.ofListing_defines _ _).ne_error he)
    obtain ⟨hloads, hidentifiers, hsentinel⟩ := exists_catalogue_iff.mp ⟨schemas, c, hschemas, hc⟩
    obtain hts | ⟨ts, -, hmake⟩ := bind_eq_error_iff.mp hmake
    · obtain ⟨t, hreach, ht⟩ := hgather.mp hts
      exact ⟨t.path, .template hloads hidentifiers hsentinel hreach, ht⟩
    obtain hcheck | ⟨_, -, hmake⟩ := bind_eq_error_iff.mp hmake
    · exact absurd hcheck ((checkTextual_defines _ _).ne_error he)
    · cases hmake
  · rintro ⟨p, hopens, hp⟩
    cases hopens with
    | fixed hreach =>
      exact bind_eq_error_iff.mpr (Or.inl (Listing.traverse_eq_error_iff.mpr ⟨p, hreach, hp⟩))
    | template hloads hidentifiers hsentinel hreach =>
      obtain ⟨schemas, c, hschemas, hc⟩ :=
        exists_catalogue_iff.mpr ⟨hloads, hidentifiers, hsentinel⟩
      rw [ofManifest, hschemas, ok_bind, hc, ok_bind, hgather.mpr ⟨_, hreach, hp⟩]
      rfl

/-- The error is passed on as it is: the manifest strays, or a file that is opened for it
cannot be read. -/
inductive Escapes (h : Host) (settings : Settings) (e : Error) : Prop
  | manifest (hload : Manifest.LoadStrays h settings.manifestPath e)
  | file {m : Manifest} {p : Path}
      (hload : (Manifest.load h settings.manifestPath).outcome = .ok m)
      (hopens : m.Opens h p) (hfile : h.Unreadable p e)

theorem Escapes.isForeign (hescapes : Escapes h settings e) : e.isForeign = true := by
  cases hescapes with
  | manifest hload => exact hload.isForeign
  | file _ _ hfile => exact hfile.isForeign

/-- What is not of the depot ends the building exactly where it escapes. -/
theorem build_outcome_eq_error_iff_escapes (hr : ¬ e.isResource) (hd : ¬ e.isDefinition) :
    (build h settings).outcome = .error e ↔ Escapes h settings e := by
  rw [build_outcome_eq_error_iff, Manifest.load_eq_error_iff hr]
  constructor
  · rintro (hload | ⟨m, hload, hmake⟩)
    · exact .manifest hload
    · obtain ⟨p, hopens, hp⟩ :=
        (ofManifest_eq_error_iff (Manifest.regular_of_load hload) hd).mp hmake
      exact .file hload hopens ((Host.readSchema_eq_error_iff hr).mp hp)
  · intro hescapes
    cases hescapes with
    | manifest hload => exact Or.inl hload
    | file hload hopens hfile =>
      have hp := (Host.readSchema_eq_error_iff hr).mpr hfile
      exact Or.inr ⟨_, hload,
        (ofManifest_eq_error_iff (Manifest.regular_of_load hload) hd).mpr ⟨_, hopens, hp⟩⟩

/-- Where definitions are inconsistent, every file that was opened could be read. -/
theorem readSchema_of_opens (hm : m.Regular) (hd : e.isDefinition)
    (hmake : ofManifest h settings m = .error e) {p : Path} (hopens : m.Opens h p) :
    ∃ text, h.readSchema p = .ok text := by
  cases hp : h.readSchema p with
  | ok text => exact ⟨text, rfl⟩
  | error e' =>
    have hd' := Host.not_isDefinition_of_readSchema hp
    have hmake' := (@ofManifest_eq_error_iff h settings m e' hm hd').mpr ⟨p, hopens, hp⟩
    cases hmake.symm.trans hmake'
    exact absurd hd hd'

/-- **Why a registry is not built.** An error that is not of the depot is passed on exactly
where the manifest or a value in it is unsuitable or a file that is opened cannot be read.
Any other error is of the depot: that a resource is unusable, if the manifest or a file that
is opened is missing, empty or malformed, and else that a definition is inconsistent. -/
theorem build_failure (h : Host) (settings : Settings) :
    (∀ e, ((build h settings).outcome = .error e ∧ e.isDepotError = false) ↔
      Escapes h settings e) ∧
    (∀ e, Escapes h settings e → e.isForeign = true) ∧
    ∀ e, (build h settings).outcome = .error e → e.isDepotError = true →
      (e.isResource = true ∧
        ((Manifest.load h settings.manifestPath).outcome = .error e ∨
          ∃ m p, (Manifest.load h settings.manifestPath).outcome = .ok m ∧ p ∈ m.paths ∧
            m.Opens h p ∧ h.readSchema p = .error e)) ∨
      (e.isDefinition = true ∧
        ∃ m, (Manifest.load h settings.manifestPath).outcome = .ok m ∧
          ∀ p, m.Opens h p → ∃ text, h.readSchema p = .ok text) := by
  refine ⟨fun e => ⟨?_, fun hescapes => ?_⟩, fun e hescapes => hescapes.isForeign,
    fun e he hdepot => ?_⟩
  · intro ⟨he, hdepot⟩
    obtain ⟨hr, hd⟩ := Error.of_isDepotError_eq_false hdepot
    exact (build_outcome_eq_error_iff_escapes hr hd).mp he
  · have hdepot := Error.isDepotError_of_isForeign hescapes.isForeign
    obtain ⟨hr, hd⟩ := Error.of_isDepotError_eq_false hdepot
    exact ⟨(build_outcome_eq_error_iff_escapes hr hd).mpr hescapes, hdepot⟩
  · have hforeign := Error.not_isForeign_of_isDepotError hdepot
    by_cases hr : e.isResource
    · have hd := Error.not_isDefinition_of_isResource hr
      refine Or.inl ⟨hr, ?_⟩
      obtain hload | ⟨m, hload, hmake⟩ := build_outcome_eq_error_iff.mp he
      · exact Or.inl hload
      · obtain ⟨p, hopens, hp⟩ :=
          (ofManifest_eq_error_iff (Manifest.regular_of_load hload) hd).mp hmake
        exact Or.inr ⟨m, p, hload, hopens.mem_paths, hopens, hp⟩
    · have hd : e.isDefinition := by
        by_contra hd
        exact hforeign ((build_outcome_eq_error_iff_escapes hr hd).mp he).isForeign
      obtain hload | ⟨m, hload, hmake⟩ := build_outcome_eq_error_iff.mp he
      · exact absurd ((Manifest.load_eq_error_iff hr).mp hload).isForeign hforeign
      · exact Or.inr ⟨hd, m, hload, fun p hopens =>
          readSchema_of_opens (Manifest.regular_of_load hload) hd hmake hopens⟩

/-- The sample folder with the bytes of one file changed to a single one that is in no text. -/
def garbledHost (name : String) : Host :=
  { sampleHost with tree := sampleHost.tree.write ["r", name] ⟨#[0xff]⟩ }

set_option maxRecDepth 100000 in
/-- A garbled schema is opened, and so building fails with an error of the surroundings. In a
folder without a manifest it fails with one of the depot, which comes from the manifest. -/
theorem build_failure_garbled_schema :
    (Escapes (garbledHost "a.sql") bundledSettings .notUtf8 ∧
      (build (garbledHost "a.sql") bundledSettings).outcome = .error .notUtf8 ∧
      Error.isForeign .notUtf8 = true) ∧
    ∃ e, (build (garbledHost "a.sql") ⟨⟨.top, ["x"]⟩, true⟩).outcome = .error e ∧
      e.isDepotError = true ∧ e.isResource = true ∧
      (Manifest.load (garbledHost "a.sql") ⟨.top, ["x", "testdbs.yaml"]⟩).outcome = .error e := by
  have hmanifest : (Manifest.load (garbledHost "a.sql")
      bundledSettings.manifestPath).outcome.toOption.map (fun m => m.fixed.values) =
        some [⟨.top, ["r", "a.sql"]⟩] := by
    decide +kernel
  obtain ⟨m, hload, hvalues⟩ := Option.map_eq_some_iff.mp hmanifest
  have hfind : (garbledHost "a.sql").tree.find [] ⟨.top, ["r", "a.sql"]⟩ =
      .ok (some ⟨#[0xff]⟩) := by
    decide +kernel
  have hreach : Reaches (garbledHost "a.sql").readSchema m.fixed.values
      ⟨.top, ["r", "a.sql"]⟩ := by
    rw [hvalues]
    exact reaches_cons_iff.mpr (Or.inl rfl)
  have hescapes : Escapes (garbledHost "a.sql") bundledSettings .notUtf8 :=
    .file (eq_ok_of_toOption hload) (.fixed hreach) (.notUtf8 hfind (by decide +kernel))
  have hnone : (garbledHost "a.sql").tree.find [] ⟨.top, ["x", "testdbs.yaml"]⟩ = .ok none := by
    decide +kernel
  have habsent : (Manifest.load (garbledHost "a.sql") ⟨.top, ["x", "testdbs.yaml"]⟩).outcome =
      .error (.resource (.manifestAbsent "/x/testdbs.yaml")) := by
    refine Manifest.load_outcome_eq_error_iff.mpr (bind_eq_error_iff.mpr (Or.inl ?_))
    exact Host.read_eq_error_iff.mpr (Or.inr ⟨hnone, by decide +kernel⟩)
  have hfails : (build (garbledHost "a.sql") ⟨⟨.top, ["x"]⟩, true⟩).outcome =
      .error (.resource (.manifestAbsent "/x/testdbs.yaml")) :=
    build_outcome_eq_error_iff.mpr (Or.inl habsent)
  obtain ⟨hiff, hforeign, -⟩ := build_failure (garbledHost "a.sql") bundledSettings
  obtain ⟨-, -, hdepot⟩ := build_failure (garbledHost "a.sql") ⟨⟨.top, ["x"]⟩, true⟩
  refine ⟨⟨hescapes, ((hiff _).mpr hescapes).1, hforeign _ hescapes⟩, _, hfails, rfl, ?_⟩
  obtain ⟨hresource, hmissing⟩ | ⟨hdefinition, -⟩ := hdepot _ hfails rfl
  · refine ⟨hresource, hmissing.resolve_right ?_⟩
    rintro ⟨m, p, hload, -⟩
    cases habsent.symm.trans hload
  · cases hdefinition

/-- A garbled manifest makes it fail so too, and the error is none of the depot. -/
theorem garbled_manifest_escapes :
    (build (garbledHost "testdbs.yaml") bundledSettings).outcome = .error .notUtf8 ∧
    Error.isDepotError .notUtf8 = false := by
  have hfind : (garbledHost "testdbs.yaml").tree.find [] bundledSettings.manifestPath =
      .ok (some ⟨#[0xff]⟩) := by
    decide +kernel
  have hbytes : Text.decode ⟨#[0xff]⟩ = none := by decide +kernel
  have hfile : (garbledHost "testdbs.yaml").Unreadable bundledSettings.manifestPath .notUtf8 :=
    .notUtf8 hfind hbytes
  have hload := (Manifest.load_eq_error_iff (by decide)).mpr (.file hfile)
  exact ⟨build_outcome_eq_error_iff.mpr (Or.inl hload), rfl⟩

end Registry

end SchemaDepot
