/-
# What identifiers are made of

An identifier ought to be plain: lower case letters, digits and underscores, at least
one of them. The pattern for fixed identifiers lets one line feed follow
(`isIdentifier_iff`), so a fixed identifier of a registry is plain, or plain with a line
feed behind it; the sentinel is trimmed, so it is plain. A textual identifier is the
text of its key in the manifest, whatever that is. So everything that can be provided
has a plain identifier exactly when no fixed identifier holds a line feed and the keys of
the textual databases happen to be plain (`plain_provisionable_iff`).

Key definition: `Catalogue.IsPlain`.
Key theorems: `Catalogue.isIdentifier_iff`, `Catalogue.isPlain_iff_of_isIdentifier`,
`Catalogue.not_blank_of_isIdentifier`, `Registry.plain_provisionable_iff`.
-/
import SchemaDepot.Proofs.Manifest.Entries
import SchemaDepot.Proofs.Registry

namespace SchemaDepot

namespace Text

/-- The characters are what is left of them without a final line feed, or that and one. -/
theorem eq_or_eq_concat_of_withoutFinalBreak {cs ds : List Char}
    (h : withoutFinalBreak cs = ds) : cs = ds ∨ cs = ds ++ ['\n'] := by
  unfold withoutFinalBreak at h
  split at h
  · rename_i hlast
    obtain ⟨front, rfl⟩ := List.getLast?_eq_some_iff.mp hlast
    rw [List.dropLast_concat] at h
    exact Or.inr (by rw [h])
  · exact Or.inl h

theorem withoutFinalBreak_concat (cs : List Char) : withoutFinalBreak (cs ++ ['\n']) = cs := by
  simp [withoutFinalBreak]

theorem withoutFinalBreak_of_not_mem {cs : List Char} (h : '\n' ∉ cs) :
    withoutFinalBreak cs = cs := by
  unfold withoutFinalBreak
  exact if_neg fun hlast => h (List.mem_of_getLast? hlast)

end Text

namespace Catalogue

/-- One or more lower case letters, digits and underscores, and nothing else. -/
def IsPlain (x : String) : Prop :=
  x.toList ≠ [] ∧ ∀ c ∈ x.toList, ('a' ≤ c ∧ c ≤ 'z') ∨ ('0' ≤ c ∧ c ≤ '9') ∨ c = '_'

/-! ### The pattern -/

theorem isIdentifierChar_iff {c : Char} :
    isIdentifierChar c = true ↔ ('a' ≤ c ∧ c ≤ 'z') ∨ ('0' ≤ c ∧ c ≤ '9') ∨ c = '_' := by
  simp [isIdentifierChar, or_assoc]

theorem isPlain_iff_all {x : String} :
    IsPlain x ↔ x.toList ≠ [] ∧ x.toList.all isIdentifierChar = true := by
  simp only [IsPlain, List.all_eq_true, isIdentifierChar_iff]

instance (x : String) : Decidable (IsPlain x) := decidable_of_iff _ isPlain_iff_all.symm

theorem not_isBlankChar {c : Char} (h : isIdentifierChar c = true) :
    Text.isBlankChar c = false := by
  have hcode : (97 ≤ c.toNat ∧ c.toNat ≤ 122) ∨ (48 ≤ c.toNat ∧ c.toNat ≤ 57) ∨ c.toNat = 95 := by
    rcases isIdentifierChar_iff.mp h with hletter | hdigit | rfl
    · exact Or.inl hletter
    · exact Or.inr (Or.inl hdigit)
    · exact Or.inr (Or.inr rfl)
  have hout : c.toNat ∉ Text.blankCodes := by
    simp only [Text.blankCodes, List.mem_cons, List.not_mem_nil, or_false]
    omega
  simpa [Text.isBlankChar] using hout

theorem IsPlain.not_mem_break {x : String} (h : IsPlain x) : '\n' ∉ x.toList := by
  intro hmem
  have hchar := List.all_eq_true.mp (isPlain_iff_all.mp h).2 _ hmem
  exact absurd hchar (by decide)

theorem IsPlain.not_blank_append {x : String} (h : IsPlain x) (s : String) :
    Text.isBlank (x ++ s) = false := by
  obtain ⟨hne, hall⟩ := isPlain_iff_all.mp h
  obtain ⟨c, hc⟩ := List.exists_mem_of_ne_nil _ hne
  unfold Text.isBlank
  rw [List.all_eq_false]
  refine ⟨c, ?_, by rw [not_isBlankChar (List.all_eq_true.mp hall c hc)]; decide⟩
  rw [String.toList_append]
  exact List.mem_append_left _ hc

/-- The pattern lets one line feed follow a plain identifier. -/
theorem isIdentifier_iff {x : String} :
    isIdentifier x = true ↔ IsPlain x ∨ ∃ y, IsPlain y ∧ x = y ++ "\n" := by
  have hbody : isIdentifier x = true ↔ Text.withoutFinalBreak x.toList ≠ [] ∧
      (Text.withoutFinalBreak x.toList).all isIdentifierChar = true := by
    simp [isIdentifier]
  rw [hbody]
  constructor
  · rintro ⟨hne, hall⟩
    rcases Text.eq_or_eq_concat_of_withoutFinalBreak
      (Eq.refl (Text.withoutFinalBreak x.toList)) with hsame | hbreak
    · rw [← hsame] at hne hall
      exact Or.inl (isPlain_iff_all.mpr ⟨hne, hall⟩)
    · refine Or.inr ⟨.ofList (Text.withoutFinalBreak x.toList), ?_, ?_⟩
      · rw [isPlain_iff_all, String.toList_ofList]
        exact ⟨hne, hall⟩
      · apply String.toList_injective
        rw [String.toList_append, String.toList_ofList]
        exact hbreak
  · rintro (hplain | ⟨y, hplain, rfl⟩)
    · rw [Text.withoutFinalBreak_of_not_mem hplain.not_mem_break]
      exact isPlain_iff_all.mp hplain
    · have hbreak : Text.withoutFinalBreak (y ++ "\n").toList = y.toList := by
        rw [String.toList_append]
        exact Text.withoutFinalBreak_concat y.toList
      rw [hbreak]
      exact isPlain_iff_all.mp hplain

/-- What fits the pattern is plain exactly when it holds no line feed. -/
theorem isPlain_iff_of_isIdentifier {x : String} (h : isIdentifier x = true) :
    IsPlain x ↔ '\n' ∉ x.toList := by
  constructor
  · exact IsPlain.not_mem_break
  · intro hbreak
    rcases isIdentifier_iff.mp h with hplain | ⟨y, -, rfl⟩
    · exact hplain
    · refine absurd ?_ hbreak
      rw [String.toList_append]
      exact List.mem_append_right _ List.mem_cons_self

theorem isPlain_of_trim {x : String} (h : isIdentifier x = true) (ht : Text.trim x = x) :
    IsPlain x := by
  rcases isIdentifier_iff.mp h with hplain | ⟨y, -, rfl⟩
  · exact hplain
  · exact absurd ht (Text.trim_append_break_ne y)

/-- What fits the pattern is not blank. -/
theorem not_blank_of_isIdentifier {x : String} (h : isIdentifier x = true) :
    Text.isBlank x = false := by
  rcases isIdentifier_iff.mp h with hplain | ⟨y, hplain, rfl⟩
  · simpa using hplain.not_blank_append ""
  · exact hplain.not_blank_append "\n"

end Catalogue

namespace Registry

open Catalogue

variable {h : Host} {settings : Settings} {r : Registry}

/-! ### The identifiers of a registry -/

/-- Every fixed identifier of a registry fits the pattern. -/
theorem isIdentifier_of_ofManifest {m : Manifest} (hr : ofManifest h settings m = .ok r)
    {x : String} (hx : x ∈ r.catalogue.identifiers) : isIdentifier x = true := by
  obtain ⟨-, hc, -⟩ := ofManifest_eq_ok_iff.mp hr
  obtain ⟨hentries, -⟩ := ofListing_eq_ok_iff.mp hc
  obtain ⟨e, he, rfl⟩ := List.mem_map.mp (mem_identifiers.mp hx)
  exact (hentries e he).1

/-- **Which identifiers are plain.** The fixed identifiers of a registry are the texts of
their keys in the manifest, and each is plain up to one line feed behind it; the sentinel
is plain. The textual ones are the texts of their keys, whatever these are. So all are
plain exactly when no fixed one holds a line feed and all textual ones are. -/
theorem plain_provisionable_iff (hr : (build h settings).outcome = .ok r) :
    (∃ text d s, h.read settings.manifestPath
        (.resource (.manifestAbsent settings.manifestPath.text)) = .ok text ∧
      Yaml.read text = .ok d ∧ Manifest.sectionsOf d = .ok s ∧
      (∀ x, x ∈ r.catalogue.identifiers ↔ ∃ e ∈ s.fixed, e.1.shown = .ok x) ∧
      ∀ x, x ∈ r.textualDatabases.keys ↔ ∃ e ∈ s.databases, e.1.shown = .ok x) ∧
    (∀ x ∈ r.catalogue.identifiers, IsPlain x ∨ ∃ y, IsPlain y ∧ x = y ++ "\n") ∧
    IsPlain r.catalogue.sentinel ∧
    ((∀ x ∈ r.provisionable, IsPlain x) ↔
      (∀ x ∈ r.catalogue.identifiers, '\n' ∉ x.toList) ∧
        ∀ x ∈ r.textualDatabases.keys, IsPlain x) := by
  obtain ⟨m, hload, hm⟩ := build_outcome_eq_ok_iff.mp hr
  obtain ⟨text, d, htext, hd, hdata⟩ := Manifest.exists_of_load hload
  obtain ⟨s, -, -, -, hs, -⟩ := Manifest.exists_sections_of_ofData hdata
  have hserves := serves_of_ofManifest (Manifest.regular_of_ofData hdata) hm
  have hfits : ∀ x ∈ r.catalogue.identifiers, isIdentifier x = true := fun x hx =>
    isIdentifier_of_ofManifest hm hx
  refine ⟨⟨text, d, s, htext, hd, hs, ?_, ?_⟩, fun x hx => isIdentifier_iff.mp (hfits x hx), ?_, ?_⟩
  · intro x
    rw [hserves.identifiers, Manifest.mem_fixed_keys_iff hdata hs]
  · intro x
    rw [hserves.textual_databases, Manifest.mem_textual_keys_iff hdata hs]
  · refine isPlain_of_trim (hfits _ hserves.sentinel_fixed) ?_
    rw [hserves.sentinel_eq]
    exact Manifest.trim_sentinel_of_ofData hdata
  · constructor
    · intro hall
      exact ⟨fun x hx => (hall x ((hserves.provisionable x).mpr (Or.inl hx))).not_mem_break,
        fun x hx => hall x ((hserves.provisionable x).mpr (Or.inr hx))⟩
    · rintro ⟨hfixed, htextual⟩ x hx
      rcases (hserves.provisionable x).mp hx with hx | hx
      · exact (isPlain_iff_of_isIdentifier (hfits x hx)).mpr (hfixed x hx)
      · exact htextual x hx

/-- A folder whose manifest has a line feed behind a fixed identifier, and two textual
databases of which one is named like a token. -/
def strayHost : Host where
  tree := ((Tree.empty.write ["r", "testdbs.yaml"] (
    "sentinel: a\nfixed: \x7ba: f, \"a\\n\": f\x7d\n" ++
    "dynamic: \x7bt: \x7bpath: t, tokens: [DATABASE_NAME, COLUMN_TYPE, COLUMN_LENGTH]\x7d\x7d\n" ++
    "textual_columns: \x7btemplate: t, databases: " ++
    "\x7bb: \x7bcolumn_type: c, column_length: 8\x7d, " ++
    "COLUMN_TYPE: \x7bcolumn_type: c, column_length: 8\x7d\x7d\x7d\n").toUTF8).write
    ["r", "f"] "F;".toUTF8).write ["r", "t"] "DATABASE_NAME COLUMN_TYPE COLUMN_LENGTH".toUTF8
  workingFolder := []
  home := ⟨.top, []⟩
  bundled := ⟨.top, ["r"]⟩
  environment := []

set_option maxRecDepth 100000 in
theorem exists_build_strayHost :
    ∃ r, (build strayHost ⟨strayHost.bundled, true⟩).outcome = .ok r ∧
      r.catalogue.identifiers.toList = ["a", "a\n"] ∧
      r.textualDatabases.entries = [("b", ⟨"c", 8⟩), ("COLUMN_TYPE", ⟨"c", 8⟩)] ∧
      ∃ t, r.templates.named r.textualTemplate = .ok t ∧
        t.text = "DATABASE_NAME COLUMN_TYPE COLUMN_LENGTH" ∧ t.tokens = textualTokens := by
  have hbuilt : (build strayHost ⟨strayHost.bundled, true⟩).outcome.toOption.map (fun r =>
      (r.catalogue.identifiers.toList, r.textualDatabases.entries,
        (r.templates.named r.textualTemplate).toOption.map fun t => (t.text, t.tokens.toList))) =
      some (["a", "a\n"], [("b", ⟨"c", 8⟩), ("COLUMN_TYPE", ⟨"c", 8⟩)],
        some ("DATABASE_NAME COLUMN_TYPE COLUMN_LENGTH", textualTokens.toList)) := by
    -- a list of characters is evaluated much faster than the bytes of a text
    rw [toOption_build (h := strayHost) rfl ?hreturn]
    case hreturn =>
      simp only [String.toList_append, String.reduceToList]
      decide
    simp only [String.toList_append, String.reduceToList, List.cons_append, List.nil_append]
    decide +kernel
  obtain ⟨r, hr, hparts⟩ := Option.map_eq_some_iff.mp hbuilt
  simp only [Prod.mk.injEq, Option.map_eq_some_iff] at hparts
  obtain ⟨hidentifiers, hentries, t, ht, htext, htokens⟩ := hparts
  exact ⟨r, Outcome.eq_ok_of_toOption hr, hidentifiers, hentries, t, Outcome.eq_ok_of_toOption ht,
    htext, TextSet.toList_injective htokens⟩

/-- The sentinel of that registry is plain, and not everything it can provide is. -/
theorem plain_provisionable_iff_stray :
    ∃ r, (build strayHost ⟨strayHost.bundled, true⟩).outcome = .ok r ∧
      IsPlain r.catalogue.sentinel ∧
      (∀ x ∈ r.catalogue.identifiers, IsPlain x ∨ ∃ y, IsPlain y ∧ x = y ++ "\n") ∧
      ¬ ∀ x ∈ r.provisionable, IsPlain x := by
  obtain ⟨r, hr, hidentifiers, -⟩ := exists_build_strayHost
  obtain ⟨-, hpattern, hsentinel, hall⟩ := plain_provisionable_iff hr
  refine ⟨r, hr, hsentinel, hpattern, fun hplain => ?_⟩
  refine (hall.mp hplain).1 "a\n" ?_ (by decide)
  rw [TextSet.mem_def, hidentifiers]
  decide

/-- A registry can be built in which a fixed identifier ends with a line feed, and in
which a textual one is in upper case. -/
theorem stray_identifiers_not_plain :
    ∃ r, (build strayHost ⟨strayHost.bundled, true⟩).outcome = .ok r ∧
      "a\n" ∈ r.provisionable ∧ ¬ IsPlain "a\n" ∧
      "COLUMN_TYPE" ∈ r.provisionable ∧ ¬ IsPlain "COLUMN_TYPE" := by
  obtain ⟨r, hr, hidentifiers, hentries, -⟩ := exists_build_strayHost
  have hfixed : "a\n" ∈ r.catalogue.identifiers := by
    rw [TextSet.mem_def, hidentifiers]
    decide
  have htextual : "COLUMN_TYPE" ∈ r.textualDatabases.keySet := by
    rw [Listing.mem_keySet, Listing.keys, hentries]
    decide
  refine ⟨r, hr, TextSet.mem_union.mpr (Or.inl hfixed), by decide,
    TextSet.mem_union.mpr (Or.inr htextual), by decide⟩

end Registry

end SchemaDepot
