/-
# Resources stay in their folder

The path of a resource is a text that is followed from the resource folder. It is taken
exactly when it leads to a place whose names are those of the folder and more, name by
name, and it is refused in every other case (`Manifest.pathWithin_text_eq_ok_iff`). A path
that climbs out of the folder and back in is taken, one into a folder whose name only
begins alike is refused. So every file that a manifest names lies strictly below its
folder, whatever the data (`Manifest.below_of_mem_paths`).

A text that starts with slashes is followed from the top, however many these are: two
slashes are no top of their own once a path is resolved
(`Manifest.doubled_slash_leads_inside`).

Key definitions: `Path.IsName`, `Manifest.paths`.
Key theorems: `Manifest.pathWithin_text`, `Manifest.exists_of_pathWithin`,
`Manifest.below_of_mem_paths`, `Manifest.pathWithin_text_eq_ok_iff`.
-/
import SchemaDepot.Proofs.Manifest
import SchemaDepot.Proofs.Path

namespace SchemaDepot

namespace Path

/-- The character can stand in the name of a file. -/
def IsNameChar (x : Char) : Prop := Text.hasNoBytes x = false ∧ x ≠ '\x00'

/-- The component can be a file name, or leads to the folder above. -/
def IsName (c : String) : Prop := c ≠ "." ∧ ∀ x ∈ c.toList, IsNameChar x

theorem isNameChar_of_all {cs : List Char}
    (h : (cs.all fun x => !Text.hasNoBytes x && x != '\x00') = true) : ∀ x ∈ cs, IsNameChar x := by
  intro x hx
  have hx := List.all_eq_true.mp h x hx
  rw [Bool.and_eq_true, Bool.not_eq_true', bne_iff_ne] at hx
  exact hx

variable {workingFolder : List String} {folder : Path}

/-- What a text leads to from a folder, if both are made of names. -/
theorem isName_absoluteParts_join (hfolder : ∀ c ∈ folder.absoluteParts workingFolder, IsName c)
    {s : String} (hs : ∀ x ∈ s.toList, IsNameChar x) :
    ∀ c ∈ (folder.join (ofText s)).absoluteParts workingFolder, IsName c := by
  intro c hc
  rw [absoluteParts_join] at hc
  rcases List.mem_append.mp hc with hc | hc
  · split at hc
    · cases hc
    · exact hfolder c hc
  · obtain ⟨hdot, hchars⟩ := of_mem_names (spells_iff.mpr rfl) hc
    exact ⟨hdot, fun x hx => hs x (hchars x hx)⟩

theorem isName_settle {p : Path} (h : ∀ c ∈ p.absoluteParts workingFolder, IsName c) :
    ∀ c ∈ p.settle workingFolder, IsName c := by
  intro c hc
  rcases mem_of_mem_follow hc with hc | hc
  · cases hc
  · exact h c hc

theorem resolve_of_isName {p : Path} (h : ∀ c ∈ p.absoluteParts workingFolder, IsName c) :
    p.resolve workingFolder = .ok ⟨.top, p.settle workingFolder⟩ :=
  resolve_eq_ok_iff.mpr ⟨fun c hc => partFault?_eq_none_iff.mpr (h c hc).2, rfl, rfl⟩

end Path

namespace Manifest

open SchemaDepot.Path

/-- The paths of the files that a manifest names, in the order they are read. -/
def paths (m : Manifest) : List Path := m.fixed.values ++ m.dynamic.values.map TemplateEntry.path

variable {workingFolder : List String} {folder : Path} {owner raw : String}

/-! ### One path -/

/-- What becomes of a text: it is refused if it is blank or leads to no place below the
folder, and else it is that place. -/
theorem pathWithin_text (hfolder : ∀ c ∈ folder.absoluteParts workingFolder, IsName c)
    (hraw : ∀ x ∈ raw.toList, IsNameChar x) :
    pathWithin workingFolder folder owner (.text raw) =
      if Text.isBlank raw then .error (.resource (.pathMissing owner))
      else
        let path : Path := ⟨.top, (folder.join (ofText (Text.trim raw))).settle workingFolder⟩
        let root : Path := ⟨.top, folder.settle workingFolder⟩
        if path.isBelow root then .ok path
        else .error (.resource (.pathEscapes owner root.text raw)) := by
  have htrim : ∀ x ∈ (Text.trim raw).toList, IsNameChar x := fun x hx =>
    hraw x (Text.mem_of_mem_trim hx)
  have hroot : ∀ c ∈ (⟨.top, folder.settle workingFolder⟩ : Path).absoluteParts workingFolder,
      IsName c := isName_settle hfolder
  have hjoined := resolve_of_isName (isName_absoluteParts_join hroot htrim)
  rw [settle_join_settled] at hjoined
  rw [pathWithin, resolve_of_isName hfolder, Outcome.ok_bind, hjoined, Outcome.ok_bind]

/-- Whatever value gives a path, it is a text, and the path is resolved from it. -/
theorem exists_resolved_of_pathWithin {v : Value} {p : Path}
    (h : pathWithin workingFolder folder owner v = .ok p) :
    ∃ raw root, v = .text raw ∧ Text.isBlank raw = false ∧
      folder.resolve workingFolder = .ok root ∧
      (root.join (ofText (Text.trim raw))).resolve workingFolder = .ok p ∧
      p.isBelow root = true := by
  unfold pathWithin at h
  split at h
  · rename_i raw
    obtain ⟨hb, h⟩ := Outcome.refuse_eq_ok_iff.mp h
    obtain ⟨root, hroot, h⟩ := Outcome.bind_eq_ok_iff.mp h
    obtain ⟨path, hpath, h⟩ := Outcome.bind_eq_ok_iff.mp h
    split at h
    · rename_i hbelow
      cases h
      exact ⟨raw, root, rfl, by simpa using hb, hroot, hpath, hbelow⟩
    · cases h
  · cases h

/-- The text leads to a place below the folder. -/
theorem exists_of_pathWithin {v : Value} {p : Path}
    (h : pathWithin workingFolder folder owner v = .ok p) :
    ∃ raw, v = .text raw ∧ Text.isBlank raw = false ∧ p.anchor = .top ∧
      Leads workingFolder folder (Text.trim raw) p.parts ∧
      Below p.parts (folder.settle workingFolder) := by
  obtain ⟨raw, ⟨rootAnchor, rootParts⟩, rfl, hb, hroot, hpath, hbelow⟩ :=
    exists_resolved_of_pathWithin h
  obtain ⟨-, rfl, rfl⟩ := resolve_eq_ok_iff.mp hroot
  obtain ⟨-, -, hplace⟩ := resolve_eq_ok_iff.mp hpath
  rw [settle_join_settled] at hplace
  obtain ⟨hanchor, hbelow⟩ := isBelow_iff.mp hbelow
  exact ⟨raw, rfl, hb, hanchor, leads_iff.mpr hplace.symm, hbelow⟩

/-! ### All paths -/

theorem exists_pathWithin_of_mem_paths {d : Data} {m : Manifest}
    (h : ofData workingFolder folder d = .ok m) {p : Path} (hp : p ∈ m.paths) :
    ∃ owner v, pathWithin workingFolder folder owner v = .ok p := by
  rcases List.mem_append.mp hp with hp | hp
  · obtain ⟨e, he, rfl⟩ := List.mem_map.mp hp
    obtain ⟨-, fixedData, fixed, -, -, -, -, -, -, -, -, hread, -, -, -, -, -, -, hm, -⟩ :=
      exists_of_ofData h
    rw [hm] at he
    obtain ⟨x, -, hx⟩ := exists_of_mem_entries hread he
    exact ⟨e.1, x.2, (exists_of_fixedEntry hx).2⟩
  · obtain ⟨t, ht, rfl⟩ := List.mem_map.mp hp
    obtain ⟨e, he, rfl⟩ := List.mem_map.mp ht
    obtain ⟨-, -, -, -, x, -, hx⟩ := exists_dynamicEntry h he
    obtain ⟨-, -, conf, -, hpath, -⟩ := exists_of_dynamicEntry hx
    exact ⟨e.1, _, hpath⟩

/-- Every file that a manifest names lies strictly below its folder. -/
theorem below_of_mem_paths {d : Data} {m : Manifest} (h : ofData workingFolder folder d = .ok m)
    {p : Path} (hp : p ∈ m.paths) :
    p.anchor = .top ∧ up ∉ p.parts ∧ Below p.parts (folder.settle workingFolder) := by
  obtain ⟨owner, v, hv⟩ := exists_pathWithin_of_mem_paths h hp
  obtain ⟨raw, -, -, hanchor, ⟨parts, -, hsettles⟩, hbelow⟩ := exists_of_pathWithin hv
  exact ⟨hanchor, hsettles.2, hbelow⟩

/-- **Resources stay in their folder.** A text that is made of names is taken as a path
exactly when it is not blank and leads to a place strictly below that of the folder; the
path is this place, without dots. In every other case the resource is refused. So
whatever data a manifest is read from, its files lie strictly below the folder. -/
theorem pathWithin_text_eq_ok_iff (hfolder : ∀ c ∈ folder.absoluteParts workingFolder, IsName c)
    (hraw : ∀ x ∈ raw.toList, IsNameChar x) (owner : String) :
    ∃ root, Settles (folder.absoluteParts workingFolder) root ∧
      (∀ p, pathWithin workingFolder folder owner (.text raw) = .ok p ↔
        Text.isBlank raw = false ∧ p.anchor = .top ∧
          Leads workingFolder folder (Text.trim raw) p.parts ∧ Below p.parts root) ∧
      (∀ p, pathWithin workingFolder folder owner (.text raw) = .ok p →
        "." ∉ p.parts ∧ ".." ∉ p.parts) ∧
      ((∃ p, pathWithin workingFolder folder owner (.text raw) = .ok p) ∨
        ∃ fault, pathWithin workingFolder folder owner (.text raw) = .error (.resource fault)) ∧
      ∀ d m, ofData workingFolder folder d = .ok m → ∀ p ∈ m.paths,
        p.anchor = .top ∧ ".." ∉ p.parts ∧ Below p.parts root := by
  refine ⟨folder.settle workingFolder, settles_iff.mpr rfl, fun p => ⟨?_, ?_⟩, fun p hp => ?_, ?_,
    fun d m hm p hp => below_of_mem_paths hm hp⟩
  · intro hp
    obtain ⟨raw', hraw', hb, hanchor, hleads, hbelow⟩ := exists_of_pathWithin hp
    cases hraw'
    exact ⟨hb, hanchor, hleads, hbelow⟩
  · rintro ⟨hb, hanchor, hleads, hbelow⟩
    obtain ⟨anchor, parts⟩ := p
    cases hanchor
    have hinside := isBelow_iff.mpr ⟨rfl, hbelow⟩
    rw [pathWithin_text hfolder hraw, hb, leads_iff.mp hleads]
    simp only [Bool.false_eq_true, if_false, hinside, if_true]
  · obtain ⟨raw', hraw', -, -, hleads, -⟩ := exists_of_pathWithin hp
    cases hraw'
    have htrim : ∀ x ∈ (Text.trim raw).toList, IsNameChar x := fun x hx =>
      hraw x (Text.mem_of_mem_trim hx)
    have hnames := isName_settle (isName_absoluteParts_join hfolder htrim)
    rw [leads_iff.mp hleads] at hnames
    obtain ⟨parts, -, hsettles⟩ := hleads
    exact ⟨fun hdot => (hnames _ hdot).1 rfl, hsettles.2⟩
  · rw [pathWithin_text hfolder hraw]
    by_cases hb : Text.isBlank raw = true
    · rw [if_pos hb]
      exact Or.inr ⟨_, rfl⟩
    · rw [if_neg hb]
      dsimp only
      split
      · exact Or.inl ⟨_, rfl⟩
      · exact Or.inr ⟨_, rfl⟩

/-- A path that climbs out of the folder and back in is taken, with its dots followed. -/
theorem pathWithin_text_eq_ok_iff_detour :
    (∀ c ∈ ["srv", "root"], IsName c) ∧ (∀ x ∈ " ../root/./b//a.sql\n".toList, IsNameChar x) ∧
    pathWithin [] ⟨.top, ["srv", "root"]⟩ "a" (.text " ../root/./b//a.sql\n") =
      .ok ⟨.top, ["srv", "root", "b", "a.sql"]⟩ ∧
    ∃ root, Settles ["srv", "root"] root ∧ Below ["srv", "root", "b", "a.sql"] root ∧
      Leads [] ⟨.top, ["srv", "root"]⟩ "../root/./b//a.sql" ["srv", "root", "b", "a.sql"] := by
  have hfolder : ∀ c ∈ ["srv", "root"], IsName c := by
    intro c hc
    rw [List.mem_pair] at hc
    rcases hc with rfl | rfl
    · exact ⟨by decide, isNameChar_of_all (by decide)⟩
    · exact ⟨by decide, isNameChar_of_all (by decide)⟩
  have hraw : ∀ x ∈ " ../root/./b//a.sql\n".toList, IsNameChar x :=
    isNameChar_of_all (by decide)
  have htaken : pathWithin [] ⟨.top, ["srv", "root"]⟩ "a" (.text " ../root/./b//a.sql\n") =
      .ok ⟨.top, ["srv", "root", "b", "a.sql"]⟩ := Outcome.eq_ok_of_toOption (by decide)
  have htrim : Text.trim " ../root/./b//a.sql\n" = "../root/./b//a.sql" := by decide
  obtain ⟨root, hroot, hiff, -⟩ :=
    @pathWithin_text_eq_ok_iff [] ⟨.top, ["srv", "root"]⟩ _ hfolder hraw "a"
  obtain ⟨-, -, hleads, hbelow⟩ := (hiff _).mp htaken
  rw [htrim] at hleads
  exact ⟨hfolder, hraw, htaken, root, hroot, hbelow, hleads⟩

/-- A text with two slashes in front names a path with a top of its own, which is below no
folder at the usual top. Resolved it has the usual top, and so it is taken. -/
theorem doubled_slash_leads_inside :
    (ofText "//nowhere/root/a.sql").anchor = .doubleTop ∧
    (⟨.doubleTop, (ofText "//nowhere/root/a.sql").settle []⟩ : Path).isBelow
      ⟨.top, ["nowhere", "root"]⟩ = false ∧
    pathWithin [] ⟨.top, ["nowhere", "root"]⟩ "a" (.text "//nowhere/root/a.sql") =
      .ok ⟨.top, ["nowhere", "root", "a.sql"]⟩ :=
  ⟨by decide, by decide +kernel, Outcome.eq_ok_of_toOption (by decide +kernel)⟩

end Manifest

end SchemaDepot
