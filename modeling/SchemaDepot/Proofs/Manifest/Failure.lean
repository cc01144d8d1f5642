/-
# Why data is no manifest

Data of which no manifest is read is mostly refused: a section, the sentinel, a path or the
tokens of a template are missing or malformed, and the error says that a resource is
unusable. Any other error has one of two causes. A key or the name of a template may have
no text, and a component of a path may be no file name (`Manifest.Strays`). The sections
are read in order, so the first such place decides, unless something before it is refused
(`Manifest.ofData_eq_error_iff`).

Key definitions: `Refuses`, `Manifest.PathStrays`, `Manifest.Strays`.
Key theorems: `Manifest.pathWithin_eq_error_iff`, `Manifest.ofData_eq_error_iff`,
`Manifest.Strays.isForeign`.
-/
import SchemaDepot.Proofs.Manifest
import SchemaDepot.Proofs.Path
import SchemaDepot.Proofs.Value

namespace SchemaDepot

open Outcome

/-- The operation fails only because a resource is refused. -/
def Refuses {α : Type} (x : Except Error α) : Prop :=
  Ends (fun e => e.isResource = true) (fun _ => True) x

theorem Path.isForeign_of_partFault? {c : String} {e : Error} (h : partFault? c = some e) :
    e.isForeign = true := by
  unfold partFault? at h
  split at h
  · cases h
    rfl
  · split at h
    · cases h
      rfl
    · cases h

/-- From a settled folder a path is resolved if its own components are file names. -/
theorem Path.resolve_join_settled_eq_error_iff {workingFolder : List String} {folder : Path}
    {s : String} {e : Error}
    (hfolder : ∀ c ∈ folder.absoluteParts workingFolder, partFault? c = none) :
    ((⟨.top, folder.settle workingFolder⟩ : Path).join (ofText s)).resolve workingFolder =
        .error e ↔ (ofText s).parts.findSome? partFault? = some e := by
  have hplace : (folder.settle workingFolder).findSome? partFault? = none := by
    rw [List.findSome?_eq_none_iff]
    intro c hc
    rcases mem_of_mem_follow hc with hc | hc
    · cases hc
    · exact hfolder c hc
  have hroot : (⟨.top, folder.settle workingFolder⟩ : Path).absoluteParts workingFolder =
      folder.settle workingFolder := rfl
  rw [resolve_eq_error_iff, absoluteParts_join, hroot, List.findSome?_append]
  by_cases hs : s.toList.head? = some '/'
  · rw [if_pos hs]
    rfl
  · rw [if_neg hs, hplace, Option.none_or]

namespace Manifest

open SchemaDepot.Path (partFault? ofText resolve_eq_ok_iff resolve_eq_error_iff)

variable {workingFolder : List String} {folder : Path} {pool : Pool} {e : Error}

/-! ### What is refused -/

theorem sectionEntries_refuses (section_ : String) (v : Value) :
    Refuses (sectionEntries pool section_ v) := by
  unfold sectionEntries
  split
  · exact Ends.ok trivial
  · exact Ends.ok trivial
  · exact Ends.error rfl

theorem sentinelOf_refuses (v : Value) : Refuses (sentinelOf v) := by
  unfold sentinelOf
  split
  · exact Ends.ite (fun _ => Ends.error rfl) fun _ => Ends.ok trivial
  · exact Ends.error rfl

theorem tokensOf_refuses (owner : String) (v : Value) : Refuses (tokensOf pool owner v) := by
  unfold tokensOf
  split
  · exact Ends.ok trivial
  · split
    · exact Ends.error rfl
    · exact Ends.ite (fun _ => Ends.ok trivial) fun _ => Ends.error rfl
  · exact Ends.error rfl

/-! ### One entry -/

/-- The value gives a path, but a component of it or of the folder is no file name. -/
def PathStrays (workingFolder : List String) (folder : Path) (v : Value) (e : Error) : Prop :=
  ∃ raw, v = .text raw ∧ Text.isBlank raw = false ∧
    (folder.absoluteParts workingFolder ++ (ofText (Text.trim raw)).parts).findSome? partFault? =
      some e

/-- The key of a fixed database has no text, or its path strays. -/
inductive FixedStrays (workingFolder : List String) (folder : Path) (x : Value × Value)
    (e : Error) : Prop
  | key (hkey : x.1.shown = .error e)
  | path {identifier : String} (hkey : x.1.shown = .ok identifier)
      (hpath : PathStrays workingFolder folder x.2 e)

/-- The key of a dynamic scheme has no text, or the path of its template strays. -/
inductive DynamicStrays (workingFolder : List String) (folder : Path) (pool : Pool)
    (x : Value × Value) (e : Error) : Prop
  | key (hkey : x.1.shown = .error e)
  | path {name : String} {conf : List (Value × Value)} (hkey : x.1.shown = .ok name)
      (hconf : sectionEntries pool ("dynamic." ++ name) x.2 = .ok conf)
      (hpath : PathStrays workingFolder folder (Value.entry "path" conf) e)

/-- A path that is not refused fails as its first component that is no file name, those of
the folder coming first. -/
theorem pathWithin_eq_error_iff (he : ¬ e.isResource) {owner : String} {v : Value} :
    pathWithin workingFolder folder owner v = .error e ↔
      PathStrays workingFolder folder v e := by
  have hafter : ∀ root raw : String, ∀ p q : Path,
      (if p.isBelow q then .ok p else .error (.resource (.pathEscapes owner root raw)) :
        Except Error Path) ≠ .error e := by
    intro root raw p q h
    split at h
    · cases h
    · exact Error.resource_ne he _ (Except.error.inj h)
  constructor
  · intro h
    unfold pathWithin at h
    split at h
    · rename_i raw
      obtain ⟨-, h⟩ | ⟨hb, h⟩ := refuse_eq_error_iff.mp h
      · exact absurd h (Error.resource_ne he _)
      refine ⟨raw, rfl, by simpa using hb, ?_⟩
      rw [List.findSome?_append]
      obtain h | ⟨⟨anchor, parts⟩, hroot, h⟩ := bind_eq_error_iff.mp h
      · rw [resolve_eq_error_iff.mp h, Option.some_or]
      · obtain ⟨hfolder, rfl, rfl⟩ := resolve_eq_ok_iff.mp hroot
        obtain h | ⟨path, -, h⟩ := bind_eq_error_iff.mp h
        · rw [List.findSome?_eq_none_iff.mpr hfolder, Option.none_or]
          exact (Path.resolve_join_settled_eq_error_iff hfolder).mp h
        · exact absurd h (hafter _ _ _ _)
    · exact absurd (Except.error.inj h) (Error.resource_ne he _)
  · rintro ⟨raw, rfl, hb, hfault⟩
    have hnot : ¬ Text.isBlank raw = true := by simp [hb]
    rw [List.findSome?_append, Option.or_eq_some_iff] at hfault
    rw [pathWithin, if_neg hnot, bind_eq_error_iff]
    rcases hfault with hfolder | ⟨hfolder, hpath⟩
    · exact Or.inl (resolve_eq_error_iff.mpr hfolder)
    · have hnames := List.findSome?_eq_none_iff.mp hfolder
      have hroot : folder.resolve workingFolder = .ok ⟨.top, folder.settle workingFolder⟩ :=
        resolve_eq_ok_iff.mpr ⟨hnames, rfl, rfl⟩
      refine Or.inr ⟨_, hroot, bind_eq_error_iff.mpr ?_⟩
      exact Or.inl ((Path.resolve_join_settled_eq_error_iff hnames).mpr hpath)

theorem fixedEntry_eq_error_iff (he : ¬ e.isResource) {x : Value × Value} :
    fixedEntry workingFolder folder x = .error e ↔ FixedStrays workingFolder folder x e := by
  constructor
  · intro h
    obtain h | ⟨identifier, hkey, h⟩ := bind_eq_error_iff.mp h
    · exact .key h
    obtain h | ⟨path, -, h⟩ := bind_eq_error_iff.mp h
    · exact .path hkey ((pathWithin_eq_error_iff he).mp h)
    · cases h
  · rintro (hkey | ⟨hkey, hpath⟩)
    · exact bind_eq_error_iff.mpr (Or.inl hkey)
    · rw [fixedEntry, hkey, ok_bind, (pathWithin_eq_error_iff he).mpr hpath]
      rfl

theorem dynamicEntry_eq_error_iff (he : ¬ e.isResource) {x : Value × Value} :
    dynamicEntry workingFolder folder pool x = .error e ↔
      DynamicStrays workingFolder folder pool x e := by
  constructor
  · intro h
    obtain h | ⟨name, hkey, h⟩ := bind_eq_error_iff.mp h
    · exact .key h
    obtain h | ⟨conf, hconf, h⟩ := bind_eq_error_iff.mp h
    · exact absurd h ((sectionEntries_refuses _ _).ne_error he)
    obtain h | ⟨path, -, h⟩ := bind_eq_error_iff.mp h
    · exact .path hkey hconf ((pathWithin_eq_error_iff he).mp h)
    obtain h | ⟨tokens, -, h⟩ := bind_eq_error_iff.mp h
    · exact absurd h ((tokensOf_refuses _ _).ne_error he)
    · cases h
  · rintro (hkey | ⟨hkey, hconf, hpath⟩)
    · exact bind_eq_error_iff.mpr (Or.inl hkey)
    · rw [dynamicEntry, hkey, ok_bind, hconf, ok_bind, (pathWithin_eq_error_iff he).mpr hpath]
      rfl

theorem textualEntry_eq_error_iff (he : ¬ e.isResource) {x : Value × Value} :
    textualEntry pool x = .error e ↔ x.1.shown = .error e := by
  constructor
  · intro h
    obtain h | ⟨identifier, -, h⟩ := bind_eq_error_iff.mp h
    · exact h
    obtain h | ⟨conf, -, h⟩ := bind_eq_error_iff.mp h
    · exact absurd h ((sectionEntries_refuses _ _).ne_error he)
    split at h
    · cases h
      exact absurd rfl he
    · split at h
      · cases h
        exact absurd rfl he
      · cases h
  · exact fun hkey => bind_eq_error_iff.mpr (Or.inl hkey)

theorem textualTemplateOf_suits (v : Value) : Suits (textualTemplateOf pool v) :=
  .ite (pool.shown_suits v) (.ok _)

/-! ### All sections -/

/-- The entries of the data, which names a sentinel. -/
structure Rooted (d : Data) (root : List (Value × Value)) : Prop where
  entries_eq : sectionEntries d.pool "<root>" d.root = .ok root
  named : ∃ sentinel, sentinelOf (Value.entry "sentinel" root) = .ok sentinel

/-- The fixed databases were read. -/
structure FixedRead (workingFolder : List String) (folder : Path) (d : Data)
    (root : List (Value × Value)) : Prop where
  rooted : Rooted d root
  read : ∃ entries fixed, sectionEntries d.pool "fixed" (Value.entry "fixed" root) = .ok entries ∧
    entries.mapM (fixedEntry workingFolder folder) = .ok fixed

/-- The dynamic schemes were read too, and these are the entries of the textual columns. -/
structure DynamicRead (workingFolder : List String) (folder : Path) (d : Data)
    (textual : List (Value × Value)) : Prop where
  read : ∃ root entries dynamic, FixedRead workingFolder folder d root ∧
    sectionEntries d.pool "dynamic" (Value.entry "dynamic" root) = .ok entries ∧
    entries.mapM (dynamicEntry workingFolder folder d.pool) = .ok dynamic ∧
    sectionEntries d.pool "textual_columns" (Value.entry "textual_columns" root) = .ok textual

/-- Once the dynamic schemes were read, only the section of textual columns is left. -/
theorem ofData_of_dynamicRead {d : Data} {textual : List (Value × Value)}
    (h : DynamicRead workingFolder folder d textual) :
    ∃ sentinel fixed dynamic, ofData workingFolder folder d = (do
      let template ← textualTemplateOf d.pool (Value.entry "template" textual)
      let databaseData ←
        sectionEntries d.pool "textual_columns.databases" (Value.entry "databases" textual)
      let databases ← databaseData.mapM (textualEntry d.pool)
      .ok ⟨sentinel, fixed, dynamic, template, .ofList databases⟩) := by
  obtain ⟨root, dynamicData, dynamic, ⟨⟨hroot, sentinel, hsentinel⟩, fixedData, fixed,
    hfixedData, hfixed⟩, hdynamicData, hdynamic, htextual⟩ := h
  refine ⟨sentinel, .ofList fixed, .ofList dynamic, ?_⟩
  rw [ofData, hroot, ok_bind, hsentinel, ok_bind, hfixedData, ok_bind, hfixed, ok_bind,
    hdynamicData, ok_bind, hdynamic, ok_bind, htextual, ok_bind]

/-- What comes before can be read, but a key or the name of the template has no text, or a
path strays. -/
inductive Strays (workingFolder : List String) (folder : Path) (d : Data) (e : Error) : Prop
  | fixed {root entries : List (Value × Value)} {x : Value × Value} (hroot : Rooted d root)
      (hentries : sectionEntries d.pool "fixed" (Value.entry "fixed" root) = .ok entries)
      (hreach : Reaches (fixedEntry workingFolder folder) entries x)
      (hstrays : FixedStrays workingFolder folder x e)
  | dynamic {root entries : List (Value × Value)} {x : Value × Value}
      (hbefore : FixedRead workingFolder folder d root)
      (hentries : sectionEntries d.pool "dynamic" (Value.entry "dynamic" root) = .ok entries)
      (hreach : Reaches (dynamicEntry workingFolder folder d.pool) entries x)
      (hstrays : DynamicStrays workingFolder folder d.pool x e)
  | template {textual : List (Value × Value)} (hbefore : DynamicRead workingFolder folder d textual)
      (hname : textualTemplateOf d.pool (Value.entry "template" textual) = .error e)
  | database {textual entries : List (Value × Value)} {name : String} {x : Value × Value}
      (hbefore : DynamicRead workingFolder folder d textual)
      (hname : textualTemplateOf d.pool (Value.entry "template" textual) = .ok name)
      (hentries : sectionEntries d.pool "textual_columns.databases"
        (Value.entry "databases" textual) = .ok entries)
      (hreach : Reaches (textualEntry d.pool) entries x) (hkey : x.1.shown = .error e)

/-- **Why data is no manifest.** The reading fails with an error that is not about the
resource exactly when it gets to a key or a name without a text, or to a path that
strays. -/
theorem ofData_eq_error_iff (he : ¬ e.isResource) {d : Data} :
    ofData workingFolder folder d = .error e ↔ Strays workingFolder folder d e := by
  constructor
  · intro h
    obtain h | ⟨root, hroot, h⟩ := bind_eq_error_iff.mp h
    · exact absurd h ((sectionEntries_refuses _ _).ne_error he)
    obtain h | ⟨sentinel, hsentinel, h⟩ := bind_eq_error_iff.mp h
    · exact absurd h ((sentinelOf_refuses _).ne_error he)
    have hrooted : Rooted d root := ⟨hroot, sentinel, hsentinel⟩
    obtain h | ⟨fixedData, hfixedData, h⟩ := bind_eq_error_iff.mp h
    · exact absurd h ((sectionEntries_refuses _ _).ne_error he)
    obtain h | ⟨fixed, hfixed, h⟩ := bind_eq_error_iff.mp h
    · obtain ⟨x, hreach, hx⟩ := mapM_eq_error_iff.mp h
      exact .fixed hrooted hfixedData hreach ((fixedEntry_eq_error_iff he).mp hx)
    have hfixedRead : FixedRead workingFolder folder d root :=
      ⟨hrooted, fixedData, fixed, hfixedData, hfixed⟩
    obtain h | ⟨dynamicData, hdynamicData, h⟩ := bind_eq_error_iff.mp h
    · exact absurd h ((sectionEntries_refuses _ _).ne_error he)
    obtain h | ⟨dynamic, hdynamic, h⟩ := bind_eq_error_iff.mp h
    · obtain ⟨x, hreach, hx⟩ := mapM_eq_error_iff.mp h
      exact .dynamic hfixedRead hdynamicData hreach ((dynamicEntry_eq_error_iff he).mp hx)
    obtain h | ⟨textual, htextual, h⟩ := bind_eq_error_iff.mp h
    · exact absurd h ((sectionEntries_refuses _ _).ne_error he)
    have hdynamicRead : DynamicRead workingFolder folder d textual :=
      ⟨root, dynamicData, dynamic, hfixedRead, hdynamicData, hdynamic, htextual⟩
    obtain h | ⟨template, htemplate, h⟩ := bind_eq_error_iff.mp h
    · exact .template hdynamicRead h
    obtain h | ⟨databaseData, hdatabaseData, h⟩ := bind_eq_error_iff.mp h
    · exact absurd h ((sectionEntries_refuses _ _).ne_error he)
    obtain h | ⟨databases, -, h⟩ := bind_eq_error_iff.mp h
    · obtain ⟨x, hreach, hx⟩ := mapM_eq_error_iff.mp h
      exact .database hdynamicRead htemplate hdatabaseData hreach
        ((textualEntry_eq_error_iff he).mp hx)
    · cases h
  · intro h
    cases h with
    | fixed hroot hentries hreach hstrays =>
      obtain ⟨hroot, sentinel, hsentinel⟩ := hroot
      rw [ofData, hroot, ok_bind, hsentinel, ok_bind, hentries, ok_bind,
        mapM_eq_error_iff.mpr ⟨_, hreach, (fixedEntry_eq_error_iff he).mpr hstrays⟩]
      rfl
    | dynamic hbefore hentries hreach hstrays =>
      obtain ⟨⟨hroot, sentinel, hsentinel⟩, fixedData, fixed, hfixedData, hfixed⟩ := hbefore
      rw [ofData, hroot, ok_bind, hsentinel, ok_bind, hfixedData, ok_bind, hfixed, ok_bind,
        hentries, ok_bind,
        mapM_eq_error_iff.mpr ⟨_, hreach, (dynamicEntry_eq_error_iff he).mpr hstrays⟩]
      rfl
    | template hbefore hname =>
      obtain ⟨sentinel, fixed, dynamic, hrest⟩ := ofData_of_dynamicRead hbefore
      rw [hrest, hname]
      rfl
    | database hbefore hname hentries hreach hkey =>
      obtain ⟨sentinel, fixed, dynamic, hrest⟩ := ofData_of_dynamicRead hbefore
      rw [hrest, hname, ok_bind, hentries, ok_bind,
        mapM_eq_error_iff.mpr ⟨_, hreach, (textualEntry_eq_error_iff he).mpr hkey⟩]
      rfl

theorem PathStrays.isForeign {v : Value} (h : PathStrays workingFolder folder v e) :
    e.isForeign = true := by
  obtain ⟨raw, -, -, hfault⟩ := h
  obtain ⟨c, -, hc⟩ := List.exists_of_findSome?_eq_some hfault
  exact Path.isForeign_of_partFault? hc

/-- What strays is about a path or a value. -/
theorem Strays.isForeign {d : Data} (h : Strays workingFolder folder d e) : e.isForeign = true := by
  have hkey : ∀ {v : Value}, v.shown = .error e → e.isForeign = true := fun hv =>
    Error.isForeign_of_isUnsuitable ((Value.shown_suits _).error_of hv)
  cases h with
  | fixed _ _ _ hstrays =>
    cases hstrays with
    | key hx => exact hkey hx
    | path _ hpath => exact hpath.isForeign
  | dynamic _ _ _ hstrays =>
    cases hstrays with
    | key hx => exact hkey hx
    | path _ _ hpath => exact hpath.isForeign
  | template _ hname =>
    exact Error.isForeign_of_isUnsuitable ((textualTemplateOf_suits _).error_of hname)
  | database _ _ _ _ hx => exact hkey hx

end Manifest

end SchemaDepot
