/-
# What a manifest keeps of its data

Each section of a manifest is a listing under the texts of the keys in the data. Keys
that differ can have one text: the number 1 and the text `1` have. Of the entries whose
keys have one text only the last is kept, so a section keeps everything exactly when no
two of its keys have one text (`keepsLast_of_ofData`). Where all keys are texts, which
is what a mapping cannot repeat, nothing is lost.

Key definitions: `Manifest.sectionsOf`, `Manifest.keyTexts`, `Manifest.KeepsAll`,
`Manifest.KeepsLast`.
Key theorems: `Manifest.keepsAll_iff_nodup`, `Manifest.get?_section_eq_some_iff`,
`Manifest.keepsLast_of_mapM`, `Manifest.keepsLast_of_ofData`.
-/
import SchemaDepot.Proofs.Manifest

namespace SchemaDepot.Manifest

/-! ### Sections of data -/

/-- The entries in the data of a manifest, section by section. -/
structure Sections where
  fixed : List (Value × Value)
  dynamic : List (Value × Value)
  databases : List (Value × Value)

/-- The sections of the data of a manifest; one that is missing is empty. -/
def sectionsOf (d : Data) : Except Error Sections := do
  let root ← sectionEntries d.pool "<root>" d.root
  let fixed ← sectionEntries d.pool "fixed" (Value.entry "fixed" root)
  let dynamic ← sectionEntries d.pool "dynamic" (Value.entry "dynamic" root)
  let textual ← sectionEntries d.pool "textual_columns" (Value.entry "textual_columns" root)
  let databases ←
    sectionEntries d.pool "textual_columns.databases" (Value.entry "databases" textual)
  .ok ⟨fixed, dynamic, databases⟩

/-- The texts of the keys of some entries, in order. -/
def keyTexts (data : List (Value × Value)) : Except Error (List String) :=
  data.mapM fun e => e.1.shown

variable {α : Type}

/-- Each entry of the data stands in the listing, as it is read, under the text of its
key; and the listing has no other entries. -/
structure KeepsAll (read : Value × Value → Except Error (String × α))
    (data : List (Value × Value)) (l : Listing α) : Prop where
  size_eq : l.size = data.length
  kept : ∀ e ∈ data, ∃ x a, e.1.shown = .ok x ∧ read e = .ok (x, a) ∧ l.get? x = some a

/-- Under each text is what was read from the last entry whose key has it. -/
structure KeepsLast (read : Value × Value → Except Error (String × α))
    (data : List (Value × Value)) (l : Listing α) : Prop where
  last : ∀ x a, l.get? x = some a ↔ ∃ before e after, data = before ++ e :: after ∧
    e.1.shown = .ok x ∧ read e = .ok (x, a) ∧ ∀ e' ∈ after, e'.1.shown ≠ .ok x
  size_eq : ∃ texts, keyTexts data = .ok texts ∧ l.size = (TextSet.ofList texts).size ∧
    (KeepsAll read data l ↔ texts.Nodup)
  all_of_texts : (∀ e ∈ data, ∃ s, e.1 = .text s) →
    data.Pairwise (fun e e' => e.1.same e'.1 = false) → KeepsAll read data l

/-! ### One section

The entries of a section are read one by one, each under the text of its key. -/

section

variable {read : Value × Value → Except Error (String × α)} {data : List (Value × Value)}
  {es : List (String × α)}

/-- The texts of the keys are the names the entries are read under. -/
theorem keyTexts_eq_ok (hread : ∀ e y, read e = .ok y → e.1.shown = .ok y.1)
    (h : data.mapM read = .ok es) : keyTexts data = .ok (es.map Prod.fst) :=
  Outcome.mapM_eq_ok_map hread h

theorem mem_keys_section_iff (hread : ∀ e y, read e = .ok y → e.1.shown = .ok y.1)
    (h : data.mapM read = .ok es) {x : String} :
    x ∈ (Listing.ofList es).keys ↔ ∃ e ∈ data, e.1.shown = .ok x := by
  rw [Listing.mem_keys_ofList]
  have htexts := keyTexts_eq_ok hread h
  constructor
  · intro hx
    exact Outcome.exists_of_mem_mapM htexts x hx
  · rintro ⟨e, he, hx⟩
    obtain ⟨y, hy, hey⟩ := Outcome.exists_mem_of_mapM htexts e he
    cases hey.symm.trans hx
    exact hy

/-- Under a text is what was read from the last entry whose key has it. -/
theorem get?_section_eq_some_iff (hread : ∀ e y, read e = .ok y → e.1.shown = .ok y.1)
    (h : data.mapM read = .ok es) {x : String} {a : α} :
    (Listing.ofList es).get? x = some a ↔ ∃ before e after, data = before ++ e :: after ∧
      e.1.shown = .ok x ∧ read e = .ok (x, a) ∧ ∀ e' ∈ after, e'.1.shown ≠ .ok x := by
  rw [Listing.get?_ofList_eq_some_iff]
  constructor
  · rintro ⟨front, back, rfl, hout⟩
    obtain ⟨before, rest, rfl, -, hrest⟩ := Outcome.mapM_eq_ok_append_iff.mp h
    cases rest with
    | nil =>
      rw [List.mapM_nil] at hrest
      cases hrest
    | cons e after =>
      obtain ⟨y, ys, he, hafter, hy⟩ := Outcome.mapM_cons_eq_ok_iff.mp hrest
      cases hy
      refine ⟨before, e, after, rfl, hread e _ he, he, fun e' he' hx => hout ?_⟩
      obtain ⟨y, hy, hey⟩ := Outcome.exists_mem_of_mapM (keyTexts_eq_ok hread hafter) e' he'
      cases hey.symm.trans hx
      exact hy
  · rintro ⟨before, e, after, rfl, -, he, hout⟩
    have hall := Outcome.exists_mapM_iff.mp ⟨es, h⟩
    obtain ⟨front, hfront⟩ := Outcome.exists_mapM_iff.mpr fun e' he' =>
      hall e' (List.mem_append_left _ he')
    obtain ⟨back, hback⟩ := Outcome.exists_mapM_iff.mpr fun e' he' =>
      hall e' (List.mem_append_right before (List.mem_cons_of_mem e he'))
    have hes : (before ++ e :: after).mapM read = .ok (front ++ (x, a) :: back) :=
      Outcome.mapM_eq_ok_append_iff.mpr ⟨before, e :: after, rfl, hfront,
        Outcome.mapM_cons_eq_ok_iff.mpr ⟨(x, a), back, he, hback, rfl⟩⟩
    cases h.symm.trans hes
    refine ⟨front, back, rfl, fun hx => ?_⟩
    obtain ⟨e', he', hx'⟩ := Outcome.exists_of_mem_mapM (keyTexts_eq_ok hread hback) x hx
    exact hout e' he' hx'

/-- A section keeps everything exactly when no two keys have one text. -/
theorem keepsAll_iff_nodup (hread : ∀ e y, read e = .ok y → e.1.shown = .ok y.1)
    (h : data.mapM read = .ok es) :
    KeepsAll read data (.ofList es) ↔ (es.map Prod.fst).Nodup := by
  have hlength : (es.map Prod.fst).length = data.length := by
    rw [List.length_map, Outcome.length_of_mapM h]
  rw [← TextSet.size_ofList_eq_length_iff, ← Listing.size_ofList, hlength]
  constructor
  · exact KeepsAll.size_eq
  · intro hsize
    refine ⟨hsize, fun e he => ?_⟩
    obtain ⟨⟨x, a⟩, hy, hey⟩ := Outcome.exists_mem_of_mapM h e he
    have hnodup : (es.map Prod.fst).Nodup := by
      rw [← TextSet.size_ofList_eq_length_iff, ← Listing.size_ofList, hlength, hsize]
    exact ⟨x, a, hread e _ hey, hey, Listing.get?_ofList_of_nodup hnodup hy⟩

/-- Different keys that are texts have different texts. -/
theorem nodup_keyTexts_of_texts : ∀ {data : List (Value × Value)} {texts : List String},
    keyTexts data = .ok texts → (∀ e ∈ data, ∃ s, e.1 = .text s) →
      data.Pairwise (fun e e' => e.1.same e'.1 = false) → texts.Nodup
  | [], texts, h, _, _ => by
    cases h
    exact List.nodup_nil
  | e :: data, texts, h, htext, hne => by
    obtain ⟨x, rest, hx, hrest, rfl⟩ := Outcome.mapM_cons_eq_ok_iff.mp h
    rw [List.pairwise_cons] at hne
    rw [List.nodup_cons]
    refine ⟨fun hmem => ?_, nodup_keyTexts_of_texts hrest
      (fun e' he' => htext e' (List.mem_cons_of_mem _ he')) hne.2⟩
    -- a later key with this text would be the same text
    obtain ⟨e', he', hx'⟩ := Outcome.exists_of_mem_mapM hrest x hmem
    obtain ⟨s, hs⟩ := htext e List.mem_cons_self
    obtain ⟨s', hs'⟩ := htext e' (List.mem_cons_of_mem _ he')
    have hdiff := hne.1 e' he'
    rw [hs] at hx hdiff
    rw [hs'] at hx' hdiff
    cases hx
    cases hx'
    simp [Value.same] at hdiff

/-- Of the entries of a section the last under each text is kept. -/
theorem keepsLast_of_mapM (hread : ∀ e y, read e = .ok y → e.1.shown = .ok y.1)
    (h : data.mapM read = .ok es) : KeepsLast read data (.ofList es) where
  last _ _ := get?_section_eq_some_iff hread h
  size_eq := ⟨es.map Prod.fst, keyTexts_eq_ok hread h, Listing.size_ofList es,
    keepsAll_iff_nodup hread h⟩
  all_of_texts htext hne :=
    (keepsAll_iff_nodup hread h).mpr (nodup_keyTexts_of_texts (keyTexts_eq_ok hread h) htext hne)

end

/-! ### The three sections -/

variable {workingFolder : List String} {folder : Path}

theorem shown_of_fixedEntry (e : Value × Value) (y : String × Path)
    (h : fixedEntry workingFolder folder e = .ok y) : e.1.shown = .ok y.1 := by
  obtain ⟨x, hx, h⟩ := Outcome.bind_eq_ok_iff.mp h
  obtain ⟨path, -, h⟩ := Outcome.bind_eq_ok_iff.mp h
  cases h
  exact hx

theorem shown_of_dynamicEntry {pool : Pool} (e : Value × Value) (y : String × TemplateEntry)
    (h : dynamicEntry workingFolder folder pool e = .ok y) : e.1.shown = .ok y.1 :=
  (exists_of_dynamicEntry h).1

theorem shown_of_textualEntry {pool : Pool} (e : Value × Value) (y : String × ColumnSpec)
    (h : textualEntry pool e = .ok y) : e.1.shown = .ok y.1 :=
  (textualEntry_eq_ok_iff.mp h).1

/-- The sections of the data that a manifest was read from, entry by entry. -/
theorem exists_sections_of_ofData {d : Data} {m : Manifest}
    (h : ofData workingFolder folder d = .ok m) :
    ∃ s fixed dynamic databases, sectionsOf d = .ok s ∧
      s.fixed.mapM (fixedEntry workingFolder folder) = .ok fixed ∧ m.fixed = .ofList fixed ∧
      s.dynamic.mapM (dynamicEntry workingFolder folder d.pool) = .ok dynamic ∧
      m.dynamic = .ofList dynamic ∧
      s.databases.mapM (textualEntry d.pool) = .ok databases ∧
      m.textualDatabases = .ofList databases := by
  obtain ⟨root, fixedData, fixed, dynamicData, dynamic, textual, databaseData, databases, hroot, -,
    hfixedData, hfixed, hdynamicData, hdynamic, htextual, -, hdatabaseData, hdatabases, hm, hm',
    hm''⟩ := exists_of_ofData h
  refine ⟨⟨fixedData, dynamicData, databaseData⟩, fixed, dynamic, databases, ?_, hfixed, hm,
    hdynamic, hm', hdatabases, hm''⟩
  exact Outcome.bind_eq_ok_iff.mpr ⟨root, hroot, Outcome.bind_eq_ok_iff.mpr ⟨_, hfixedData,
    Outcome.bind_eq_ok_iff.mpr ⟨_, hdynamicData, Outcome.bind_eq_ok_iff.mpr ⟨textual, htextual,
      Outcome.bind_eq_ok_iff.mpr ⟨_, hdatabaseData, rfl⟩⟩⟩⟩⟩

theorem mem_fixed_keys_iff {d : Data} {m : Manifest} (h : ofData workingFolder folder d = .ok m)
    {s : Sections} (hs : sectionsOf d = .ok s) {x : String} :
    x ∈ m.fixed.keys ↔ ∃ e ∈ s.fixed, e.1.shown = .ok x := by
  obtain ⟨s', fixed, -, -, hs', hfixed, hm, -⟩ := exists_sections_of_ofData h
  cases hs.symm.trans hs'
  rw [hm]
  exact mem_keys_section_iff shown_of_fixedEntry hfixed

theorem mem_textual_keys_iff {d : Data} {m : Manifest} (h : ofData workingFolder folder d = .ok m)
    {s : Sections} (hs : sectionsOf d = .ok s) {x : String} :
    x ∈ m.textualDatabases.keys ↔ ∃ e ∈ s.databases, e.1.shown = .ok x := by
  obtain ⟨s', -, -, databases, hs', -, -, -, -, hdatabases, hm⟩ := exists_sections_of_ofData h
  cases hs.symm.trans hs'
  rw [hm]
  exact mem_keys_section_iff shown_of_textualEntry hdatabases

/-- **What a manifest keeps.** In each section the last entry under each text is kept,
so a section keeps all its entries exactly when no two keys have one text; it does
where all keys are texts. -/
theorem keepsLast_of_ofData {d : Data} {m : Manifest} (h : ofData workingFolder folder d = .ok m) :
    ∃ s, sectionsOf d = .ok s ∧
      KeepsLast (fixedEntry workingFolder folder) s.fixed m.fixed ∧
      KeepsLast (dynamicEntry workingFolder folder d.pool) s.dynamic m.dynamic ∧
      KeepsLast (textualEntry d.pool) s.databases m.textualDatabases := by
  obtain ⟨s, fixed, dynamic, databases, hs, hfixed, hm, hdynamic, hm', hdatabases, hm''⟩ :=
    exists_sections_of_ofData h
  rw [hm, hm', hm'']
  exact ⟨s, hs, keepsLast_of_mapM shown_of_fixedEntry hfixed,
    keepsLast_of_mapM shown_of_dynamicEntry hdynamic,
    keepsLast_of_mapM shown_of_textualEntry hdatabases⟩

/-- Data that names two fixed databases, one by a number and one by its text. -/
def renumbered : Value :=
  .map [(.text "sentinel", .text "1"),
    (.text "fixed", .map [(.int 1, .text "x.sql"), (.text "1", .text "y.sql")])]

theorem read_renumbered : ∃ m, ofValue [] ⟨.top, ["r"]⟩ renumbered = .ok m ∧
    m.fixed.entries = [("1", ⟨.top, ["r", "y.sql"]⟩)] := by
  have hread : (ofValue [] ⟨.top, ["r"]⟩ renumbered).toOption.map (fun m => m.fixed.entries) =
      some [("1", ⟨.top, ["r", "y.sql"]⟩)] := by decide +kernel
  obtain ⟨m, hm, hentries⟩ := Option.map_eq_some_iff.mp hread
  exact ⟨m, Outcome.eq_ok_of_toOption hm, hentries⟩

/-- A manifest can be read whose sections keep the last entries. -/
theorem keepsLast_of_ofData_renumbered :
    ∃ m, ofData [] ⟨.top, ["r"]⟩ (.ofValue renumbered) = .ok m ∧
      m.fixed.entries = [("1", ⟨.top, ["r", "y.sql"]⟩)] ∧
      ∃ s, sectionsOf (.ofValue renumbered) = .ok s ∧
        KeepsLast (fixedEntry [] ⟨.top, ["r"]⟩) s.fixed m.fixed ∧
        KeepsLast (dynamicEntry [] ⟨.top, ["r"]⟩ []) s.dynamic m.dynamic ∧
        KeepsLast (textualEntry []) s.databases m.textualDatabases := by
  obtain ⟨m, hm, hentries⟩ := read_renumbered
  exact ⟨m, hm, hentries, keepsLast_of_ofData hm⟩

/-- Two keys that differ can have one text, and then an entry is lost. -/
theorem renumbered_loses_an_entry :
    ∃ m s, ofValue [] ⟨.top, ["r"]⟩ renumbered = .ok m ∧
      sectionsOf (.ofValue renumbered) = .ok s ∧
      s.fixed.Pairwise (fun e e' => e.1.same e'.1 = false) ∧
      s.fixed.length = 2 ∧ m.fixed.size = 1 ∧
      ¬ KeepsAll (fixedEntry [] ⟨.top, ["r"]⟩) s.fixed m.fixed := by
  obtain ⟨m, hm, hentries⟩ := read_renumbered
  have hsize : m.fixed.size = 1 := by
    rw [Listing.size, hentries]
    rfl
  refine ⟨m, ⟨[(.int 1, .text "x.sql"), (.text "1", .text "y.sql")], [], []⟩, hm, rfl, ?_, rfl,
    hsize, fun hall => ?_⟩
  · decide
  · have hlength := hall.size_eq
    rw [hsize] at hlength
    cases hlength

end SchemaDepot.Manifest
