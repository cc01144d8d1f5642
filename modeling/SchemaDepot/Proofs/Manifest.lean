/-
# What a manifest read from data is like

A manifest comes from data section by section, and each of its entries from one
entry of the data. So whatever the data, a dynamic scheme stands under its own name,
and the columns of a textual database have a trimmed type that is not blank and a
length of at least one.

Key definition: `Manifest.Regular`.
Key theorems: `Manifest.exists_of_ofData`, `Manifest.exists_dynamicEntry`,
`Manifest.exists_textualEntry`, `Manifest.regular_of_load`.
-/
import SchemaDepot.Manifest.Load
import SchemaDepot.Proofs.Listing
import SchemaDepot.Proofs.Outcome
import SchemaDepot.Proofs.Text.Trim

namespace SchemaDepot

/-- Every scheme is under its name, and the columns have a type and a length. -/
structure Manifest.Regular (m : Manifest) : Prop where
  names : ∀ e ∈ m.dynamic.entries, e.2.name = e.1
  columnType_trimmed : ∀ e ∈ m.textualDatabases.entries, Text.trim e.2.columnType = e.2.columnType
  columnType_not_blank : ∀ e ∈ m.textualDatabases.entries, Text.isBlank e.2.columnType = false
  columnLength_pos : ∀ e ∈ m.textualDatabases.entries, 1 ≤ e.2.columnLength

namespace Manifest

variable {workingFolder : List String} {folder : Path}

/-! ### The sections -/

/-- The sections of the data that a manifest was read from, and what was read from
each. -/
theorem exists_of_ofData {d : Data} {m : Manifest} (h : ofData workingFolder folder d = .ok m) :
    ∃ root fixedData fixed dynamicData dynamic textual databaseData databases,
      sectionEntries d.pool "<root>" d.root = .ok root ∧
      sentinelOf (Value.entry "sentinel" root) = .ok m.sentinel ∧
      sectionEntries d.pool "fixed" (Value.entry "fixed" root) = .ok fixedData ∧
      fixedData.mapM (fixedEntry workingFolder folder) = .ok fixed ∧
      sectionEntries d.pool "dynamic" (Value.entry "dynamic" root) = .ok dynamicData ∧
      dynamicData.mapM (dynamicEntry workingFolder folder d.pool) = .ok dynamic ∧
      sectionEntries d.pool "textual_columns" (Value.entry "textual_columns" root) = .ok textual ∧
      textualTemplateOf d.pool (Value.entry "template" textual) = .ok m.textualTemplate ∧
      sectionEntries d.pool "textual_columns.databases" (Value.entry "databases" textual) =
        .ok databaseData ∧
      databaseData.mapM (textualEntry d.pool) = .ok databases ∧
      m.fixed = .ofList fixed ∧ m.dynamic = .ofList dynamic ∧
      m.textualDatabases = .ofList databases := by
  obtain ⟨root, hroot, h⟩ := Outcome.bind_eq_ok_iff.mp h
  obtain ⟨sentinel, hsentinel, h⟩ := Outcome.bind_eq_ok_iff.mp h
  obtain ⟨fixedData, hfixedData, h⟩ := Outcome.bind_eq_ok_iff.mp h
  obtain ⟨fixed, hfixed, h⟩ := Outcome.bind_eq_ok_iff.mp h
  obtain ⟨dynamicData, hdynamicData, h⟩ := Outcome.bind_eq_ok_iff.mp h
  obtain ⟨dynamic, hdynamic, h⟩ := Outcome.bind_eq_ok_iff.mp h
  obtain ⟨textual, htextual, h⟩ := Outcome.bind_eq_ok_iff.mp h
  obtain ⟨template, htemplate, h⟩ := Outcome.bind_eq_ok_iff.mp h
  obtain ⟨databaseData, hdatabaseData, h⟩ := Outcome.bind_eq_ok_iff.mp h
  obtain ⟨databases, hdatabases, h⟩ := Outcome.bind_eq_ok_iff.mp h
  cases h
  exact ⟨root, fixedData, fixed, dynamicData, dynamic, textual, databaseData, databases, hroot,
    hsentinel, hfixedData, hfixed, hdynamicData, hdynamic, htextual, htemplate, hdatabaseData,
    hdatabases, rfl, rfl, rfl⟩

/-- An entry of a listing of read entries was read from an entry of the data. -/
theorem exists_of_mem_entries {α : Type} {read : Value × Value → Except Error (String × α)}
    {data : List (Value × Value)} {es : List (String × α)} (h : data.mapM read = .ok es)
    {e : String × α} (he : e ∈ (Listing.ofList es).entries) : ∃ x ∈ data, read x = .ok e :=
  Outcome.exists_of_mem_mapM h e (Listing.mem_of_get?_ofList (Listing.get?_eq_some_iff.mpr he))

theorem exists_dynamicEntry {d : Data} {m : Manifest} (h : ofData workingFolder folder d = .ok m)
    {e : String × TemplateEntry} (he : e ∈ m.dynamic.entries) :
    ∃ root dynamicData, sectionEntries d.pool "<root>" d.root = .ok root ∧
      sectionEntries d.pool "dynamic" (Value.entry "dynamic" root) = .ok dynamicData ∧
      ∃ x ∈ dynamicData, dynamicEntry workingFolder folder d.pool x = .ok e := by
  obtain ⟨root, -, -, dynamicData, dynamic, -, -, -, hroot, -, -, -, hdata, hread, -, -, -, -, -,
    hm, -⟩ := exists_of_ofData h
  rw [hm] at he
  exact ⟨root, dynamicData, hroot, hdata, exists_of_mem_entries hread he⟩

theorem exists_textualEntry {d : Data} {m : Manifest} (h : ofData workingFolder folder d = .ok m)
    {e : String × ColumnSpec} (he : e ∈ m.textualDatabases.entries) :
    ∃ x, textualEntry d.pool x = .ok e := by
  obtain ⟨-, -, -, -, -, -, databaseData, databases, -, -, -, -, -, -, -, -, -, hread, -, -, hm⟩ :=
    exists_of_ofData h
  rw [hm] at he
  obtain ⟨x, -, hx⟩ := exists_of_mem_entries hread he
  exact ⟨x, hx⟩

/-! ### The entries -/

theorem exists_of_fixedEntry {x : Value × Value} {e : String × Path}
    (h : fixedEntry workingFolder folder x = .ok e) :
    x.1.shown = .ok e.1 ∧ pathWithin workingFolder folder e.1 x.2 = .ok e.2 := by
  obtain ⟨identifier, hidentifier, h⟩ := Outcome.bind_eq_ok_iff.mp h
  obtain ⟨path, hpath, h⟩ := Outcome.bind_eq_ok_iff.mp h
  cases h
  exact ⟨hidentifier, hpath⟩

theorem exists_of_dynamicEntry {pool : Pool} {x : Value × Value} {e : String × TemplateEntry}
    (h : dynamicEntry workingFolder folder pool x = .ok e) :
    x.1.shown = .ok e.1 ∧ e.2.name = e.1 ∧
      ∃ conf, sectionEntries pool ("dynamic." ++ e.1) x.2 = .ok conf ∧
        pathWithin workingFolder folder e.1 (Value.entry "path" conf) = .ok e.2.path ∧
        tokensOf pool e.1 (Value.entry "tokens" conf) = .ok e.2.tokens := by
  obtain ⟨name, hname, h⟩ := Outcome.bind_eq_ok_iff.mp h
  obtain ⟨conf, hconf, h⟩ := Outcome.bind_eq_ok_iff.mp h
  obtain ⟨path, hpath, h⟩ := Outcome.bind_eq_ok_iff.mp h
  obtain ⟨tokens, htokens, h⟩ := Outcome.bind_eq_ok_iff.mp h
  cases h
  exact ⟨hname, rfl, conf, hconf, hpath, htokens⟩

theorem trimmed_of_columnTypeOf? {v : Value} {s : String} (h : columnTypeOf? v = some s) :
    Text.trim s = s ∧ Text.isBlank s = false := by
  unfold columnTypeOf? at h
  split at h
  · rename_i raw
    by_cases hb : Text.isBlank raw = true
    · rw [if_pos hb] at h
      cases h
    · rw [if_neg hb] at h
      cases h
      rw [Text.isBlank_trim]
      exact ⟨Text.trim_trim raw, by simpa using hb⟩
  · cases h

theorem isTidy_of_sentinelOf {v : Value} {s : String} (h : sentinelOf v = .ok s) :
    Text.IsTidy s := by
  unfold sentinelOf at h
  split at h
  · rename_i raw
    obtain ⟨hblank, h⟩ := Outcome.refuse_eq_ok_iff.mp h
    cases h
    exact Text.isTidy_trim (by simpa using hblank)
  · cases h

theorem nodup_of_tokensOf {pool : Pool} {owner : String} {v : Value} {tokens : List String}
    (h : tokensOf pool owner v = .ok tokens) : tokens.Nodup := by
  unfold tokensOf at h
  split at h
  · cases h
    exact List.nodup_nil
  · split at h
    · cases h
    · split at h
      · rename_i hnodup
        cases h
        exact hnodup
      · cases h
  · cases h

theorem pos_of_lengthOf? {v : Value} {n : Nat} (h : lengthOf? v = some n) : 1 ≤ n := by
  unfold lengthOf? at h
  split at h
  · split at h
    · cases h
      omega
    · cases h
  · cases h

theorem textualEntry_eq_ok_iff {pool : Pool} {x : Value × Value} {e : String × ColumnSpec} :
    textualEntry pool x = .ok e ↔ x.1.shown = .ok e.1 ∧
      ∃ conf, sectionEntries pool ("textual_columns.databases." ++ e.1) x.2 = .ok conf ∧
        columnTypeOf? (Value.entry "column_type" conf) = some e.2.columnType ∧
        lengthOf? (Value.entry "column_length" conf) = some e.2.columnLength := by
  constructor
  · intro h
    obtain ⟨identifier, hidentifier, h⟩ := Outcome.bind_eq_ok_iff.mp h
    obtain ⟨conf, hconf, h⟩ := Outcome.bind_eq_ok_iff.mp h
    split at h
    · cases h
    · rename_i columnType htype
      split at h
      · cases h
      · rename_i columnLength hlength
        cases h
        exact ⟨hidentifier, conf, hconf, htype, hlength⟩
  · intro ⟨hidentifier, conf, hconf, htype, hlength⟩
    rw [textualEntry, hidentifier, Outcome.ok_bind, hconf, Outcome.ok_bind]
    simp only [htype, hlength]

theorem columns_of_textualEntry {pool : Pool} {x : Value × Value} {e : String × ColumnSpec}
    (h : textualEntry pool x = .ok e) :
    Text.trim e.2.columnType = e.2.columnType ∧ Text.isBlank e.2.columnType = false ∧
      1 ≤ e.2.columnLength := by
  obtain ⟨-, conf, -, htype, hlength⟩ := textualEntry_eq_ok_iff.mp h
  obtain ⟨htrim, hblank⟩ := trimmed_of_columnTypeOf? htype
  exact ⟨htrim, hblank, pos_of_lengthOf? hlength⟩

/-! ### The whole manifest -/

theorem regular_of_ofData {d : Data} {m : Manifest} (h : ofData workingFolder folder d = .ok m) :
    m.Regular where
  names e he := by
    obtain ⟨-, -, -, -, x, -, hx⟩ := exists_dynamicEntry h he
    exact (exists_of_dynamicEntry hx).2.1
  columnType_trimmed e he := by
    obtain ⟨x, hx⟩ := exists_textualEntry h he
    exact (columns_of_textualEntry hx).1
  columnType_not_blank e he := by
    obtain ⟨x, hx⟩ := exists_textualEntry h he
    exact (columns_of_textualEntry hx).2.1
  columnLength_pos e he := by
    obtain ⟨x, hx⟩ := exists_textualEntry h he
    exact (columns_of_textualEntry hx).2.2

theorem isTidy_sentinel_of_ofData {d : Data} {m : Manifest}
    (h : ofData workingFolder folder d = .ok m) : Text.IsTidy m.sentinel := by
  obtain ⟨root, -, -, -, -, -, -, -, -, hsentinel, -⟩ := exists_of_ofData h
  exact isTidy_of_sentinelOf hsentinel

theorem trim_sentinel_of_ofData {d : Data} {m : Manifest}
    (h : ofData workingFolder folder d = .ok m) : Text.trim m.sentinel = m.sentinel :=
  (isTidy_sentinel_of_ofData h).2

theorem load_outcome (h : Host) (path : Path) : (load h path).outcome = read h path := by
  unfold load
  rw [Run.outcome_bind]
  change (read h path >>= fun m => Except.ok m) = _
  cases read h path <;> rfl

/-- A loaded manifest is the one of the data in its file. -/
theorem exists_of_load {h : Host} {path : Path} {m : Manifest}
    (hm : (load h path).outcome = .ok m) :
    ∃ text d, h.read path (.resource (.manifestAbsent path.text)) = .ok text ∧
      Yaml.read text = .ok d ∧ ofData h.workingFolder path.parent d = .ok m := by
  rw [load_outcome] at hm
  obtain ⟨text, htext, hm⟩ := Outcome.bind_eq_ok_iff.mp hm
  cases hd : Yaml.read text with
  | error fault =>
    rw [hd] at hm
    cases hm
  | ok d =>
    rw [hd] at hm
    exact ⟨text, d, htext, hd, hm⟩

theorem load_outcome_eq_error_iff {h : Host} {path : Path} {e : Error} :
    (load h path).outcome = .error e ↔ read h path = .error e := by
  rw [load_outcome]

/-- Every loaded manifest is regular. -/
theorem regular_of_load {h : Host} {path : Path} {m : Manifest}
    (hm : (load h path).outcome = .ok m) : m.Regular := by
  obtain ⟨_, _, -, -, hd⟩ := exists_of_load hm
  exact regular_of_ofData hd

end Manifest

end SchemaDepot
