/-
# Writing a manifest out

A manifest can be written out as data: its names are the keys, and each path is the text of the
absolute path. What is read from that is the manifest again exactly when nothing is lost on the
way: each part must be one that reading leaves as it is (`Manifest.ofValue_written_eq_ok_iff`).
For the paths this says that they are read back, and that they lead below the folder.

So a well-formed manifest is read back if no path in it ends in a blank. What was read from data
is well formed, since nothing that reading does to a part (to trim it, to fill in a default, to
resolve it) changes anything when it is done again. A path of it can end in a blank all the same:
the text it was given by was trimmed, but the blank may have had a slash or dots behind it.

Key definitions: `Manifest.written`, `Manifest.IsWellFormed`.
Key theorems: `Manifest.ofValue_written_eq_ok_iff`, `Manifest.pathWithin_text_self_iff`,
`Manifest.isWellFormed_of_ofData`, `Manifest.reads_back`.
-/
import SchemaDepot.Proofs.Manifest.Containment
import SchemaDepot.Proofs.Manifest.Entries
import SchemaDepot.Proofs.Path.Text
import SchemaDepot.Proofs.Value.Literal

namespace SchemaDepot.Manifest

open Outcome SchemaDepot.Path Text

/-! ### Writing -/

/-- A fixed database written out. -/
def writtenFixed (e : String × Path) : Value × Value := (.text e.1, .text e.2.text)

/-- A dynamic scheme written out. -/
def writtenDynamic (e : String × TemplateEntry) : Value × Value :=
  (.text e.1, .map [(.text "path", .text e.2.path.text),
    (.text "tokens", .list (e.2.tokens.map .text))])

/-- A textual database written out. -/
def writtenTextual (e : String × ColumnSpec) : Value × Value :=
  (.text e.1, .map [(.text "column_type", .text e.2.columnType),
    (.text "column_length", .int e.2.columnLength)])

/-- The manifest written out as data. -/
def written (m : Manifest) : Value :=
  .map [(.text "sentinel", .text m.sentinel),
    (.text "fixed", .map (m.fixed.entries.map writtenFixed)),
    (.text "dynamic", .map (m.dynamic.entries.map writtenDynamic)),
    (.text "textual_columns", .map [(.text "template", .text m.textualTemplate),
      (.text "databases", .map (m.textualDatabases.entries.map writtenTextual))])]

/-- The manifest is one whose paths lie below a folder, and whose parts are as reading leaves
them. -/
structure IsWellFormed (workingFolder : List String) (folder : Path) (m : Manifest) : Prop where
  sentinel_tidy : IsTidy m.sentinel
  path_normal : ∀ p ∈ m.paths, p.IsNormal
  path_below : ∀ p ∈ m.paths, ∃ root, folder.resolve workingFolder = .ok root ∧
    p.isBelow root = true
  /-- A dynamic scheme stands under its own name. -/
  names : ∀ e ∈ m.dynamic.entries, e.2.name = e.1
  tokens_distinct : ∀ e ∈ m.dynamic.entries, e.2.tokens.Nodup
  columnType_tidy : ∀ e ∈ m.textualDatabases.entries, IsTidy e.2.columnType
  columnLength_pos : ∀ e ∈ m.textualDatabases.entries, 1 ≤ e.2.columnLength
  template_ne_empty : m.textualTemplate ≠ ""

variable {workingFolder : List String} {folder : Path} {m : Manifest}

/-! ### What is read from it -/

theorem ofValue_written (m : Manifest) : ofValue workingFolder folder m.written = (do
    let sentinel ← sentinelOf (.text m.sentinel)
    let fixed ← (m.fixed.entries.map writtenFixed).mapM (fixedEntry workingFolder folder)
    let dynamic ← (m.dynamic.entries.map writtenDynamic).mapM (dynamicEntry workingFolder folder [])
    let template ← textualTemplateOf [] (.text m.textualTemplate)
    let databases ← (m.textualDatabases.entries.map writtenTextual).mapM (textualEntry [])
    .ok ⟨sentinel, .ofList fixed, .ofList dynamic, template, .ofList databases⟩) := rfl

/-- Entries that are written and read under the same names make up the listing again exactly when
each is read back. -/
theorem ofList_read_eq_iff {α : Type} (write : String × α → Value × Value)
    (read : Value × Value → Except Error (String × α)) (hwrite : ∀ e, (write e).1 = .text e.1)
    (hread : ∀ e y, read e = .ok y → e.1.shown = .ok y.1) (l : Listing α) :
    (∃ es, (l.entries.map write).mapM read = .ok es ∧ Listing.ofList es = l) ↔
      ∀ e ∈ l.entries, read (write e) = .ok e := by
  constructor
  · rintro ⟨es, hes, hl⟩ e he
    have hmem : e ∈ (Listing.ofList es).entries := by rwa [hl]
    obtain ⟨x, hx, hxe⟩ := exists_of_mem_entries hes hmem
    obtain ⟨e', he', rfl⟩ := List.mem_map.mp hx
    have hname : e'.1 = e.1 := by
      have hshown := hread _ _ hxe
      rw [hwrite] at hshown
      exact Except.ok.inj hshown
    -- the names are distinct, so it is the entry itself that was written
    have hget : l.get? e'.1 = some e'.2 := Listing.get?_eq_some_iff.mpr he'
    rw [hname, Listing.get?_eq_some_iff.mpr he, Option.some.injEq] at hget
    have hsame : e' = e := Prod.ext hname hget.symm
    rwa [hsame] at hxe
  · intro h
    exact ⟨l.entries, mapM_map_eq_ok h, l.ofList_entries⟩

theorem sentinelOf_text_iff {s : String} : sentinelOf (.text s) = .ok s ↔ IsTidy s := by
  rw [sentinelOf, refuse_eq_ok_iff, Bool.not_eq_true, Except.ok.injEq, IsTidy]

theorem textualTemplateOf_text_iff {s : String} :
    textualTemplateOf [] (.text s) = .ok s ↔ s ≠ "" := by
  by_cases hs : s = ""
  · subst hs
    simp [textualTemplateOf, Pool.isTruthy, Pool.resolve, Value.isTruthy, defaultTextualTemplate]
  · have htrue : Pool.isTruthy [] (.text s) = true := by
      simp [Pool.isTruthy, Pool.resolve, Value.isTruthy, hs]
    rw [textualTemplateOf, if_pos htrue]
    simp [hs, Pool.shown_of_text]

theorem fixedEntry_written_iff {e : String × Path} :
    fixedEntry workingFolder folder (writtenFixed e) = .ok e ↔
      pathWithin workingFolder folder e.1 (.text e.2.text) = .ok e.2 := by
  change (pathWithin workingFolder folder e.1 (.text e.2.text) >>= fun path => .ok (e.1, path)) =
    .ok e ↔ _
  rw [bind_eq_ok_iff]
  constructor
  · rintro ⟨path, hpath, he⟩
    have hsame : path = e.2 := congrArg Prod.snd (Except.ok.inj he)
    rwa [hsame] at hpath
  · exact fun h => ⟨e.2, h, rfl⟩

theorem tokensOf_texts {owner : String} {tokens : List String} :
    tokensOf [] owner (.list (tokens.map .text)) =
      if tokens.Nodup then .ok tokens else .error (.resource (.tokensRepeated owner)) := by
  have htexts : (tokens.map Value.text).mapM textOf? = some tokens := by
    induction tokens with
    | nil => rfl
    | cons t tokens ih => simp [ih, textOf?]
  rw [tokensOf]
  simp only [Pool.resolve, htexts]

theorem dynamicEntry_written_iff {e : String × TemplateEntry} :
    dynamicEntry workingFolder folder [] (writtenDynamic e) = .ok e ↔
      e.2.name = e.1 ∧ pathWithin workingFolder folder e.1 (.text e.2.path.text) = .ok e.2.path ∧
        e.2.tokens.Nodup := by
  have hread : dynamicEntry workingFolder folder [] (writtenDynamic e) = (do
      let path ← pathWithin workingFolder folder e.1 (.text e.2.path.text)
      let tokens ← tokensOf [] e.1 (.list (e.2.tokens.map .text))
      .ok (e.1, ⟨e.1, path, tokens⟩)) := rfl
  rw [hread, bind_eq_ok_iff]
  constructor
  · rintro ⟨path, hpath, h⟩
    obtain ⟨tokens, htokens, h⟩ := bind_eq_ok_iff.mp h
    have hentry : (⟨e.1, path, tokens⟩ : TemplateEntry) = e.2 :=
      congrArg Prod.snd (Except.ok.inj h)
    have hnodup : tokens.Nodup := nodup_of_tokensOf htokens
    have hname : e.2.name = e.1 := by rw [← hentry]
    have hsame : path = e.2.path := by rw [← hentry]
    have htokens' : tokens = e.2.tokens := by rw [← hentry]
    exact ⟨hname, by rwa [hsame] at hpath, by rwa [htokens'] at hnodup⟩
  · rintro ⟨hname, hpath, hnodup⟩
    have hentry : (⟨e.1, e.2.path, e.2.tokens⟩ : TemplateEntry) = e.2 := by rw [← hname]
    refine ⟨e.2.path, hpath, ?_⟩
    rw [tokensOf_texts, if_pos hnodup, ok_bind, hentry]

theorem columnTypeOf?_text_iff {s : String} : columnTypeOf? (.text s) = some s ↔ IsTidy s := by
  unfold columnTypeOf? IsTidy
  by_cases hblank : isBlank s = true
  · simp [hblank]
  · simp [hblank]

theorem lengthOf?_int_iff {n : Nat} : lengthOf? (.int n) = some n ↔ 1 ≤ n := by
  unfold lengthOf?
  by_cases hpos : 0 < n
  · simp [hpos]
    omega
  · simp [hpos]
    omega

theorem textualEntry_written_iff {e : String × ColumnSpec} :
    textualEntry [] (writtenTextual e) = .ok e ↔ IsTidy e.2.columnType ∧ 1 ≤ e.2.columnLength := by
  rw [← columnTypeOf?_text_iff, ← lengthOf?_int_iff, textualEntry_eq_ok_iff]
  constructor
  · intro ⟨_, conf, hconf, hcolumns⟩
    rw [← Except.ok.inj hconf] at hcolumns
    exact hcolumns
  · exact fun hcolumns => ⟨rfl, _, rfl, hcolumns⟩

/-- **What is read from what is written.** -/
theorem ofValue_written_eq_ok_iff : ofValue workingFolder folder m.written = .ok m ↔
    IsTidy m.sentinel ∧
      (∀ e ∈ m.fixed.entries,
        pathWithin workingFolder folder e.1 (.text e.2.text) = .ok e.2) ∧
      (∀ e ∈ m.dynamic.entries, e.2.name = e.1 ∧
        pathWithin workingFolder folder e.1 (.text e.2.path.text) = .ok e.2.path ∧
        e.2.tokens.Nodup) ∧
      m.textualTemplate ≠ "" ∧
      ∀ e ∈ m.textualDatabases.entries, IsTidy e.2.columnType ∧ 1 ≤ e.2.columnLength := by
  have hfixed := ofList_read_eq_iff writtenFixed (fixedEntry workingFolder folder) (fun _ => rfl)
    shown_of_fixedEntry m.fixed
  have hdynamic := ofList_read_eq_iff writtenDynamic (dynamicEntry workingFolder folder [])
    (fun _ => rfl) shown_of_dynamicEntry m.dynamic
  have htextual := ofList_read_eq_iff writtenTextual (textualEntry []) (fun _ => rfl)
    shown_of_textualEntry m.textualDatabases
  simp only [fixedEntry_written_iff] at hfixed
  simp only [dynamicEntry_written_iff] at hdynamic
  simp only [textualEntry_written_iff] at htextual
  rw [ofValue_written, ← sentinelOf_text_iff, ← hfixed, ← hdynamic, ← textualTemplateOf_text_iff,
    ← htextual]
  constructor
  · intro h
    obtain ⟨sentinel, hsentinel, h⟩ := bind_eq_ok_iff.mp h
    obtain ⟨fixed, hfixed, h⟩ := bind_eq_ok_iff.mp h
    obtain ⟨dynamic, hdynamic, h⟩ := bind_eq_ok_iff.mp h
    obtain ⟨template, htemplate, h⟩ := bind_eq_ok_iff.mp h
    obtain ⟨databases, hdatabases, h⟩ := bind_eq_ok_iff.mp h
    rw [Except.ok.injEq] at h
    subst h
    exact ⟨hsentinel, ⟨fixed, hfixed, rfl⟩, ⟨dynamic, hdynamic, rfl⟩, htemplate,
      ⟨databases, hdatabases, rfl⟩⟩
  · rintro ⟨hsentinel, ⟨fixed, hfixed, hfixedList⟩, ⟨dynamic, hdynamic, hdynamicList⟩, htemplate,
      ⟨databases, hdatabases, hdatabasesList⟩⟩
    rw [hsentinel, hfixed, hdynamic, htemplate, hdatabases]
    simp only [ok_bind, hfixedList, hdynamicList, hdatabasesList]

/-! ### Paths below the folder -/

/-- The text of a normal path below the folder is read back to the path unless it ends in a
blank. -/
theorem pathWithin_text_self_iff {p root : Path} (hp : p.IsNormal)
    (hroot : folder.resolve workingFolder = .ok root) (hbelow : p.isBelow root = true)
    (owner : String) :
    pathWithin workingFolder folder owner (.text p.text) = .ok p ↔ ¬ p.EndsBlank := by
  constructor
  · intro h
    obtain ⟨raw, hraw, -, -, hleads, -⟩ := exists_of_pathWithin h
    rw [Value.text.injEq] at hraw
    subst hraw
    -- the trimmed text begins with a slash, so its names are followed from the top
    have hplace := leads_iff.mp hleads
    rw [settle, absoluteParts_join, if_pos (head?_trim_text hp.anchor_top), List.nil_append,
      parts_ofText] at hplace
    exact not_endsBlank_of_follow hp hplace
  · intro h
    have hjoin : root.join p = p := by
      rw [join, hp.anchor_top]
    rw [pathWithin, isBlank_text hp.anchor_top, trim_text_of_not_endsBlank hp.anchor_top h,
      hp.ofText_text, hroot, ok_bind, hjoin, hp.resolve_eq, ok_bind]
    simp only [Bool.false_eq_true, if_false, hbelow, if_true]

theorem forall_mem_paths {P : Path → Prop} : (∀ p ∈ m.paths, P p) ↔
    (∀ e ∈ m.fixed.entries, P e.2) ∧ ∀ e ∈ m.dynamic.entries, P e.2.path := by
  simp only [paths, Listing.values, List.map_map, List.forall_mem_append, List.forall_mem_map,
    Function.comp_apply]

theorem IsWellFormed.ofValue_written_iff (h : m.IsWellFormed workingFolder folder) :
    ofValue workingFolder folder m.written = .ok m ↔ ∀ p ∈ m.paths, ¬ p.EndsBlank := by
  have hpath : ∀ p ∈ m.paths, ∀ owner,
      pathWithin workingFolder folder owner (.text p.text) = .ok p ↔ ¬ p.EndsBlank := by
    intro p hp owner
    obtain ⟨root, hroot, hbelow⟩ := h.path_below p hp
    exact pathWithin_text_self_iff (h.path_normal p hp) hroot hbelow owner
  obtain ⟨hfixed, hdynamic⟩ := forall_mem_paths.mp hpath
  rw [ofValue_written_eq_ok_iff, forall_mem_paths]
  constructor
  · rintro ⟨-, hfixedRead, hdynamicRead, -⟩
    refine ⟨fun e he => (hfixed e he e.1).mp (hfixedRead e he), fun e he => ?_⟩
    obtain ⟨-, hread, -⟩ := hdynamicRead e he
    exact (hdynamic e he e.1).mp hread
  · rintro ⟨hfixedEnd, hdynamicEnd⟩
    have hfixedRead := fun e he => (hfixed e he e.1).mpr (hfixedEnd e he)
    have hdynamicRead := fun e he => (hdynamic e he e.1).mpr (hdynamicEnd e he)
    exact ⟨h.sentinel_tidy, hfixedRead,
      fun e he => ⟨h.names e he, hdynamicRead e he, h.tokens_distinct e he⟩,
      h.template_ne_empty, fun e he => ⟨h.columnType_tidy e he, h.columnLength_pos e he⟩⟩

/-! ### Manifests read from data -/

theorem isNormal_of_pathWithin (hfolder : ∀ c ∈ folder.absoluteParts workingFolder, IsPart c)
    {owner : String} {v : Value} {p : Path}
    (h : pathWithin workingFolder folder owner v = .ok p) : p.IsNormal := by
  obtain ⟨raw, root, -, -, hroot, hp, -⟩ := exists_resolved_of_pathWithin h
  obtain ⟨-, htop, hplace⟩ := resolve_eq_ok_iff.mp hroot
  have hrootParts : ∀ c ∈ root.absoluteParts workingFolder, IsPart c := by
    intro c hc
    rw [absoluteParts, htop] at hc
    rw [hplace] at hc
    rcases mem_of_mem_follow hc with hc | hc
    · cases hc
    · exact hfolder c hc
  refine isNormal_of_resolve (fun c hc => ?_) hp
  rw [absoluteParts_join] at hc
  rcases List.mem_append.mp hc with hc | hc
  · split at hc
    · cases hc
    · exact hrootParts c hc
  · exact isPart_of_mem_names (spells_iff.mpr rfl) hc

theorem ne_empty_of_textualTemplateOf {pool : Pool} {v : Value} {s : String}
    (h : textualTemplateOf pool v = .ok s) : s ≠ "" := by
  unfold textualTemplateOf at h
  by_cases htrue : pool.isTruthy v = true
  · rw [if_pos htrue] at h
    exact pool.shown_ne_empty htrue h
  · rw [if_neg htrue, Except.ok.injEq] at h
    rw [← h]
    decide

/-- Whatever the data, a manifest read from it is well formed. -/
theorem isWellFormed_of_ofData (hfolder : ∀ c ∈ folder.absoluteParts workingFolder, IsPart c)
    {d : Data} (h : ofData workingFolder folder d = .ok m) :
    m.IsWellFormed workingFolder folder where
  sentinel_tidy := isTidy_sentinel_of_ofData h
  path_normal p hp := by
    obtain ⟨owner, v, hread⟩ := exists_pathWithin_of_mem_paths h hp
    exact isNormal_of_pathWithin hfolder hread
  path_below p hp := by
    obtain ⟨owner, v, hread⟩ := exists_pathWithin_of_mem_paths h hp
    obtain ⟨-, root, -, -, hroot, -, hbelow⟩ := exists_resolved_of_pathWithin hread
    exact ⟨root, hroot, hbelow⟩
  names := (regular_of_ofData h).names
  tokens_distinct e he := by
    obtain ⟨-, -, -, -, x, -, hx⟩ := exists_dynamicEntry h he
    obtain ⟨-, -, conf, -, -, htokens⟩ := exists_of_dynamicEntry hx
    exact nodup_of_tokensOf htokens
  columnType_tidy e he :=
    ⟨(regular_of_ofData h).columnType_not_blank e he,
      (regular_of_ofData h).columnType_trimmed e he⟩
  columnLength_pos := (regular_of_ofData h).columnLength_pos
  template_ne_empty := by
    obtain ⟨-, -, -, -, -, textual, -, -, -, -, -, -, -, -, -, htemplate, -⟩ := exists_of_ofData h
    exact ne_empty_of_textualTemplateOf htemplate

/-- **Manifests are read back.** A manifest that is well formed for a folder and has no path that
ends in a blank is what is read from it when it is written out. What was read from data, with a
folder whose components text can name, is well formed. So it is read back from what is written of
it, exactly if none of its paths ends in a blank. -/
theorem reads_back (workingFolder : List String) (folder : Path) :
    (∀ m : Manifest, m.IsWellFormed workingFolder folder → (∀ p ∈ m.paths, ¬ p.EndsBlank) →
      ofValue workingFolder folder m.written = .ok m) ∧
    ((∀ c ∈ folder.absoluteParts workingFolder, IsPart c) →
      ∀ d m, ofData workingFolder folder d = .ok m → m.IsWellFormed workingFolder folder ∧
        (ofValue workingFolder folder m.written = .ok m ↔ ∀ p ∈ m.paths, ¬ p.EndsBlank)) := by
  refine ⟨fun m hm hends => hm.ofValue_written_iff.mpr hends, fun hfolder d m hm => ?_⟩
  have hwellFormed := isWellFormed_of_ofData hfolder hm
  exact ⟨hwellFormed, hwellFormed.ofValue_written_iff⟩

/-- The blank before a slash at the end of a path ends the path that is written out, and is
trimmed when that is read. -/
example :
    let read := fun v => (ofValue [] ⟨.top, ["r"]⟩ v).toOption
    let m? := read (.map [(.text "sentinel", .text "base"),
      (.text "fixed", .map [(.text "a", .text "x /")])])
    m?.map paths = some [⟨.top, ["r", "x "]⟩] ∧
      (m?.bind fun m => read m.written).map paths = some [⟨.top, ["r", "x"]⟩] := by
  decide +kernel

/-- Data that says in a roundabout way, or leaves out, what a manifest has. -/
def roundabout : Value :=
  .map [(.text "sentinel", .text " base\n"),
    (.text "fixed", .map [(.int 7, .text " ./a//x.sql")]),
    (.text "dynamic", .map [(.text "t", .map [(.text "path", .text "../r/b/../t.sql"),
      (.text "tokens", .null)])]),
    (.text "textual_columns", .map [(.text "template", .text ""),
      (.text "databases", .map [(.text "u", .map [(.text "column_type", .text " text "),
        (.text "column_length", .int 4)])])])]

/-- The manifest of that data has all of it, and is read back. -/
theorem reads_back_roundabout : ∃ m, ofValue [] ⟨.top, ["r"]⟩ roundabout = .ok m ∧
    m.sentinel = "base" ∧ m.paths = [⟨.top, ["r", "a", "x.sql"]⟩, ⟨.top, ["r", "t.sql"]⟩] ∧
    m.textualTemplate = "textual_columns" ∧ m.textualDatabases.entries = [("u", ⟨"text", 4⟩)] ∧
    m.IsWellFormed [] ⟨.top, ["r"]⟩ ∧ ofValue [] ⟨.top, ["r"]⟩ m.written = .ok m := by
  have hread : (ofValue [] ⟨.top, ["r"]⟩ roundabout).toOption.map (fun m =>
        (m.sentinel, m.paths, m.textualTemplate, m.textualDatabases.entries)) =
      some ("base", [⟨.top, ["r", "a", "x.sql"]⟩, ⟨.top, ["r", "t.sql"]⟩], "textual_columns",
        [("u", ⟨"text", 4⟩)]) := by decide +kernel
  obtain ⟨m, hm, hparts⟩ := Option.map_eq_some_iff.mp hread
  simp only [Prod.mk.injEq] at hparts
  obtain ⟨hsentinel, hpaths, htemplate, hdatabases⟩ := hparts
  have hm := eq_ok_of_toOption hm
  have hfolder : ∀ c ∈ (⟨.top, ["r"]⟩ : Path).absoluteParts [], IsPart c := by decide
  have hends : ∀ p ∈ m.paths, ¬ p.EndsBlank := by
    rw [hpaths]
    decide
  obtain ⟨hround, hfromData⟩ := reads_back [] ⟨.top, ["r"]⟩
  have hwellFormed := (hfromData hfolder _ m hm).1
  exact ⟨m, hm, hsentinel, hpaths, htemplate, hdatabases, hwellFormed, hround m hwellFormed hends⟩

end SchemaDepot.Manifest
