/-
# Schemas as they are read

The schema in a file is the text that its bytes write, with whatever line endings, if they are
UTF-8 and the text is not blank. So a text without carriage returns is read from a file that
holds it with any one kind of line ending, and what was read can be written back in the place of
the file and is read again.

Key definition: `Host.overwrite`.
Key theorems: `Host.readSchema_eq_ok_iff`, `Host.readSchema_blank`,
`Host.readSchema_overwrite`, `Host.schema_read_as_written`.
-/
import SchemaDepot.Proofs.Host
import SchemaDepot.Proofs.Text.Lines

namespace SchemaDepot.Host

open Text

variable {h : Host} {p : Path} {bytes : ByteArray} {t : String}

/-- The surroundings with other bytes in the place that a path leads to. -/
def overwrite (h : Host) (p : Path) (bytes : ByteArray) : Host :=
  { h with tree := h.tree.write (Tree.target h.workingFolder p) bytes }

section

variable (hfind : h.tree.find h.workingFolder p = .ok (some bytes))
include hfind

theorem read_eq_ok_iff {absent : Error} : h.read p absent = .ok t ↔ decode bytes = some t := by
  rw [read, hfind, Outcome.ok_bind]
  cases hdecoded : decode bytes with
  | none => simp [hdecoded]
  | some s => simp [hdecoded]

/-- A schema is read exactly of the bytes that write it, unless it is blank. -/
theorem readSchema_eq_ok_iff : h.readSchema p = .ok t ↔
    isBlank t = false ∧ ∃ s, String.fromUTF8? bytes = some s ∧ Writes s.toList t.toList := by
  rw [← decode_eq_some_iff, readSchema, Outcome.bind_eq_ok_iff]
  simp only [Outcome.refuse_eq_ok_iff, Except.ok.injEq, read_eq_ok_iff hfind, Bool.not_eq_true]
  constructor
  · rintro ⟨s, hs, hblank, rfl⟩
    exact ⟨hblank, hs⟩
  · rintro ⟨hblank, ht⟩
    exact ⟨t, ht, hblank, rfl⟩

/-- A file of blanks alone is refused as empty. -/
theorem readSchema_blank {s : String} (hs : String.fromUTF8? bytes = some s)
    (hblank : isBlank s = true) :
    h.readSchema p = .error (.resource (.schemaFileEmpty p.text)) := by
  have hread : h.read p (.resource (.schemaFileAbsent p.text)) =
      .ok (String.ofList (unifyLines s.toList)) :=
    (read_eq_ok_iff hfind).mpr (by rw [decode, hs, Option.map_some])
  have hstill : isBlank (String.ofList (unifyLines s.toList)) = true := by
    rw [isBlank, String.toList_ofList, all_isBlankChar_unifyLines]
    exact hblank
  rw [readSchema, hread, Outcome.ok_bind, if_pos hstill]

theorem not_mem_of_readSchema (ht : h.readSchema p = .ok t) : '\r' ∉ t.toList := by
  obtain ⟨-, s, -, hwrites⟩ := (readSchema_eq_ok_iff hfind).mp ht
  rw [← hwrites.unifyLines_eq]
  exact not_mem_unifyLines _

/-- A schema that was read and is written back is read again. -/
theorem readSchema_overwrite (ht : h.readSchema p = .ok t) :
    (h.overwrite p t.toUTF8).readSchema p = .ok t :=
  readSchema_of_find (Tree.find_write hfind) (not_mem_of_readSchema hfind ht)
    ((readSchema_eq_ok_iff hfind).mp ht).1

end

/-- **A schema is read as it was written.** Where a file holds a text without carriage returns
that is not blank, with any one kind of line ending, the text is read. Whatever is read has no
carriage return, is not blank, and is read again once it is written back. Bytes that are
decoded to blanks alone are refused as an empty file. -/
theorem schema_read_as_written
    (hfind : h.tree.find h.workingFolder p = .ok (some bytes)) :
    (∀ t, '\r' ∉ t.toList → isBlank t = false →
      bytes = t.toUTF8 ∨ bytes = (endingLines "\r\n" t).toUTF8 ∨
        bytes = (endingLines "\r" t).toUTF8 → h.readSchema p = .ok t) ∧
    (∀ t, h.readSchema p = .ok t → '\r' ∉ t.toList ∧ isBlank t = false ∧
      (h.overwrite p t.toUTF8).readSchema p = .ok t) ∧
    ∀ s, String.fromUTF8? bytes = some s → isBlank s = true →
      h.readSchema p = .error (.resource (.schemaFileEmpty p.text)) := by
  refine ⟨fun t hreturn hblank hbytes => ?_, fun t ht => ?_,
    fun s hs hblank => readSchema_blank hfind hs hblank⟩
  · have hdecoded : decode bytes = some t := by
      obtain rfl | rfl | rfl := hbytes
      · exact decode_toUTF8 hreturn
      · exact decode_endingLines (by decide) hreturn
      · exact decode_endingLines (by decide) hreturn
    exact (readSchema_eq_ok_iff hfind).mpr ⟨hblank, decode_eq_some_iff.mp hdecoded⟩
  · exact ⟨not_mem_of_readSchema hfind ht, ((readSchema_eq_ok_iff hfind).mp ht).1,
      readSchema_overwrite hfind ht⟩

/-- A folder with a file of two lines, the first of which ends with a carriage return and a line
feed. -/
def returnHost : Host where
  tree := Tree.empty.write ["r", "f"] "A;\r\nB;\r\n".toUTF8
  workingFolder := []
  home := ⟨.top, []⟩
  bundled := ⟨.top, ["r"]⟩
  environment := []

/-- The lines of that file are read with line feeds, and so they are when they are written back
or when they end with carriage returns alone. -/
theorem schema_read_as_written_return :
    returnHost.readSchema ⟨.top, ["r", "f"]⟩ = .ok "A;\nB;\n" ∧
    (returnHost.overwrite ⟨.top, ["r", "f"]⟩ "A;\nB;\n".toUTF8).readSchema ⟨.top, ["r", "f"]⟩ =
      .ok "A;\nB;\n" ∧
    (returnHost.overwrite ⟨.top, ["r", "f"]⟩ "A;\rB;\r".toUTF8).readSchema ⟨.top, ["r", "f"]⟩ =
      .ok "A;\nB;\n" ∧
    (returnHost.overwrite ⟨.top, ["r", "f"]⟩ "\r\n\t".toUTF8).readSchema ⟨.top, ["r", "f"]⟩ =
      .error (.resource (.schemaFileEmpty "/r/f")) := by
  have hopen : Tree.IsOpen ["r", "f"] := by decide
  have hfind : returnHost.tree.find returnHost.workingFolder ⟨.top, ["r", "f"]⟩ =
      .ok (some "A;\r\nB;\r\n".toUTF8) := (Tree.holds_write _ _ _).find hopen
  have hread : returnHost.readSchema ⟨.top, ["r", "f"]⟩ = .ok "A;\nB;\n" :=
    (schema_read_as_written hfind).1 _ (by decide) (by decide) (Or.inr (Or.inl (by decide)))
  have hlone := schema_read_as_written (h := returnHost.overwrite _ "A;\rB;\r".toUTF8)
    (Tree.find_write hfind)
  have hblank := schema_read_as_written (h := returnHost.overwrite _ "\r\n\t".toUTF8)
    (Tree.find_write hfind)
  refine ⟨hread, ((schema_read_as_written hfind).2.1 _ hread).2.2, ?_, ?_⟩
  · exact hlone.1 _ (by decide) (by decide) (Or.inr (Or.inr (by decide)))
  · exact hblank.2.2 "\r\n\t" (dif_pos (String.isValidUTF8 _)) (by decide)

end SchemaDepot.Host
