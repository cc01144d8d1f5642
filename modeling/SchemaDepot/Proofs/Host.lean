/-
# How files fail to be read

A file is read unless there is none, or there is no text to be had from it: its name or its
path is too long, or its bytes are not in UTF-8. A schema must not be blank besides. A text
without carriage returns is read as it was written.

Key definition: `Host.Unreadable`.
Key theorems: `Text.decode_toUTF8`, `Host.read_eq_error_iff`, `Host.readSchema_eq_error_iff`.
-/
import SchemaDepot.Host
import SchemaDepot.Proofs.Error
import SchemaDepot.Proofs.Outcome
import SchemaDepot.Proofs.Tree

namespace SchemaDepot

open Outcome

namespace Text

theorem unifyLines_eq {cs : List Char} (h : '\r' ∉ cs) : unifyLines cs = cs := by
  fun_induction unifyLines cs with
  | case1 => rfl
  | case2 cs ih => simp at h
  | case3 cs _ ih => simp at h
  | case4 c cs _ hc ih => rw [ih fun hmem => h (List.mem_cons_of_mem _ hmem)]

theorem decode_toUTF8_eq (s : String) :
    decode s.toUTF8 = some (String.ofList (unifyLines s.toList)) := by
  have hbytes : String.fromUTF8? s.toUTF8 = some s := dif_pos s.isValidUTF8
  rw [decode, hbytes, Option.map_some]

theorem decode_toUTF8 {s : String} (h : '\r' ∉ s.toList) : decode s.toUTF8 = some s := by
  rw [decode_toUTF8_eq, unifyLines_eq h, String.ofList_toList]

/-- Line endings are blank, whatever kind they are of. -/
theorem all_isBlankChar_unifyLines (cs : List Char) :
    (unifyLines cs).all isBlankChar = cs.all isBlankChar := by
  have hbreaks : isBlankChar '\r' = true ∧ isBlankChar '\n' = true := by decide
  fun_induction unifyLines cs with
  | case1 => rfl
  | case2 cs ih => simp [ih, hbreaks]
  | case3 cs _ ih => simp [ih, hbreaks]
  | case4 c cs _ _ ih => simp [ih]

end Text

namespace Host

variable {h : Host} {p : Path} {s : String} {e : Error}

/-- There is no text to be had from the file at the path: looking it up is refused, or its
bytes are not in UTF-8. -/
inductive Unreadable (h : Host) (p : Path) : Error → Prop
  | nameTooLong (hfind : h.tree.find h.workingFolder p = .error .nameTooLong) :
      Unreadable h p .nameTooLong
  | notUtf8 {bytes : ByteArray} (hfind : h.tree.find h.workingFolder p = .ok (some bytes))
      (hbytes : Text.decode bytes = none) : Unreadable h p .notUtf8

theorem Unreadable.isForeign (hp : h.Unreadable p e) : e.isForeign = true := by
  cases hp with
  | nameTooLong => rfl
  | notUtf8 => rfl

theorem read_eq_error_iff {absent : Error} : h.read p absent = .error e ↔
    h.Unreadable p e ∨ h.tree.find h.workingFolder p = .ok none ∧ absent = e := by
  constructor
  · intro hread
    obtain hfind | ⟨bytes?, hfind, hread⟩ := bind_eq_error_iff.mp hread
    · cases Tree.eq_nameTooLong_of_find hfind
      exact Or.inl (.nameTooLong hfind)
    · cases bytes? with
      | none => exact Or.inr ⟨hfind, Except.error.inj hread⟩
      | some bytes =>
        cases hbytes : Text.decode bytes with
        | none =>
          simp only [hbytes] at hread
          cases hread
          exact Or.inl (.notUtf8 hfind hbytes)
        | some s =>
          simp only [hbytes] at hread
          cases hread
  · rintro (hp | ⟨hfind, rfl⟩)
    · cases hp with
      | nameTooLong hfind => exact bind_eq_error_iff.mpr (Or.inl hfind)
      | notUtf8 hfind hbytes =>
        rw [read, hfind, ok_bind]
        simp only [hbytes]
    · rw [read, hfind, ok_bind]

theorem read_of_find {absent : Error}
    (hfind : h.tree.find h.workingFolder p = .ok (some s.toUTF8)) (hs : '\r' ∉ s.toList) :
    h.read p absent = .ok s := by
  rw [read, hfind, ok_bind]
  simp only [Text.decode_toUTF8 hs]

theorem readSchema_of_find (hfind : h.tree.find h.workingFolder p = .ok (some s.toUTF8))
    (hreturn : '\r' ∉ s.toList) (hs : Text.isBlank s = false) : h.readSchema p = .ok s := by
  rw [readSchema, read_of_find hfind hreturn, Outcome.ok_bind, if_neg (by simp [hs])]

theorem exists_readSchema_of_find (hfind : h.tree.find h.workingFolder p = .ok (some s.toUTF8))
    (hs : Text.isBlank s = false) : ∃ s', h.readSchema p = .ok s' := by
  have hblank : Text.isBlank (String.ofList (Text.unifyLines s.toList)) = false := by
    rw [Text.isBlank, String.toList_ofList, Text.all_isBlankChar_unifyLines]
    exact hs
  refine ⟨String.ofList (Text.unifyLines s.toList), ?_⟩
  rw [readSchema, read, hfind, Outcome.ok_bind]
  simp only [Text.decode_toUTF8_eq]
  rw [Outcome.ok_bind, if_neg (by simp [hblank])]

/-- A schema that is not missing or blank fails to be read only as its file is. -/
theorem readSchema_eq_error_iff (he : ¬ e.isResource) :
    h.readSchema p = .error e ↔ h.Unreadable p e := by
  constructor
  · intro hread
    obtain hread | ⟨s, -, hread⟩ := bind_eq_error_iff.mp hread
    · exact (read_eq_error_iff.mp hread).resolve_right fun hnone => Error.resource_ne he _ hnone.2
    · obtain ⟨-, hblank⟩ | ⟨-, hread⟩ := refuse_eq_error_iff.mp hread
      · exact absurd hblank (Error.resource_ne he _)
      · cases hread
  · exact fun hp => bind_eq_error_iff.mpr (Or.inl (read_eq_error_iff.mpr (Or.inl hp)))

theorem not_isDefinition_of_readSchema (hread : h.readSchema p = .error e) : ¬ e.isDefinition := by
  by_cases hr : e.isResource
  · exact Error.not_isDefinition_of_isResource hr
  · have hforeign := ((readSchema_eq_error_iff hr).mp hread).isForeign
    exact (Error.of_isDepotError_eq_false (Error.isDepotError_of_isForeign hforeign)).2

end Host

end SchemaDepot
