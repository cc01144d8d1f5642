/-
# Line endings as they are written

A line feed of a text may be written as itself, as a carriage return with a line feed after
it, or as a carriage return alone, and all three may be mixed (`Text.Writes`). Unifying line
endings undoes this and nothing else: what is left are the characters that were written so
(`Text.unifyLines_eq_iff`). A carriage return alone has no line feed after it, else the two
are one line ending.

Key definitions: `Text.Writes`, `Text.IsLineEnding`, `Text.endingLines`.
Key theorems: `Text.unifyLines_eq_iff`, `Text.decode_eq_some_iff`, `Text.decode_endingLines`.
-/
import SchemaDepot.Text.Lines

namespace SchemaDepot.Text

variable {raw cs : List Char} {mark : String}

/-- The first characters are the second with each line feed written in one of three ways. -/
inductive Writes : List Char → List Char → Prop
  | nil : Writes [] []
  | char {c : Char} {raw cs : List Char} (hreturn : c ≠ '\r') (hfeed : c ≠ '\n')
      (rest : Writes raw cs) : Writes (c :: raw) (c :: cs)
  | feed {raw cs : List Char} (rest : Writes raw cs) : Writes ('\n' :: raw) ('\n' :: cs)
  | returnFeed {raw cs : List Char} (rest : Writes raw cs) :
      Writes ('\r' :: '\n' :: raw) ('\n' :: cs)
  | lone {raw cs : List Char} (hnext : raw.head? ≠ some '\n') (rest : Writes raw cs) :
      Writes ('\r' :: raw) ('\n' :: cs)

theorem unifyLines_return (h : raw.head? ≠ some '\n') :
    unifyLines ('\r' :: raw) = '\n' :: unifyLines raw := by
  cases raw with
  | nil => rfl
  | cons c raw =>
    rw [unifyLines]
    intro cs hcs
    cases hcs
    exact h rfl

theorem unifyLines_char {c : Char} (h : c ≠ '\r') :
    unifyLines (c :: raw) = c :: unifyLines raw := by
  rw [unifyLines]
  · intro cs hc
    exact absurd hc h
  · exact h

/-- Whatever is written is written for the characters that unifying gives. -/
theorem writes_unifyLines (raw : List Char) : Writes raw (unifyLines raw) := by
  fun_induction unifyLines raw with
  | case1 => exact .nil
  | case2 raw ih => exact .returnFeed ih
  | case3 raw hnext ih =>
    refine .lone (fun h => ?_) ih
    obtain ⟨rest, rfl⟩ := List.head?_eq_some_iff.mp h
    exact hnext rest rfl
  | case4 c raw _ hreturn ih =>
    by_cases hfeed : c = '\n'
    · subst hfeed
      exact .feed ih
    · exact .char hreturn hfeed ih

theorem Writes.unifyLines_eq (h : Writes raw cs) : unifyLines raw = cs := by
  induction h with
  | nil => rfl
  | char hreturn _ _ ih => rw [unifyLines_char hreturn, ih]
  | feed _ ih => rw [unifyLines_char (by decide), ih]
  | returnFeed _ ih => rw [unifyLines, ih]
  | lone hnext _ ih => rw [unifyLines_return hnext, ih]

theorem unifyLines_eq_iff : unifyLines raw = cs ↔ Writes raw cs := by
  constructor
  · rintro rfl
    exact writes_unifyLines raw
  · exact Writes.unifyLines_eq

/-- What a text is decoded to is what its bytes, read as UTF-8, write. -/
theorem decode_eq_some_iff {bytes : ByteArray} {t : String} : decode bytes = some t ↔
    ∃ s, String.fromUTF8? bytes = some s ∧ Writes s.toList t.toList := by
  rw [decode, Option.map_eq_some_iff]
  refine exists_congr fun s => and_congr_right fun _ => ?_
  rw [← unifyLines_eq_iff]
  constructor
  · rintro rfl
    rw [String.toList_ofList]
  · intro h
    rw [h, String.ofList_toList]

/-! ### One kind of line ending throughout -/

/-- The line endings there are. -/
def lineEndings : List String := ["\n", "\r\n", "\r"]

/-- The text with each line feed written as a given mark. -/
def endingLines (mark t : String) : String :=
  String.ofList (t.toList.flatMap fun c => if c = '\n' then mark.toList else [c])

/-- Characters with one kind of line ending throughout write the characters with line feeds. -/
theorem writes_flatMap (hmark : mark ∈ lineEndings) (h : '\r' ∉ cs) :
    Writes (cs.flatMap fun c => if c = '\n' then mark.toList else [c]) cs := by
  induction cs with
  | nil => exact .nil
  | cons c cs ih =>
    rw [List.mem_cons, not_or] at h
    have hrest := ih h.2
    rw [List.flatMap_cons]
    by_cases hc : c = '\n'
    · subst hc
      rw [if_pos rfl]
      simp only [lineEndings, List.mem_cons, List.not_mem_nil, or_false] at hmark
      obtain rfl | rfl | rfl := hmark
      · exact .feed hrest
      · exact .returnFeed hrest
      · refine .lone (fun hhead => ?_) hrest
        -- no line feed is left where each was written as a carriage return
        have hmem := List.mem_of_mem_head? hhead
        obtain ⟨d, -, hd⟩ := List.mem_flatMap.mp hmem
        by_cases hdn : d = '\n'
        · rw [if_pos hdn] at hd
          revert hd
          decide
        · rw [if_neg hdn, List.mem_singleton] at hd
          exact hdn hd.symm
    · rw [if_neg hc]
      exact .char (Ne.symm h.1) hc hrest

/-- The text comes back from any kind of line ending. -/
theorem decode_endingLines {t : String} (hmark : mark ∈ lineEndings) (h : '\r' ∉ t.toList) :
    decode (endingLines mark t).toUTF8 = some t := by
  refine decode_eq_some_iff.mpr ⟨endingLines mark t, dif_pos (endingLines mark t).isValidUTF8, ?_⟩
  rw [endingLines, String.toList_ofList]
  exact writes_flatMap hmark h

end SchemaDepot.Text
