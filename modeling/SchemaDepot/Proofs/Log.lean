/-
# What makes a line

A line is told by its message and by the texts its fields contribute. A field contributes
nothing exactly when its value has an empty text; every text that is contributed has a character,
the sign between name and value. So fields are seen in a line exactly when one of them
contributes, and a line of fields and more fields is the line of the first with the text of the
others behind it (`line_append`).

The members of a collection are put in order, and texts that count as in order both ways are the
same: only which members there are, and how often, is seen (`sortTexts_eq_of_perm`).

Key theorems: `Log.sortTexts_eq_of_perm`, `Log.fieldText?_eq_none_iff`,
`Log.fieldsText_eq_empty_iff`, `Log.line_append`.
-/
import Mathlib.Logic.Basic
import SchemaDepot.Log

namespace SchemaDepot.Log

/-! ### The text of a value -/

/-- Texts are put in the same order, however they come. -/
theorem sortTexts_eq_of_perm {xs ys : List String} (h : xs.Perm ys) :
    sortTexts xs = sortTexts ys := by
  have hsorted : ∀ zs, (sortTexts zs).Pairwise fun s t => Text.inOrder s t = true := fun zs =>
    List.pairwise_mergeSort Text.inOrder_trans Text.inOrder_total zs
  have hperm : (sortTexts xs).Perm (sortTexts ys) :=
    (List.mergeSort_perm xs _).trans (h.trans (List.mergeSort_perm ys _).symm)
  exact hperm.eq_of_pairwise (fun _ _ _ _ => Text.inOrder_antisymm) (hsorted xs) (hsorted ys)

theorem text_many_of_perm {xs ys : List String} (h : xs.Perm ys) :
    (FieldValue.many xs).text = (FieldValue.many ys).text := by
  show ",".intercalate (sortTexts xs) = ",".intercalate (sortTexts ys)
  rw [sortTexts_eq_of_perm h]

theorem text_many_of_pairwise {xs ys : List String} (h : xs.Perm ys)
    (hys : ys.Pairwise fun s t => Text.inOrder s t = true) :
    (FieldValue.many xs).text = ",".intercalate ys := by
  have hsorted : sortTexts xs = ys :=
    (sortTexts_eq_of_perm h).trans (List.mergeSort_of_pairwise hys)
  show ",".intercalate (sortTexts xs) = _
  rw [hsorted]

theorem text_many_nil : (FieldValue.many []).text = "" := by
  have hsorted : sortTexts [] = [] := List.mergeSort_nil
  show ",".intercalate (sortTexts []) = ""
  rw [hsorted, String.intercalate_nil]

theorem text_single_eq_empty_iff {s : String} :
    (FieldValue.single s).text = "" ↔ Text.isBlank s = true := by
  show String.ofList (Text.trimList s.toList) = "" ↔ _
  rw [String.ofList_eq_empty_iff, Text.trimList_eq_nil_iff]
  rfl

/-! ### The texts of fields -/

theorem fieldText?_eq_none_iff {f : Field} : fieldText? f = none ↔ f.2.text = "" := by
  unfold fieldText?
  by_cases h : f.2.text = ""
  · simp [h]
  · simp [h, String.isEmpty_iff]

theorem ne_empty_of_fieldText? {f : Field} {s : String} (h : fieldText? f = some s) : s ≠ "" := by
  unfold fieldText? at h
  split at h
  · cases h
  · rw [← Option.some.inj h]
    simp

/-- Texts in a row are empty exactly when there is none, if none of them is empty. -/
theorem intercalate_eq_empty_iff {texts : List String} (h : ∀ s ∈ texts, s ≠ "") :
    " ".intercalate texts = "" ↔ texts = [] := by
  cases texts with
  | nil => simp
  | cons s rest =>
    have hs : s ≠ "" := h s List.mem_cons_self
    by_cases hrest : rest = []
    · simp [hrest, hs]
    · rw [String.intercalate_cons_of_ne_nil hrest]
      simp

theorem fieldsText_eq_empty_iff {fields : List Field} :
    fieldsText fields = "" ↔ fields.filterMap fieldText? = [] := by
  refine intercalate_eq_empty_iff fun s hs => ?_
  obtain ⟨f, -, hf⟩ := List.mem_filterMap.mp hs
  exact ne_empty_of_fieldText? hf

theorem fieldsText_append_of_empty_left {fs gs : List Field} (h : fieldsText fs = "") :
    fieldsText (fs ++ gs) = fieldsText gs := by
  rw [fieldsText, List.filterMap_append, fieldsText_eq_empty_iff.mp h, List.nil_append, fieldsText]

theorem fieldsText_append_of_empty_right {fs gs : List Field} (h : fieldsText gs = "") :
    fieldsText (fs ++ gs) = fieldsText fs := by
  rw [fieldsText, List.filterMap_append, fieldsText_eq_empty_iff.mp h, List.append_nil, fieldsText]

theorem fieldsText_append_of_ne_empty {fs gs : List Field} (hf : fieldsText fs ≠ "")
    (hg : fieldsText gs ≠ "") :
    fieldsText (fs ++ gs) = fieldsText fs ++ " " ++ fieldsText gs := by
  rw [fieldsText, List.filterMap_append, String.intercalate_append_of_ne_nil
    (mt fieldsText_eq_empty_iff.mpr hf) (mt fieldsText_eq_empty_iff.mpr hg)]
  rfl

/-! ### Lines -/

theorem line_of_empty {message : String} {fields : List Field} (h : fieldsText fields = "") :
    line message fields = message := by
  rw [line, if_pos (String.isEmpty_iff.mpr h)]

theorem line_of_ne_empty {message : String} {fields : List Field} (h : fieldsText fields ≠ "") :
    line message fields = message ++ " " ++ fieldsText fields := by
  rw [line, if_neg (mt String.isEmpty_iff.mp h)]

/-- More fields come behind a line, with a space before them if they contribute. -/
theorem line_append (message : String) (fs gs : List Field) : line message (fs ++ gs) =
    if (fieldsText gs).isEmpty then line message fs
    else line message fs ++ " " ++ fieldsText gs := by
  by_cases hg : fieldsText gs = ""
  · rw [if_pos (String.isEmpty_iff.mpr hg), line, fieldsText_append_of_empty_right hg, line]
  · rw [if_neg (mt String.isEmpty_iff.mp hg)]
    by_cases hf : fieldsText fs = ""
    · have hall : fieldsText (fs ++ gs) = fieldsText gs := fieldsText_append_of_empty_left hf
      rw [line_of_empty hf, line_of_ne_empty (hall ▸ hg), hall]
    · have hall := fieldsText_append_of_ne_empty hf hg
      have hne : fieldsText (fs ++ gs) ≠ "" := by
        rw [hall]
        simp
      rw [line_of_ne_empty hf, line_of_ne_empty hne, hall]
      simp only [String.append_assoc]

end SchemaDepot.Log
