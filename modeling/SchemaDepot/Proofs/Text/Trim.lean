/-
# Trimmed texts

A trimmed text has no blank at either end, so trimming it again changes nothing. It
is blank only if the text it was made of is.

Key definition: `Text.IsTidy`.
Key theorems: `Text.trim_trim`, `Text.trimList_append_append`, `Text.trim_append_break_ne`,
`Text.isBlank_trim`.
-/
import Mathlib.Data.List.DropRight
import SchemaDepot.Text.Blank

namespace SchemaDepot.Text

theorem dropWhile_trimList (cs : List Char) :
    (trimList cs).dropWhile isBlankChar = trimList cs := by
  have hpre : trimList cs <+: cs.dropWhile isBlankChar := List.rdropWhile_prefix isBlankChar _
  cases h : trimList cs with
  | nil => rfl
  | cons c rest =>
    obtain ⟨r, hr⟩ := hpre
    have hc := List.head?_dropWhile_not isBlankChar cs
    rw [← hr, h] at hc
    exact List.dropWhile_cons_of_neg (by simpa using hc)

theorem trimList_trimList (cs : List Char) : trimList (trimList cs) = trimList cs := by
  rw [trimList, dropWhile_trimList]
  exact List.rdropWhile_idempotent isBlankChar (cs.dropWhile isBlankChar)

theorem trim_trim (s : String) : trim (trim s) = trim s := by
  rw [trim, trim, String.toList_ofList, trimList_trimList]

/-- Blanks around characters do not count when they are trimmed. -/
theorem trimList_append_append {front cs back : List Char}
    (hfront : ∀ c ∈ front, isBlankChar c = true) (hback : ∀ c ∈ back, isBlankChar c = true) :
    trimList (front ++ (cs ++ back)) = trimList cs := by
  unfold trimList
  rw [List.dropWhile_append_of_pos hfront, List.dropWhile_append]
  by_cases hnil : cs.dropWhile isBlankChar = []
  · have hall : back.dropWhile isBlankChar = [] := by
      rw [dropWhile_eq_nil_iff_all, List.all_eq_true]
      exact hback
    simp only [hnil, hall, List.isEmpty_nil, if_true]
  · have hsome : (cs.dropWhile isBlankChar).isEmpty = false := by
      rw [← Bool.not_eq_true, List.isEmpty_iff]
      exact hnil
    rw [hsome, if_neg Bool.false_ne_true, List.reverse_append,
      List.dropWhile_append_of_pos fun c hc => hback c (List.mem_reverse.mp hc)]

theorem trim_append_break_ne (s : String) : trim (s ++ "\n") ≠ s ++ "\n" := by
  intro h
  have hlist : trimList (s.toList ++ ['\n']) = s.toList ++ ['\n'] := by
    have htext := congrArg String.toList h
    rwa [trim, String.toList_ofList, String.toList_append] at htext
  have hne : trimList (s.toList ++ ['\n']) ≠ [] := by simp [hlist]
  have hlast : ¬ isBlankChar ((trimList (s.toList ++ ['\n'])).getLast hne) = true :=
    List.rdropWhile_last_not isBlankChar _ hne
  simp only [hlist, List.getLast_append_singleton] at hlast
  exact hlast (by decide)

theorem trim_of_forall_not_blank {s : String} (h : ∀ c ∈ s.toList, isBlankChar c = false) :
    trim s = s := by
  have hkept : ∀ {cs : List Char}, (∀ c ∈ cs, isBlankChar c = false) →
      cs.dropWhile isBlankChar = cs := by
    intro cs hcs
    cases cs with
    | nil => rfl
    | cons c cs => exact List.dropWhile_cons_of_neg (by simp [hcs c List.mem_cons_self])
  apply String.toList_injective
  rw [trim, String.toList_ofList, trimList, hkept h,
    hkept fun c hc => h c (List.mem_reverse.mp hc), List.reverse_reverse]

theorem isBlank_trim (s : String) : isBlank (trim s) = isBlank s := by
  rw [Bool.eq_iff_iff, isBlank, isBlank, ← trimList_eq_nil_iff, ← trimList_eq_nil_iff, trim,
    String.toList_ofList, trimList_trimList]

/-- The text is not blank and has no blank at either end. -/
def IsTidy (s : String) : Prop := isBlank s = false ∧ trim s = s

instance (s : String) : Decidable (IsTidy s) := inferInstanceAs (Decidable (_ ∧ _))

/-- What is left of a text that is not blank is tidy. -/
theorem isTidy_trim {s : String} (h : isBlank s = false) : IsTidy (trim s) :=
  ⟨(isBlank_trim s).trans h, trim_trim s⟩

theorem mem_of_mem_trim {s : String} {c : Char} (h : c ∈ (trim s).toList) : c ∈ s.toList := by
  rw [trim, String.toList_ofList] at h
  have hfront : c ∈ s.toList.dropWhile isBlankChar :=
    (List.rdropWhile_prefix isBlankChar _).subset h
  exact (List.dropWhile_suffix isBlankChar).subset hfront

end SchemaDepot.Text
