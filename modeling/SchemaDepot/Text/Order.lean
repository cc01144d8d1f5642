/-
# The order of texts

Texts are put in order by their code points: at the first place where two texts
differ the lower code point decides, and a text comes before those that go on
after it. A code point without a character counts by its own number here, not by
the number of the character that holds it.

Key definitions: `Text.codePoints`, `Text.Before`, `Text.inOrder`.
Key theorems: `Text.before_irrefl`, `Text.before_trans`,
`Text.eq_of_not_before`, `Text.inOrder_antisymm`.
-/
import SchemaDepot.Text.CodePoint

namespace SchemaDepot.Text

/-- The code points of a text. -/
def codePoints (s : String) : List Nat := s.toList.map codePoint

/-- The first text comes before the second. -/
def Before (s t : String) : Prop := codePoints s < codePoints t

instance (s t : String) : Decidable (Before s t) :=
  inferInstanceAs (Decidable (codePoints s < codePoints t))

/-- The second text does not come before the first. -/
def inOrder (s t : String) : Bool := !decide (Before t s)

theorem not_isSurrogate (c : Char) : isSurrogate c.toNat = false := by
  have hv : c.toNat < 0xD800 ∨ 0xDFFF < c.toNat ∧ c.toNat < 0x110000 := c.valid
  simp only [isSurrogate, Bool.and_eq_false_iff, decide_eq_false_iff_not]
  omega

theorem codePoint_inj {c d : Char} (h : codePoint c = codePoint d) : c = d := by
  have hn : c.toNat = d.toNat := by
    have hc := not_isSurrogate c
    have hd := not_isSurrogate d
    unfold codePoint heldApart at h
    simp only [isSurrogate, Bool.and_eq_true, Bool.and_eq_false_iff, decide_eq_true_eq,
      decide_eq_false_iff_not] at hc hd h
    split at h <;> split at h <;> omega
  exact Char.toNat_inj.mp hn

theorem codePoints_inj {s t : String} (h : codePoints s = codePoints t) : s = t :=
  String.toList_injective (List.map_inj_right (fun _ _ => codePoint_inj) |>.mp h)

theorem before_irrefl (s : String) : ¬ Before s s := List.lt_irrefl _

theorem before_trans {s t u : String} (h : Before s t) (h' : Before t u) : Before s u :=
  List.lt_trans h h'

theorem eq_of_not_before {s t : String} (h : ¬ Before s t) (h' : ¬ Before t s) : s = t :=
  codePoints_inj (List.le_antisymm h' h)

/-! ### Sorting -/

theorem inOrder_eq_true {s t : String} : inOrder s t = true ↔ ¬ Before t s := by
  simp [inOrder]

theorem inOrder_total (s t : String) : (inOrder s t || inOrder t s) = true := by
  rw [Bool.or_eq_true, inOrder_eq_true, inOrder_eq_true]
  by_cases h : Before t s
  · exact Or.inr fun h' => before_irrefl s (before_trans h' h)
  · exact Or.inl h

theorem inOrder_trans (s t u : String) (h : inOrder s t = true) (h' : inOrder t u = true) :
    inOrder s u = true := by
  rw [inOrder_eq_true] at *
  exact List.le_trans h h'

theorem inOrder_antisymm {s t : String} (h : inOrder s t = true) (h' : inOrder t s = true) :
    s = t := by
  rw [inOrder_eq_true] at h h'
  exact eq_of_not_before h' h

end SchemaDepot.Text
