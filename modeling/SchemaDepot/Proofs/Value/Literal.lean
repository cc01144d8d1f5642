/-
# What is shown of a value

Every literal has a character: a digit, a quote, a bracket or a letter at least. So what is
shown of a value is empty only if the value is the empty text, which does not count as true.

Key definitions: `Value.GivesText`.
Key theorems: `Binary64.text_ne_empty`, `Value.literalWith_givesText`, `Pool.shown_ne_empty`.
-/
import SchemaDepot.Pool
import SchemaDepot.Proofs.Outcome
import SchemaDepot.Proofs.Outcome.Ends

namespace SchemaDepot

open Outcome

theorem Decimal.write_ne_empty {n : Int} {s : String} (h : Decimal.write n = .ok s) : s ≠ "" := by
  have hchars : chars n ≠ [] := by
    intro hnil
    exact Nat.toDigits_ne_nil (List.append_eq_nil_iff.mp hnil).2
  unfold write at h
  split at h
  · rw [Except.ok.injEq] at h
    rw [← h, ne_eq, String.ofList_eq_empty_iff]
    exact hchars
  · cases h

namespace Binary64

/-- However the digits are laid out, a point or an exponent is there. -/
theorem layout_ne_nil (ds : List Char) (p : Int) : layout ds p ≠ [] := by
  unfold layout
  dsimp only
  split
  · split
    · simp
    · split
      · simp
      · simp
  · simp

theorem text_ne_empty (x : Binary64) : x.text ≠ "" := by
  cases x with
  | nan => decide
  | infinite s => cases s <;> decide
  | finite s m e =>
    rw [text, ne_eq, String.ofList_eq_empty_iff]
    have hbody : (if m = 0 then ['0', '.', '0']
        else layout (Decimal.digits (shortest m e).1) (shortest m e).2) ≠ [] := by
      by_cases hm : m = 0
      · simp [hm]
      · rw [if_neg hm]
        exact layout_ne_nil _ _
    by_cases hs : s = true
    · simp [hs]
    · rw [if_neg hs]
      exact hbody

end Binary64

theorem Text.append_ne_empty {s : String} (hs : s ≠ "") (t : String) : s ++ t ≠ "" := fun h =>
  hs (String.append_eq_empty_iff.mp h).1

theorem Text.enclosed_ne_empty {opening : String} (h : opening ≠ "") (inside closing : String) :
    opening ++ inside ++ closing ≠ "" :=
  append_ne_empty (append_ne_empty h inside) closing

theorem Text.quoted_ne_empty (s : String) : quoted s ≠ "" := by
  rw [quoted, ne_eq, String.ofList_eq_empty_iff]
  exact List.cons_ne_nil _ _

theorem Date.text_ne_empty (d : Date) : d.text ≠ "" := by
  intro h
  simp only [Date.text, String.append_eq_empty_iff] at h
  exact absurd h.1.1.1.2 (by decide)

theorem Moment.text_ne_empty (m : Moment) : m.text ≠ "" := by
  intro h
  simp only [Moment.text, String.append_eq_empty_iff] at h
  exact m.date.text_ne_empty h.1.1.1.1.1.1.1.1

namespace Value

variable {apart : Nat → Except Error String}

/-- The operation gives no empty text. -/
abbrev GivesText (x : Except Error String) : Prop := Ends (fun _ => True) (· ≠ "") x

theorem bytesLiteral_ne_empty (bs : List UInt8) : bytesLiteral bs ≠ "" := by
  rw [bytesLiteral, ne_eq, String.ofList_eq_empty_iff]
  exact List.cons_ne_nil _ _

/-- A literal is not empty if those of the collections kept apart are not. -/
theorem literalWith_givesText (h : ∀ n, GivesText (apart n)) (v : Value) :
    GivesText (literalWith apart v) := by
  -- what the items have for literals does not matter, there are brackets around them
  cases v with
  | null => exact .ok (by decide)
  | bool b => cases b <;> exact .ok (by decide)
  | text x => exact .ok (Text.quoted_ne_empty x)
  | bytes bs => exact .ok (bytesLiteral_ne_empty bs)
  | date d => exact .ok (Text.enclosed_ne_empty (by decide) _ _)
  | moment m => exact .ok (Text.enclosed_ne_empty (by decide) _ _)
  | int n => exact ⟨fun _ => trivial, Decimal.write_ne_empty⟩
  | float x => exact .ok x.text_ne_empty
  | list items => exact Ends.any.bind fun _ _ => .ok (Text.enclosed_ne_empty (by decide) _ _)
  | map entries => exact Ends.any.bind fun _ _ => .ok (Text.enclosed_ne_empty (by decide) _ _)
  | tuple items =>
    refine Ends.any.bind fun shown _ => ?_
    split
    · exact .ok (Text.enclosed_ne_empty (by decide) _ _)
    · exact .ok (Text.enclosed_ne_empty (by decide) _ _)
  | set items =>
    refine Ends.any.bind fun shown _ => .ite (fun _ => .ok ?_) fun _ => .ok ?_
    · decide
    · exact Text.enclosed_ne_empty (by decide) _ _
  | shared n => exact h n

theorem shownWith_givesText (h : ∀ n, GivesText (apart n)) {v : Value} (hempty : v ≠ .text "") :
    GivesText (shownWith apart v) := by
  unfold shownWith
  split
  · refine .ok ?_
    rintro rfl
    exact hempty rfl
  · exact .ok (Date.text_ne_empty _)
  · exact .ok (Moment.text_ne_empty _)
  · exact literalWith_givesText h v

end Value

namespace Pool

variable (pool : Pool)

theorem literalOf_givesText (depth : Nat) (inside : List Nat) (number : Nat) :
    Value.GivesText (pool.literalOf depth inside number) := by
  induction depth generalizing inside number with
  | zero => exact .error trivial
  | succ depth ih =>
    refine .ite (fun _ => .ok ?_) fun _ => Value.literalWith_givesText (ih _) _
    unfold ellipsis
    split
    · decide
    · decide

/-- The text of a value that counts as true is not empty. -/
theorem shown_ne_empty {v : Value} {s : String} (htrue : pool.isTruthy v = true)
    (h : pool.shown v = .ok s) : s ≠ "" := by
  refine (Value.shownWith_givesText (pool.literalOf_givesText _ _) ?_).ok_of h
  rintro rfl
  simp [isTruthy, resolve, Value.isTruthy] at htrue

end Pool

end SchemaDepot
