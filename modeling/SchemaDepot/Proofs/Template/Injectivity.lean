/-
# What a rendered text tells of its values

A token that is replaced at least once can be read back from the rendered text, once the values
of the other tokens are known: two fillings of one cut that agree on all other words are equal
only if they agree on this one (`Cut.Leftmost.value_eq_of_filled_eq`). The value may be put in
many times, with others in between, and two values need not have the same length. So the lengths
come first: each occurrence of the word adds the length of its value, and all else is the same
(`Cut.Leftmost.length_filled`). Values of the same length then stand at the same place.

Key definition: `Template.Cut.count`.
Key theorems: `Template.Cut.Leftmost.length_filled`,
`Template.Cut.Leftmost.value_eq_of_filled_eq`, `Template.render_eq_iff_value_eq`.
-/
import SchemaDepot.Proofs.Template.Refusal

namespace SchemaDepot.Template

open Text

namespace Cut

/-- How often the word is a token of the cut. -/
def count (u : List Char) : Cut → Nat
  | .rest _ => 0
  | .token _ w c => c.count u + if w = u then 1 else 0

theorem count_pos_of_hasAt {u : List Char} : ∀ {c : Cut} {n : Nat}, c.HasAt u n → 0 < c.count u
  | .token g w c, n, h => by
    rw [count]
    rcases h with ⟨-, rfl⟩ | ⟨-, h⟩
    · simp
    · have hafter := count_pos_of_hasAt h
      omega

section

variable {words : List (List Char)} {u : List Char} {f f' : List Char → List Char}
  (hagree : ∀ w ∈ words, w ≠ u → f w = f' w)
include hagree

/-- Fillings that agree but for one word differ in length as its values do, once for each time
the word is a token. -/
theorem Leftmost.length_filled : ∀ {c : Cut}, c.Leftmost words →
    (c.filled f).length + c.count u * (f' u).length =
      (c.filled f').length + c.count u * (f u).length
  | .rest g, _ => by simp [filled, count]
  | .token g w c, h => by
    have hafter := Leftmost.length_filled h.2.2
    simp only [filled, count, List.length_append]
    by_cases hw : w = u
    · subst hw
      simp only [if_true, Nat.add_mul, Nat.one_mul]
      omega
    · have hsame : (f w).length = (f' w).length := by rw [hagree w h.1 hw]
      simp only [hw, if_false, Nat.add_zero]
      omega

/-- Where the values of the word have the same length, equal fillings have them at the same
place. -/
theorem Leftmost.value_eq_of_length_eq (hlength : (f u).length = (f' u).length) :
    ∀ {c : Cut}, c.Leftmost words → 0 < c.count u → c.filled f = c.filled f' → f u = f' u
  | .rest g, _, hcount, _ => absurd hcount (Nat.lt_irrefl 0)
  | .token g w c, h, hcount, heq => by
    rw [filled, filled] at heq
    have htail : f w ++ c.filled f = f' w ++ c.filled f' := List.append_cancel_left heq
    have hlen : (f w).length = (f' w).length := by
      by_cases hw : w = u
      · rw [hw, hlength]
      · rw [hagree w h.1 hw]
    obtain ⟨hvalue, hafter⟩ := List.append_inj htail hlen
    by_cases hw : w = u
    · rwa [hw] at hvalue
    · have hcount' : 0 < c.count u := by
        simpa [count, hw] using hcount
      exact Leftmost.value_eq_of_length_eq hlength h.2.2 hcount' hafter

/-- Fillings that agree but for one word, which is a token of the cut, are equal only if they
agree on it. -/
theorem Leftmost.value_eq_of_filled_eq {c : Cut} (h : c.Leftmost words) {n : Nat}
    (hn : c.HasAt u n) (heq : c.filled f = c.filled f') : f u = f' u := by
  have hcount : 0 < c.count u := count_pos_of_hasAt hn
  have hlengths := h.length_filled hagree
  rw [heq] at hlengths
  have hmul : c.count u * (f u).length = c.count u * (f' u).length := by omega
  have hlength : (f u).length = (f' u).length := Nat.eq_of_mul_eq_mul_left hcount hmul
  exact h.value_eq_of_length_eq hagree hlength hcount heq

end

end Cut

variable {t : Template} {given given' : Substitutions} {strict strict' : Bool} {x r r' : String}

/-- Of two rendered texts whose values agree but for one token, which is replaced somewhere, the
values of this token are the same exactly when the texts are. -/
theorem render_eq_iff_value_eq {n : Nat} (hn : t.cut.HasAt x.toList n)
    (hr : t.outcome given strict = .ok r) (hr' : t.outcome given' strict' = .ok r')
    (hagree : ∀ y ∈ t.tokens, y ≠ x → given.get? y = given'.get? y) :
    r = r' ↔ given.get? x = given'.get? x := by
  obtain ⟨value, hvalue⟩ := exists_value_of_outcome hr
  obtain ⟨value', hvalue'⟩ := exists_value_of_outcome hr'
  obtain ⟨-, -, -, rfl⟩ := outcome_eq_ok_iff.mp hr
  obtain ⟨-, -, -, rfl⟩ := outcome_eq_ok_iff.mp hr'
  have hx : x ∈ t.tokens := by
    have hword := (t.isCut_cut.leftmost.standsAt hn).1
    exact toList_mem_wordsOf.mp hword
  constructor
  · intro hsame
    have hothers : ∀ w ∈ wordsOf t.tokens, w ≠ x.toList →
        (value (String.ofList w)).toList = (value' (String.ofList w)).toList := by
      intro w hw hne
      have hy : String.ofList w ∈ t.tokens := mem_wordsOf.mp hw
      have hget := hagree _ hy fun he => hne (by rw [← he, String.toList_ofList])
      rw [hvalue _ hy, hvalue' _ hy, Option.some.injEq, Value.text.injEq] at hget
      rw [hget]
    have hfilled : t.cut.filled (fun w => (value (String.ofList w)).toList) =
        t.cut.filled fun w => (value' (String.ofList w)).toList := by
      rw [← toList_filled hvalue, hsame, toList_filled hvalue']
    have heq := t.isCut_cut.leftmost.value_eq_of_filled_eq hothers hn hfilled
    rw [String.ofList_toList] at heq
    rw [hvalue x hx, hvalue' x hx, String.toList_injective heq]
  · intro hsame
    refine filled_congr fun y hy => ?_
    by_cases hyx : y = x
    · rw [hyx, hsame]
    · exact hagree y hy hyx

end SchemaDepot.Template
