/-
# Words standing in a text

A word stands at a position when the text goes on with it there. Words are
looked for that are `Separate`: none is empty, and none is a part of another. So
at most one of them stands at a position. Yet two of them can stand across each
other: the first ends with what the second begins with.

A text is `Unambiguous` when no two words in it share a character. It is so
exactly when no two words stand in it run together (`unambiguous_iff_not_fused`),
and words of which none ends as one begins leave no text ambiguous
(`OverlapFree.unambiguous`).

Key definitions: `Text.StandsAt`, `Text.Separate`, `Text.OverlapFree`,
`Text.Unambiguous`, `Text.Fused`.
Key theorems: `Text.across_of_stand`, `Text.unambiguous_iff_not_fused`,
`Text.overlapFree_iff_drop`, `Text.OverlapFree.unambiguous`.
-/
import SchemaDepot.Text.Occurs

namespace SchemaDepot.Text

/-- The word stands in the characters after the first `n`. -/
def StandsAt (cs w : List Char) (n : Nat) : Prop := w <+: cs.drop n

instance (cs w : List Char) (n : Nat) : Decidable (StandsAt cs w n) :=
  inferInstanceAs (Decidable (w <+: cs.drop n))

/-- None of the words is empty, and none is a part of another. -/
structure Separate (words : List (List Char)) : Prop where
  ne_nil : ∀ w ∈ words, w ≠ []
  eq_of_infix : ∀ w ∈ words, ∀ u ∈ words, w <:+: u → w = u

/-- No word ends as a word begins: what ends a word and is neither empty nor the
whole word begins none, the same one included. -/
def OverlapFree (words : List (List Char)) : Prop :=
  ∀ w ∈ words, ∀ u ∈ words, ∀ s, s <:+ w → s ≠ [] → s ≠ w → ¬ s <+: u

/-- Words that stand in the characters and share one of them are the same word at
the same position. -/
def Unambiguous (words : List (List Char)) (cs : List Char) : Prop :=
  ∀ w ∈ words, ∀ u ∈ words, ∀ n m, StandsAt cs w n → StandsAt cs u m →
    n < m + u.length → m < n + w.length → n = m ∧ w = u

/-- Two words stand in the characters run together: the first ends in the middle
of the second. -/
def Fused (words : List (List Char)) (cs : List Char) : Prop :=
  ∃ a s b, a ++ s ∈ words ∧ s ++ b ∈ words ∧ a ≠ [] ∧ s ≠ [] ∧ (a ++ s ++ b) <:+: cs

theorem Separate.congr {words words' : List (List Char)} (hs : Separate words)
    (h : ∀ w, w ∈ words' ↔ w ∈ words) : Separate words' where
  ne_nil w hw := hs.ne_nil w ((h w).mp hw)
  eq_of_infix w hw u hu := hs.eq_of_infix w ((h w).mp hw) u ((h u).mp hu)

/-! ### Positions -/

theorem StandsAt.isInfix {cs w : List Char} {n : Nat} (h : StandsAt cs w n) : w <:+: cs :=
  (List.IsPrefix.isInfix h).trans (List.drop_suffix n cs).isInfix

theorem infix_iff_standsAt {cs w : List Char} : w <:+: cs ↔ ∃ n, StandsAt cs w n := by
  constructor
  · rintro ⟨p, q, rfl⟩
    refine ⟨p.length, q, ?_⟩
    rw [List.append_assoc, List.drop_left]
  · rintro ⟨n, h⟩
    exact h.isInfix

/-- Behind the first part of an appended text, positions are those of the second. -/
theorem standsAt_append_right {a b w : List Char} {n : Nat} (h : a.length ≤ n) :
    StandsAt (a ++ b) w n ↔ StandsAt b w (n - a.length) := by
  unfold StandsAt
  rw [List.drop_append, List.drop_eq_nil_of_le h, List.nil_append]

/-- Before the second part of an appended text, what stands there begins in the first. -/
theorem standsAt_append_left {a b w : List Char} {n : Nat} (h : n ≤ a.length) :
    StandsAt (a ++ b) w n ↔ w <+: a.drop n ++ b := by
  unfold StandsAt
  rw [List.drop_append_of_le_length h]

/-- A word that ends before the second part of an appended text stands in the first. -/
theorem standsAt_of_append {a b w : List Char} {n : Nat} (h : StandsAt (a ++ b) w n)
    (hle : n + w.length ≤ a.length) : StandsAt a w n := by
  rw [standsAt_append_left (by omega)] at h
  exact List.prefix_of_prefix_length_le h (List.prefix_append _ _) (by rw [List.length_drop]; omega)

theorem infix_of_standsAt_append {a b w : List Char} {n : Nat} (h : StandsAt (a ++ b) w n)
    (hle : n + w.length ≤ a.length) : w <:+: a :=
  (standsAt_of_append h hle).isInfix

theorem StandsAt.le_length {cs w : List Char} {n : Nat} (h : StandsAt cs w n) (hw : w ≠ []) :
    n + w.length ≤ cs.length := by
  have hle := List.IsPrefix.length_le h
  have hpos := List.length_pos_iff.mpr hw
  rw [List.length_drop] at hle
  omega

theorem StandsAt.exists_mem {cs w : List Char} {n i : Nat} (h : StandsAt cs w n) (hn : n ≤ i)
    (hi : i < n + w.length) : ∃ x ∈ w, cs[i]? = some x := by
  obtain ⟨rest, hrest⟩ := h
  obtain ⟨k, rfl⟩ : ∃ k, i = n + k := ⟨i - n, by omega⟩
  have hk : k < w.length := by omega
  refine ⟨w[k], List.getElem_mem hk, ?_⟩
  rw [← List.getElem?_drop, ← hrest, List.getElem?_append_left hk, List.getElem?_eq_getElem hk]

/-- What stands within something that stands in the characters stands in it. -/
theorem StandsAt.of_within {cs p w : List Char} {n i : Nat} (hp : StandsAt cs p i)
    (hw : StandsAt cs w n) (hn : i ≤ n) (hle : n + w.length ≤ i + p.length) :
    StandsAt p w (n - i) := by
  obtain ⟨rest, hrest⟩ := hp
  obtain ⟨k, rfl⟩ : ∃ k, n = i + k := ⟨n - i, by omega⟩
  rw [Nat.add_sub_cancel_left]
  have hk : StandsAt (p ++ rest) w k := by
    unfold StandsAt
    rw [hrest, List.drop_drop]
    exact hw
  exact standsAt_of_append hk (by omega)

/-- What stands at two positions and covers the same place has a character in common. -/
theorem StandsAt.exists_mem_both {cs p w : List Char} {n i k : Nat} (hp : StandsAt cs p i)
    (hw : StandsAt cs w n) (hi : i ≤ k ∧ k < i + p.length) (hn : n ≤ k ∧ k < n + w.length) :
    ∃ x ∈ p, x ∈ w := by
  obtain ⟨x, hx, hxk⟩ := hp.exists_mem hi.1 hi.2
  obtain ⟨y, hy, hyk⟩ := hw.exists_mem hn.1 hn.2
  rw [hxk] at hyk
  cases hyk
  exact ⟨x, hx, hy⟩

/-- Of separate words at most one stands at a position. -/
theorem Separate.eq_of_prefix {words : List (List Char)} (hs : Separate words) {w u cs : List Char}
    (hw : w ∈ words) (hu : u ∈ words) (h : w <+: cs) (h' : u <+: cs) : w = u := by
  rcases List.prefix_or_prefix_of_prefix h h' with hp | hp
  · exact hs.eq_of_infix w hw u hu hp.isInfix
  · exact (hs.eq_of_infix u hu w hw hp.isInfix).symm

/-! ### Words across each other -/

/-- Two words that share a character are the same, or the first ends in the middle
of the second. -/
theorem across_of_stand {words : List (List Char)} (hs : Separate words) {cs w u : List Char}
    {n m : Nat} (hw : w ∈ words) (hu : u ∈ words) (h : StandsAt cs w n) (h' : StandsAt cs u m)
    (hnm : n ≤ m) (hm : m < n + w.length) :
    (n = m ∧ w = u) ∨
      ∃ a s b, a ≠ [] ∧ s ≠ [] ∧ w = a ++ s ∧ u = s ++ b ∧ (a ++ s ++ b) <:+: cs := by
  obtain ⟨k, rfl⟩ : ∃ k, m = n + k := ⟨m - n, by omega⟩
  have hk : k < w.length := by omega
  obtain ⟨q, hq⟩ := h
  have hdrop : cs.drop (n + k) = w.drop k ++ q := by
    rw [← List.drop_drop, ← hq, List.drop_append_of_le_length (Nat.le_of_lt hk)]
  unfold StandsAt at h'
  rw [hdrop] at h'
  rcases List.prefix_or_prefix_of_prefix h' (List.prefix_append (w.drop k) q) with hp | hp
  · -- the second word ends within the first, so it is the first
    have huw : u = w := hs.eq_of_infix u hu w hw (hp.isInfix.trans (List.drop_suffix k w).isInfix)
    have hlen : u.length ≤ (w.drop k).length := hp.length_le
    rw [List.length_drop, huw] at hlen
    exact Or.inl ⟨by omega, huw.symm⟩
  · obtain ⟨b, hb⟩ := hp
    rcases Nat.eq_zero_or_pos k with rfl | hpos
    · rw [List.drop_zero] at hb
      exact Or.inl ⟨rfl, hs.eq_of_infix w hw u hu ⟨[], b, hb⟩⟩
    · right
      refine ⟨w.take k, w.drop k, b, ?_, ?_, (List.take_append_drop k w).symm, hb.symm, ?_⟩
      · intro h0
        have hlen := congrArg List.length h0
        rw [List.length_take, List.length_nil] at hlen
        omega
      · intro h0
        have hlen := congrArg List.length h0
        rw [List.length_drop, List.length_nil] at hlen
        omega
      · obtain ⟨r, hr⟩ := h'
        have hcs : cs.drop n = w.take k ++ w.drop k ++ b ++ r := by
          rw [← hq, List.append_assoc, List.append_assoc, ← List.append_assoc (w.drop k), hb, hr,
            ← List.append_assoc, List.take_append_drop]
        exact List.IsInfix.trans ⟨[], r, by rw [List.nil_append, hcs]⟩ (List.drop_suffix n cs).isInfix

/-- A text is unambiguous exactly when no two words stand in it run together. -/
theorem unambiguous_iff_not_fused {words : List (List Char)} (hs : Separate words)
    {cs : List Char} : Unambiguous words cs ↔ ¬ Fused words cs := by
  constructor
  · rintro h ⟨a, s, b, hw, hu, ha, hb, p, q, rfl⟩
    have h1 : StandsAt (p ++ (a ++ s ++ b) ++ q) (a ++ s) p.length :=
      ⟨b ++ q, by simp [List.append_assoc]⟩
    have h2 : StandsAt (p ++ (a ++ s ++ b) ++ q) (s ++ b) (p.length + a.length) :=
      ⟨q, by simp [List.append_assoc]⟩
    have hlen := List.length_pos_iff.mpr ha
    have hlen' := List.length_pos_iff.mpr hb
    have heq := (h _ hw _ hu _ _ h1 h2 (by omega) (by rw [List.length_append]; omega)).1
    omega
  · intro hf w hw u hu n m hn hm hlt hlt'
    rcases Nat.le_total n m with hle | hle
    · rcases across_of_stand hs hw hu hn hm hle hlt' with heq | ⟨a, s, b, ha, hb, rfl, rfl, hin⟩
      · exact heq
      · exact absurd ⟨a, s, b, hw, hu, ha, hb, hin⟩ hf
    · rcases across_of_stand hs hu hw hm hn hle hlt with heq | ⟨a, s, b, ha, hb, rfl, rfl, hin⟩
      · exact ⟨heq.1.symm, heq.2.symm⟩
      · exact absurd ⟨a, s, b, hu, hw, ha, hb, hin⟩ hf

theorem overlapFree_iff {words : List (List Char)} : OverlapFree words ↔
    ∀ a s b, a ++ s ∈ words → s ++ b ∈ words → a ≠ [] → s = [] := by
  constructor
  · intro ho a s b hw hu ha
    by_cases hs : s = []
    · exact hs
    · refine absurd (List.prefix_append s b) (ho _ hw _ hu s (List.suffix_append a s) hs ?_)
      intro h
      exact ha (List.self_eq_append_left.mp h)
  · rintro h w hw u hu s ⟨a, rfl⟩ hs hne ⟨b, rfl⟩
    refine hs (h a s b hw hu ?_)
    rintro rfl
    exact hne (List.nil_append s).symm

/-- It is enough to look at what is left of a word behind each of its positions. -/
theorem overlapFree_iff_drop {words : List (List Char)} : OverlapFree words ↔
    ∀ w ∈ words, ∀ u ∈ words, ∀ k < w.length, 0 < k → ¬ w.drop k <+: u := by
  constructor
  · intro ho w hw u hu k hk hpos
    have hlen : (w.drop k).length = w.length - k := List.length_drop
    refine ho w hw u hu _ (List.drop_suffix k w) ?_ ?_
    · intro h
      rw [h, List.length_nil] at hlen
      omega
    · intro h
      rw [h] at hlen
      omega
  · intro h
    rw [overlapFree_iff]
    intro a s b hw hu ha
    refine Decidable.byContradiction fun hs => h _ hw _ hu a.length ?_ (List.length_pos_iff.mpr ha) ?_
    · rw [List.length_append]
      exact Nat.lt_add_of_pos_right (List.length_pos_iff.mpr hs)
    · rw [List.drop_left]
      exact List.prefix_append s b

instance (words : List (List Char)) : Decidable (OverlapFree words) :=
  decidable_of_iff _ overlapFree_iff_drop.symm

theorem OverlapFree.mono {words words' : List (List Char)} (ho : OverlapFree words)
    (h : ∀ w ∈ words', w ∈ words) : OverlapFree words' :=
  fun w hw u hu => ho w (h w hw) u (h u hu)

theorem OverlapFree.not_fused {words : List (List Char)} (ho : OverlapFree words)
    (cs : List Char) : ¬ Fused words cs := by
  rintro ⟨a, s, b, hw, hu, ha, hs, -⟩
  exact hs (overlapFree_iff.mp ho a s b hw hu ha)

/-- Words that overlap in no way leave no text ambiguous. -/
theorem OverlapFree.unambiguous {words : List (List Char)} (ho : OverlapFree words)
    (hs : Separate words) (cs : List Char) : Unambiguous words cs :=
  (unambiguous_iff_not_fused hs).mpr (ho.not_fused cs)

end SchemaDepot.Text
