/-
# Tokens in any order

The tokens of a template are listed by a value: a sequence, a set, the keys of a mapping or the
characters of a text. Neither their order nor how often one is listed matters. They are admitted
exactly when the text and every token have a character that is not blank, every token stands in
the text, and none is a part of a different one (`admissible_ofList_iff`).

That none is a part of another is what makes the order irrelevant for substitution too: of two
tokens that stand at one position the shorter begins the longer, so they are the same. At no
position is there a choice, and going through a text gives the same whichever token is tried
first. The longest are (`pairwise_longestFirst`), but any other order would do
(`substituteIn_eq_of_perm`).

Key definition: `Template.substituteIn`.
Key theorems: `Template.ofValue_eq_make`, `Template.admissible_ofList_iff`,
`Template.eq_of_standsAt`, `Template.substituteIn_eq_of_perm`.
-/
import SchemaDepot.Proofs.Template.Rendering
import SchemaDepot.Proofs.TemplateSet

namespace SchemaDepot

open Text

/-! ### Texts among the members of a value -/

namespace Value

theorem allHashable_texts (xs : List String) : allHashable (xs.map .text) = true := by
  induction xs with
  | nil => rfl
  | cons x xs ih =>
    have hx : (Value.text x).isHashable = true := rfl
    simp only [List.map_cons, allHashable, hx, ih, Bool.and_self]

theorem any_same_texts (ys : List String) (x : String) :
    ((ys.map Value.text).any fun w => w.same (.text x)) = decide (x ∈ ys) := by
  induction ys with
  | nil => rfl
  | cons y ys ih =>
    have hy : (Value.text y).same (.text x) = decide (x = y) := by
      show (y == x) = decide (x = y)
      simp [beq_eq_decide, eq_comm]
    simp [ih, hy]

/-- Going on through texts, those that were seen stay and those that were not come after them. -/
theorem exists_foldl_dedup_texts (xs seen : List String) :
    ∃ ys : List String, (xs.map Value.text).foldl
        (fun seen v => if seen.any fun w => same w v then seen else seen ++ [v])
        (seen.map .text) = ys.map .text ∧ ∀ x, x ∈ ys ↔ x ∈ seen ∨ x ∈ xs := by
  induction xs generalizing seen with
  | nil => exact ⟨seen, rfl, by simp⟩
  | cons x xs ih =>
    rw [List.map_cons, List.foldl_cons, any_same_texts]
    by_cases hx : x ∈ seen
    · obtain ⟨ys, hys, hmem⟩ := ih seen
      refine ⟨ys, by simpa [hx] using hys, fun z => ?_⟩
      rw [hmem, List.mem_cons]
      constructor
      · exact fun h => h.imp_right Or.inr
      · rintro (h | rfl | h)
        · exact Or.inl h
        · exact Or.inl hx
        · exact Or.inr h
    · obtain ⟨ys, hys, hmem⟩ := ih (seen ++ [x])
      refine ⟨ys, by simpa [hx] using hys, fun z => ?_⟩
      rw [hmem, List.mem_append, List.mem_singleton, List.mem_cons, or_assoc]

/-- Leaving repeated texts out leaves the same texts. -/
theorem exists_dedup_texts (xs : List String) :
    ∃ ys : List String, dedup (xs.map .text) = ys.map .text ∧ ∀ x, x ∈ ys ↔ x ∈ xs := by
  obtain ⟨ys, hys, hmem⟩ := exists_foldl_dedup_texts xs []
  exact ⟨ys, hys, by simpa using hmem⟩

end Value

namespace Template

variable {name text : String} {declared : Value} {xs : List String}

theorem textsAmong_texts (ys : List String) : textsAmong (ys.map .text) = ys := by
  induction ys with
  | nil => rfl
  | cons y ys ih =>
    show y :: textsAmong (ys.map .text) = y :: ys
    rw [ih]

/-! ### When tokens are admitted -/

theorem make_eq_error_iff {tokens : TextSet} {e : Error} :
    make name text tokens = .error e ↔
      ∃ fault, fault? name text tokens = some fault ∧ e = .templates fault := by
  unfold make
  split
  · rename_i fault hfault
    simp [hfault, eq_comm]
  · rename_i hnone
    simp [hnone]

theorem exists_make_iff {tokens : TextSet} :
    (∃ t, make name text tokens = .ok t) ↔ Admissible text tokens := by
  simp only [make_eq_ok_iff, fault?_eq_none_iff]
  constructor
  · exact fun ⟨_, hadmissible, _⟩ => hadmissible
  · exact fun hadmissible => ⟨⟨name, text, tokens, hadmissible⟩, hadmissible, rfl, rfl, rfl⟩

/-- The template of listed tokens is the template of their set. -/
theorem ofValue_eq_make (hmembers : declared.members = .ok (xs.map .text)) :
    ofValue name text declared = make name text (.ofList xs) := by
  obtain ⟨ys, hys, hmem⟩ := Value.exists_dedup_texts xs
  have hset : TextSet.ofList ys = .ofList xs := TextSet.ext_mem fun x => by simp [hmem]
  have htexts : textsAmong (ys.map .text) = ys := textsAmong_texts ys
  have hlength : (textsAmong (ys.map .text)).length = (ys.map Value.text).length := by
    rw [htexts, List.length_map]
  rw [ofValue, tokensOf, hmembers, Outcome.ok_bind]
  simp only [Value.allHashable_texts, Bool.not_true, Bool.false_eq_true, if_false]
  by_cases hblank : isBlank text = true
  · have hfault : fault? name text (.ofList xs) = some (.emptyText name) := by
      rw [fault?, if_pos hblank]
    rw [if_pos hblank, make_eq_error_iff.mpr ⟨_, hfault, rfl⟩]
    rfl
  · rw [if_neg hblank, hys, if_pos hlength, htexts, hset, Outcome.ok_bind]

/-- What it takes for listed tokens to be admissible. -/
theorem admissible_ofList_iff : Admissible text (.ofList xs) ↔
    isBlank text = false ∧ ∀ x ∈ xs, isBlank x = false ∧ x.toList <:+: text.toList ∧
      ∀ y ∈ xs, x.toList <:+: y.toList → x = y := by
  have hwithin : ∀ x y : String, (y ≠ x → contains y x = false) ↔
      (x.toList <:+: y.toList → x = y) := by
    intro x y
    rw [contains_eq_false_iff, ← not_imp_not, not_not, not_not, eq_comm]
  constructor
  · intro h
    refine ⟨h.text_not_blank, fun x hx => ?_⟩
    have hx' : x ∈ TextSet.ofList xs := TextSet.mem_ofList.mpr hx
    refine ⟨h.token_not_blank x hx', contains_eq_true_iff.mp (h.token_occurs x hx'), ?_⟩
    intro y hy
    exact (hwithin x y).mp (h.token_not_within x hx' y (TextSet.mem_ofList.mpr hy))
  · rintro ⟨htext, htokens⟩
    have hall : ∀ x ∈ TextSet.ofList xs, x ∈ xs := fun x hx => TextSet.mem_ofList.mp hx
    refine ⟨htext, fun x hx => (htokens x (hall x hx)).1, fun x hx => ?_, fun x hx y hy => ?_⟩
    · exact contains_eq_true_iff.mpr (htokens x (hall x hx)).2.1
    · exact (hwithin x y).mpr ((htokens x (hall x hx)).2.2 y (hall y hy))

/-! ### The order in which tokens are tried -/

/-- The text with every token replaced by its value, the tokens being tried in the order of
the list at every position. -/
def substituteIn (order : List String) (value : String → String) (text : String) : String :=
  String.ofList <|
    scan (order.map String.toList) (fun w => (value (String.ofList w)).toList) 0 text.toList

/-- Substitution tries the longest tokens first. -/
theorem substitute_eq_substituteIn (t : Template) (value : String → String) :
    t.substitute value = substituteIn (longestFirst t.tokens) value t.text := rfl

theorem longestFirst_perm (tokens : TextSet) : (longestFirst tokens).Perm tokens.toList :=
  List.mergeSort_perm _ _

/-- Of two tokens the one tried first is no shorter. -/
theorem pairwise_longestFirst (tokens : TextSet) :
    (longestFirst tokens).Pairwise fun x y => y.length ≤ x.length := by
  refine (List.pairwise_mergeSort ?htrans ?htotal _).imp ?hlength
  case htrans =>
    intro x y z hxy hyz
    simp only [Bool.or_eq_true, Bool.and_eq_true, decide_eq_true_eq] at hxy hyz ⊢
    rcases hxy with hxy | ⟨hxy, hxy'⟩
    · omega
    · rcases hyz with hyz | ⟨hyz, hyz'⟩
      · omega
      · exact Or.inr ⟨hxy.trans hyz, inOrder_trans x y z hxy' hyz'⟩
  case htotal =>
    intro x y
    have horder := inOrder_total x y
    simp only [Bool.or_eq_true, Bool.and_eq_true, decide_eq_true_eq] at horder ⊢
    rcases Nat.lt_trichotomy x.length y.length with hlt | heq | hgt
    · exact Or.inr (Or.inl hlt)
    · exact horder.imp (fun h => Or.inr ⟨heq, h⟩) fun h => Or.inr ⟨heq.symm, h⟩
    · exact Or.inl (Or.inl hgt)
  case hlength =>
    intro x y hxy
    simp only [Bool.or_eq_true, Bool.and_eq_true, decide_eq_true_eq] at hxy
    omega

/-- At most one token stands at a position of a text. -/
theorem eq_of_standsAt (t : Template) {cs : List Char} {n : Nat} {x y : String}
    (hx : x ∈ t.tokens) (hy : y ∈ t.tokens) (hxn : StandsAt cs x.toList n)
    (hyn : StandsAt cs y.toList n) : x = y := by
  have hxy := t.admissible.separate.eq_of_prefix (toList_mem_wordsOf.mpr hx)
    (toList_mem_wordsOf.mpr hy) hxn hyn
  exact String.toList_injective hxy

/-- Whatever the order, going through a text gives the same. -/
theorem substituteIn_eq_of_perm (t : Template) {order : List String}
    (h : order.Perm t.tokens.toList) (value : String → String) (s : String) :
    substituteIn order value s = substituteIn (longestFirst t.tokens) value s := by
  have hwords : (order.map String.toList).Perm (wordsOf t.tokens) :=
    (h.trans (longestFirst_perm t.tokens).symm).map String.toList
  have hscan := scan_congr t.admissible.separate (fun w => hwords.mem_iff)
    (fun w => (value (String.ofList w)).toList) s.toList
  rw [substituteIn, substituteIn, ← hscan]
  rfl

/-- **Tokens in any order.** Listed tokens are admitted exactly when the text and each of them
are not blank, each stands in the text, and none is a part of a different one; otherwise there
is a fault. At a position of any text at most one of the admitted tokens stands. They are tried
from the longest to the shortest, and going through any text with any values gives the same in
every other order. -/
theorem tokens_in_any_order (name text : String) {declared : Value} {xs : List String}
    (hmembers : declared.members = .ok (xs.map .text)) :
    ((∃ t, ofValue name text declared = .ok t) ↔
      isBlank text = false ∧ ∀ x ∈ xs, isBlank x = false ∧ x.toList <:+: text.toList ∧
        ∀ y ∈ xs, x.toList <:+: y.toList → x = y) ∧
    (∀ e, ofValue name text declared = .error e → ∃ fault, e = .templates fault) ∧
    ∀ t, ofValue name text declared = .ok t →
      (t.text = text ∧ ∀ x, x ∈ t.tokens ↔ x ∈ xs) ∧
      (∀ (cs : List Char) (n : Nat), ∀ x ∈ t.tokens, ∀ y ∈ t.tokens,
        StandsAt cs x.toList n → StandsAt cs y.toList n → x = y) ∧
      ((longestFirst t.tokens).Perm t.tokens.toList ∧
        (longestFirst t.tokens).Pairwise fun x y => y.length ≤ x.length) ∧
      ∀ order : List String, order.Perm t.tokens.toList → ∀ value,
        t.substitute value = substituteIn order value t.text ∧
        ∀ s, substituteIn order value s = substituteIn (longestFirst t.tokens) value s := by
  rw [ofValue_eq_make hmembers]
  refine ⟨exists_make_iff.trans admissible_ofList_iff, fun e he => ?_, fun t ht => ?_⟩
  · obtain ⟨fault, -, rfl⟩ := make_eq_error_iff.mp he
    exact ⟨fault, rfl⟩
  · obtain ⟨-, -, htext, htokens⟩ := make_eq_ok_iff.mp ht
    have hmem : ∀ x, x ∈ t.tokens ↔ x ∈ xs := by simp [htokens]
    refine ⟨⟨htext, hmem⟩, fun cs n x hx y hy => t.eq_of_standsAt hx hy,
      ⟨longestFirst_perm _, pairwise_longestFirst _⟩, fun order horder value => ?_⟩
    have hsame := t.substituteIn_eq_of_perm horder value
    exact ⟨(t.substitute_eq_substituteIn value).trans (hsame t.text).symm, hsame⟩

/-- Of three listed tokens two are the same; the shorter may be tried first. -/
theorem tokens_in_any_order_listed :
    (Value.list [.text "\\1", .text "a.a", .text "\\1"]).members =
      .ok (["\\1", "a.a", "\\1"].map .text) ∧
    ∃ t, ofValue "echo" "a.a.a\\1!" (.list [.text "\\1", .text "a.a", .text "\\1"]) = .ok t ∧
      ["\\1", "a.a"].Perm t.tokens.toList ∧
      t.substitute (fun x => "(" ++ x ++ ")") =
        substituteIn ["\\1", "a.a"] (fun x => "(" ++ x ++ ")") "a.a.a\\1!" ∧
      substituteIn ["\\1", "a.a"] (fun x => "(" ++ x ++ ")") "a.a.a\\1!" = "(a.a).a(\\1)!" := by
  have hmembers : (Value.list [.text "\\1", .text "a.a", .text "\\1"]).members =
      .ok (["\\1", "a.a", "\\1"].map .text) := rfl
  obtain ⟨hadmits, -, hall⟩ := tokens_in_any_order "echo" "a.a.a\\1!" hmembers
  obtain ⟨t, ht⟩ := hadmits.mpr (by decide +kernel)
  obtain ⟨⟨htext, hmem⟩, -, -, horders⟩ := hall t ht
  have hperm : ["\\1", "a.a"].Perm t.tokens.toList := by
    refine (List.perm_ext_iff_of_nodup (by decide) t.tokens.nodup_toList).mpr fun x => ?_
    rw [← TextSet.mem_def, hmem]
    simp [or_comm]
  obtain ⟨hsubstitute, -⟩ := horders _ hperm fun x => "(" ++ x ++ ")"
  exact ⟨hmembers, t, ht, hperm, htext ▸ hsubstitute, by decide⟩

end Template

end SchemaDepot
