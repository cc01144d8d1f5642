/-
# Tokens across each other

Admissible tokens are no parts of each other, yet the end of one can be the
beginning of another. Where two of them stand in the text run together, only the
first is a token of the cut; the other is not replaced, and if it stands nowhere
else its value is nowhere in the result.

So every occurrence is replaced exactly when no two tokens stand in the text run
together, and a set of tokens is safe in all its texts exactly when no token ends
as one begins (`replacesAll_iff`).

Key definition: `Template.ReplacesAll`.
Key theorems: `Template.replacesAll_iff_not_fused`,
`Template.overlapFree_iff_replacesAll`, `Template.replacesAll_iff`.
-/
import SchemaDepot.Proofs.Template.Rendering

namespace SchemaDepot

namespace Text

theorem not_blank_of_infix {whole part : String} (h : part.toList <:+: whole.toList)
    (hp : isBlank part = false) : isBlank whole = false := by
  unfold isBlank at *
  rw [List.all_eq_false] at *
  obtain ⟨c, hc, hb⟩ := hp
  exact ⟨c, h.subset hc, hb⟩

theorem infix_flatten {words : List (List Char)} {w : List Char} (h : w ∈ words) :
    w <:+: words.flatten := by
  obtain ⟨before, after, rfl⟩ := List.append_of_mem h
  exact ⟨before.flatten, after.flatten, by simp⟩

end Text

namespace Template

open Text

/-- No two occurrences of declared tokens share a character, every occurrence is
replaced, and the value of every declared token is put somewhere. -/
structure ReplacesAll (t : Template) : Prop where
  apart : Unambiguous (wordsOf t.tokens) t.text.toList
  replaced : ∀ x ∈ t.tokens, ∀ n, StandsAt t.text.toList x.toList n → t.cut.HasAt x.toList n
  inserted : ∀ x ∈ t.tokens, ∃ n, t.cut.HasAt x.toList n

/-- In an unambiguous text every occurrence of a declared token is a token of the cut. -/
theorem hasAt_of_standsAt {t : Template} (ha : Unambiguous (wordsOf t.tokens) t.text.toList)
    {x : String} (hx : x ∈ t.tokens) {n : Nat} (hn : StandsAt t.text.toList x.toList n) :
    t.cut.HasAt x.toList n := by
  have hw := toList_mem_wordsOf.mpr hx
  have hne := t.admissible.separate.ne_nil _ hw
  have hpos := List.length_pos_iff.mpr hne
  have hle := hn.le_length hne
  have hlen : n < t.text.toList.length := by omega
  rw [← t.isCut_cut.text_eq] at hlen
  rcases Cut.inGap_or_hasAt hlen with hgap | ⟨u, m, hat, hle, hlt⟩
  · rw [← t.isCut_cut.text_eq] at hn
    exact absurd hgap (t.isCut_cut.leftmost.not_inGap hw hn)
  · -- the token that covers the position stands in the text too, so it is the same
    obtain ⟨hu, hm⟩ := t.isCut_cut.leftmost.standsAt hat
    rw [t.isCut_cut.text_eq] at hm
    obtain ⟨rfl, rfl⟩ := ha _ hw _ hu n m hn hm hlt (by omega)
    exact hat

/-- Everything is replaced exactly when no two tokens stand in the text run together. -/
theorem replacesAll_iff_not_fused (t : Template) :
    t.ReplacesAll ↔ ¬ Fused (wordsOf t.tokens) t.text.toList := by
  rw [← unambiguous_iff_not_fused t.admissible.separate]
  constructor
  · exact ReplacesAll.apart
  · intro ha
    refine ⟨ha, fun x hx n hn => hasAt_of_standsAt ha hx hn, fun x hx => ?_⟩
    obtain ⟨n, hn⟩ := infix_iff_standsAt.mp (contains_eq_true_iff.mp (t.admissible.token_occurs x hx))
    exact ⟨n, hasAt_of_standsAt ha hx hn⟩

/-- Where everything is replaced, each value is a part of the filled text. -/
theorem ReplacesAll.infix_filled {t : Template} (hall : t.ReplacesAll) {given : Substitutions}
    {x s : String} (hx : x ∈ t.tokens) (hget : given.get? x = some (.text s)) :
    s.toList <:+: (t.filled given).toList := by
  obtain ⟨n, hn⟩ := hall.inserted x hx
  have hin := Cut.infix_filled_of_hasAt
    (fun w => ((textFor? given (String.ofList w)).getD "").toList) hn
  rw [String.ofList_toList, textFor?, hget] at hin
  rw [filled, toList_substitute]
  exact hin

/-- Where everything is replaced, a value that holds a token makes one stand in the filled
text; so texts for all tokens are refused only for what stands there. -/
theorem ReplacesAll.outcome_eq_ok_iff {t : Template} (hall : t.ReplacesAll)
    {given : Substitutions} {strict : Bool} {r : String}
    (hdeclared : (t.undeclared given).isEmpty = true)
    (htexts : ∀ x ∈ t.tokens, ∃ s, given.get? x = some (.text s)) :
    t.outcome given strict = .ok r ↔
      (∀ x ∈ t.tokens, contains (t.filled given) x = false) ∧ t.filled given = r := by
  rw [Template.outcome_eq_ok_iff]
  constructor
  · rintro ⟨-, -, hleft, hr⟩
    exact ⟨hleft, hr⟩
  · rintro ⟨hleft, hr⟩
    refine ⟨fun x hx => ?_, fun _ => hdeclared, hleft, hr⟩
    obtain ⟨s, hs⟩ := htexts x hx
    refine ⟨s, hs, List.any_eq_false.mpr fun y hy hin => ?_⟩
    have hout := contains_eq_false_iff.mp (hleft y (TextSet.mem_def.mpr hy))
    exact hout ((contains_eq_true_iff.mp hin).trans (hall.infix_filled hx hs))

/-- Tokens that can be told apart in one text can be in any text that holds each. -/
theorem Admissible.of_words {text : String} {tokens : TextSet} (h : Admissible text tokens)
    {cs front : List Char} (hfront : front ∈ wordsOf tokens) (hcs : front <+: cs) :
    Admissible (String.ofList (cs ++ (wordsOf tokens).flatten)) tokens where
  text_not_blank := by
    refine not_blank_of_infix ?_ (h.token_not_blank _ (mem_wordsOf.mp hfront))
    rw [String.toList_ofList, String.toList_ofList]
    exact hcs.isInfix.trans (List.prefix_append cs _).isInfix
  token_not_blank := h.token_not_blank
  token_occurs x hx := by
    rw [contains_eq_true_iff, String.toList_ofList]
    exact (infix_flatten (toList_mem_wordsOf.mpr hx)).trans (List.suffix_append cs _).isInfix
  token_not_within := h.token_not_within

/-- Tokens overlap in no way exactly when everything is replaced in all their texts. -/
theorem overlapFree_iff_replacesAll (t : Template) :
    OverlapFree (wordsOf t.tokens) ↔ ∀ u : Template, u.tokens = t.tokens → u.ReplacesAll := by
  constructor
  · intro ho u hu
    rw [replacesAll_iff_not_fused, hu]
    exact ho.not_fused _
  · intro h
    rw [overlapFree_iff]
    intro a s b hw hu ha
    refine Decidable.byContradiction fun hs => ?_
    -- the two words run together, and all tokens after them so that each occurs
    have hadm : Admissible (String.ofList (a ++ s ++ b ++ (wordsOf t.tokens).flatten)) t.tokens :=
      t.admissible.of_words hw (List.prefix_append _ b)
    have hall := h ⟨t.name, _, t.tokens, hadm⟩ rfl
    rw [replacesAll_iff_not_fused, String.toList_ofList] at hall
    exact hall ⟨a, s, b, hw, hu, ha, hs, (List.prefix_append _ _).isInfix⟩

/-- **When every occurrence is replaced.** A rendered text fills the cut. Everything is
replaced in it exactly when no two tokens stand in the text run together, and in all
texts with these tokens exactly when no token ends as one begins. -/
theorem replacesAll_iff (t : Template) :
    (t.ReplacesAll ↔ ¬ Fused (wordsOf t.tokens) t.text.toList) ∧
    ((∀ u : Template, u.tokens = t.tokens → u.ReplacesAll) ↔ OverlapFree (wordsOf t.tokens)) ∧
    ∀ given strict r, t.outcome given strict = .ok r →
      r.toList = t.cut.filled fun w => ((textFor? given (String.ofList w)).getD "").toList := by
  refine ⟨t.replacesAll_iff_not_fused, t.overlapFree_iff_replacesAll.symm, ?_⟩
  intro given strict r h
  obtain ⟨-, -, -, rfl⟩ := outcome_eq_ok_iff.mp h
  rw [filled, toList_substitute]

/-- A text of two tokens of which each ends as the other begins. -/
def seesaw : Template where
  name := "seesaw"
  text := "aba"
  tokens := .ofList ["ab", "ba"]
  admissible := (@fault?_eq_none_iff "seesaw" _ _).mp (by decide)

/-- Admissible tokens can share a character, and then a value that has to be given is
nowhere in the rendered text. -/
theorem seesaw_loses_a_value :
    fault? "seesaw" "aba" (.ofList ["ab", "ba"]) = none ∧
    StandsAt "aba".toList "ab".toList 0 ∧ StandsAt "aba".toList "ba".toList 1 ∧
    seesaw.outcome (.ofList [("ab", .text "x"), ("ba", .text "y")]) true = .ok "xa" ∧
    ¬ seesaw.ReplacesAll := by
  refine ⟨by decide, by decide, by decide, ?_, ?_⟩
  · exact outcome_eq_ok_of_scan (by decide) (by decide) (by decide) (by decide)
  · intro hall
    exact seesaw.replacesAll_iff_not_fused.mp hall ⟨['a'], ['b'], ['a'],
      mem_wordsOf.mpr (by decide), mem_wordsOf.mpr (by decide), by decide, by decide, [], [],
      by decide⟩

end Template

end SchemaDepot
