/-
# Replacing the tokens one after the other

Where no token ends as one begins, the rendered text can be had without a scan: the
tokens are replaced one at a time, each wherever it stands in the text there is by
then, in any order (`replaced_in_any_order`).

Between two replacements the text fills the cut, some of the tokens with their values
and the others with themselves. The token replaced next stands at its own places of
the cut only. Elsewhere it could not share a character with a token that is still to
be replaced; so it would stand in gaps and values alone, and these go into the
rendered text as they are, in which no token stands.

Key definition: `Template.replaceInOrder`.
Key theorems: `Template.replaceFrom_filled`, `Template.toList_replaceInOrder`,
`Template.replaced_in_any_order`.
-/
import SchemaDepot.Proofs.Bundle.Installed
import SchemaDepot.Proofs.Template.Ambiguity
import SchemaDepot.Proofs.Text.Replace

namespace SchemaDepot.Template

open Text

/-- A word that stands before the end of another, and not wholly in what is before that
one, is that other word. -/
theorem eq_of_standsAt_before {words : List (List Char)} {xs w ys u : List Char} {n : Nat}
    (ha : Unambiguous words (xs ++ (w ++ ys))) (hw : w ∈ words) (hu : u ∈ words)
    (hxs : ¬ u <:+: xs) (hn : StandsAt (xs ++ (w ++ ys)) u n) (hlt : n < xs.length + w.length) :
    n = xs.length ∧ u = w := by
  have hat : StandsAt (xs ++ (w ++ ys)) w xs.length := by
    rw [standsAt_append_right (Nat.le_refl _), Nat.sub_self]
    exact List.prefix_append w ys
  rcases Nat.lt_or_ge xs.length (n + u.length) with hlt' | hge
  · exact ha _ hu _ hw n xs.length hn hat hlt hlt'
  · exact absurd (infix_of_standsAt_append hn hge) hxs

/-- The values of a filling with that of one more word. -/
def withValue (value : List Char → List Char) (u : List Char) (f : List Char → List Char)
    (w : List Char) : List Char :=
  if w = u then value w else f w

theorem withValue_of_eq {value f : List Char → List Char} {u w : List Char} (h : f w = value w) :
    withValue value u f w = value w := by
  unfold withValue
  split
  · rfl
  · exact h

/-- **One replacement.** In a filling with some values in place, replacing a word puts
its value at its own places. `front` are gaps and values that were passed. -/
theorem replaceFrom_filled {words : List (List Char)} (hs : Separate words)
    (ho : OverlapFree words) {value f : List Char → List Char} {u : List Char} (hu : u ∈ words)
    (hf : ∀ w ∈ words, f w = w ∨ f w = value w) : ∀ {c : Cut} (front : List Char),
    c.Leftmost words → (∀ x ∈ words, ¬ x <:+: front ++ c.filled value) →
      replaceFrom u (value u) 0 (front ++ c.filled f) = front ++ c.filled (withValue value u f)
  | .rest g, front, _, hno => replaceFrom_of_not_infix _ (hno u hu)
  | .token g w c, front, hc, hno => by
    have hno' : ∀ x ∈ words, ¬ x <:+: front ++ g ++ value w ++ c.filled value := by
      intro x hx hin
      refine hno x hx ?_
      simpa only [Cut.filled, List.append_assoc] using hin
    by_cases hdone : f w = value w
    · -- a value that is in place already is passed like a gap
      have hnew : withValue value u f w = value w := withValue_of_eq hdone
      have ih := replaceFrom_filled hs ho hu hf (front ++ g ++ value w) hc.2.2 hno'
      simpa only [Cut.filled, hdone, hnew, List.append_assoc] using ih
    · have hself : f w = w := (hf w hc.1).resolve_right hdone
      have hrest : ∀ x ∈ words, ¬ x <:+: [] ++ c.filled value := fun x hx hin =>
        hno' x hx (hin.trans (List.suffix_append _ _).isInfix)
      have ih := replaceFrom_filled hs ho hu hf [] hc.2.2 hrest
      rw [List.nil_append, List.nil_append] at ih
      have hfront : ¬ u <:+: front ++ g := fun hin => hno' u hu
        (hin.trans (List.IsPrefix.isInfix ⟨value w ++ c.filled value, by simp [List.append_assoc]⟩))
      have hbefore : ∀ n, StandsAt (front ++ g ++ (w ++ c.filled f)) u n →
          n < (front ++ g).length + w.length → n = (front ++ g).length ∧ u = w := fun n =>
        eq_of_standsAt_before (ho.unambiguous hs _) hc.1 hu hfront
      have hfilled : front ++ (Cut.token g w c).filled f = front ++ g ++ (w ++ c.filled f) := by
        rw [Cut.filled, hself, List.append_assoc]
      rw [hfilled]
      by_cases huw : w = u
      · -- the token itself: it stands nowhere in what was passed
        subst huw
        rw [replaceFrom_append, replaceFrom_word (hs.ne_nil w hu), ih]
        · simp only [Cut.filled, withValue, if_true, List.append_assoc]
        · intro n hn hat
          have hlen := (hbefore n hat (by omega)).1
          omega
      · -- another token: the one replaced stands neither before it nor in it
        rw [← List.append_assoc, replaceFrom_append, ih]
        · simp only [Cut.filled, withValue, if_neg huw, hself, List.append_assoc]
        · intro n hn hat
          rw [List.length_append] at hn
          rw [List.append_assoc] at hat
          exact huw (hbefore n hat hn).2.symm

/-- The text with each of some tokens replaced by its value, one after the other. -/
def replaceInOrder (value : String → String) (order : List String) (s : String) : String :=
  order.foldl (fun s x => replaceAll s x (value x)) s

/-- **A run of replacements.** A filling with some values in place is turned into the
filling with those of the replaced tokens in place too. -/
theorem toList_replaceInOrder {t : Template} (ho : OverlapFree (wordsOf t.tokens))
    {value : String → String} {v : List Char → List Char}
    (hv : ∀ x ∈ t.tokens, v x.toList = (value x).toList)
    (hno : ∀ x ∈ wordsOf t.tokens, ¬ x <:+: t.cut.filled v) :
    ∀ (order : List String) (s : String) (f : List Char → List Char),
      (∀ x ∈ order, x ∈ t.tokens) → (∀ w ∈ wordsOf t.tokens, f w = w ∨ f w = v w) →
      s.toList = t.cut.filled f →
      (replaceInOrder value order s).toList =
        t.cut.filled (fun w => if String.ofList w ∈ order then v w else f w)
  | [], s, f, _, _, hs => by simpa [replaceInOrder] using hs
  | x :: order, s, f, hmem, hf, hs => by
    have hsep := t.admissible.separate
    have hx : x.toList ∈ wordsOf t.tokens := toList_mem_wordsOf.mpr (hmem x List.mem_cons_self)
    have hstep : (replaceAll s x (value x)).toList = t.cut.filled (withValue v x.toList f) := by
      have hfill := replaceFrom_filled hsep ho hx hf [] t.isCut_cut.leftmost hno
      rw [List.nil_append, List.nil_append] at hfill
      rw [toList_replaceAll (hsep.ne_nil _ hx), hs, ← hv x (hmem x List.mem_cons_self), hfill]
    have hkeep : ∀ w ∈ wordsOf t.tokens, withValue v x.toList f w = w ∨
        withValue v x.toList f w = v w := by
      intro w hw
      unfold withValue
      split
      · exact Or.inr rfl
      · exact hf w hw
    have ih := toList_replaceInOrder ho hv hno order _ _
      (fun y hy => hmem y (List.mem_cons_of_mem _ hy)) hkeep hstep
    rw [replaceInOrder, List.foldl_cons, ← replaceInOrder, ih]
    refine t.isCut_cut.leftmost.filled_congr fun w _ => ?_
    by_cases hw : w = x.toList
    · subst hw
      simp [withValue]
    · have hne : String.ofList w ≠ x := fun e => hw (e ▸ String.toList_ofList.symm)
      simp [withValue, hw, hne]

/-- A rendered text is had by replacing the tokens in any order, if they overlap in no
way. -/
theorem replaceInOrder_of_outcome {t : Template} (ho : OverlapFree (wordsOf t.tokens))
    {given : Substitutions} {strict : Bool} {r : String} (h : t.outcome given strict = .ok r)
    {value : String → String} (hvalue : ∀ x ∈ t.tokens, given.get? x = some (.text (value x)))
    {order : List String} (horder : ∀ x, x ∈ order ↔ x ∈ t.tokens) :
    replaceInOrder value order t.text = r := by
  obtain ⟨-, -, hleft, rfl⟩ := outcome_eq_ok_iff.mp h
  have hfilled := toList_filled hvalue
  have hno : ∀ w ∈ wordsOf t.tokens,
      ¬ w <:+: t.cut.filled fun w => (value (String.ofList w)).toList := by
    intro w hw hin
    have hout := contains_eq_false_iff.mp (hleft _ (mem_wordsOf.mp hw))
    rw [hfilled, String.toList_ofList] at hout
    exact hout hin
  have hall : ∀ w ∈ wordsOf t.tokens, (if String.ofList w ∈ order then
      (value (String.ofList w)).toList else id w) = (value (String.ofList w)).toList := by
    intro w hw
    rw [if_pos ((horder _).mpr (mem_wordsOf.mp hw))]
  apply String.toList_injective
  calc (replaceInOrder value order t.text).toList
      = t.cut.filled (fun w => if String.ofList w ∈ order then
          (value (String.ofList w)).toList else id w) :=
        toList_replaceInOrder ho (fun x _ => by rw [String.ofList_toList]) hno order t.text id
          (fun x hx => (horder x).mp hx) (fun _ _ => Or.inl rfl) t.isCut_cut.text_eq.symm
    _ = t.cut.filled (fun w => (value (String.ofList w)).toList) :=
        t.isCut_cut.leftmost.filled_congr hall
    _ = (t.filled given).toList := hfilled.symm

/-- **Any order will do.** Where no token ends as one begins, a rendered text is had as
well by replacing the tokens one after the other, in any order; and every occurrence of
a token is one of the cut, so its value is in the rendered text. The tokens for textual
columns are such tokens, and so are those of every bundled template. -/
theorem replaced_in_any_order :
    (∀ (t : Template) (entries : List (Value × Value)) (strict : Bool) (r : String),
      OverlapFree (wordsOf t.tokens) →
      (t.renderValue (.map entries) strict).outcome = .ok r →
      ∃ value : String → String,
        (∀ x ∈ t.tokens, (Value.text x, Value.text (value x)) ∈ entries) ∧
        (∀ order : List String, (∀ x, x ∈ order ↔ x ∈ t.tokens) →
          replaceInOrder value order t.text = r) ∧
        (∀ x ∈ t.tokens, ∀ n, StandsAt t.text.toList x.toList n → t.cut.HasAt x.toList n) ∧
        r.toList = t.cut.filled fun w => (value (String.ofList w)).toList) ∧
    OverlapFree (wordsOf Registry.textualTokens) ∧
    ∀ (h : Host) (settings : Settings) (r : Registry), Bundle.Supplies h settings →
      (Registry.build h settings).outcome = .ok r →
      ∀ x t, r.templates.named x = .ok t → OverlapFree (wordsOf t.tokens) := by
  refine ⟨?_, Bundle.overlapFree_textualTokens,
    fun h settings r hs hr x t ht => Bundle.overlapFree_of_build hs hr ht⟩
  intro t entries strict r ho h
  obtain ⟨given, hok, hmem⟩ := exists_outcome_of_renderValue h
  obtain ⟨value, hvalue⟩ := exists_value_of_outcome hok
  refine ⟨value, fun x hx => hmem x _ (hvalue x hx), fun order =>
    replaceInOrder_of_outcome ho hok hvalue, fun x hx n hn => ?_, ?_⟩
  · exact hasAt_of_standsAt (ho.unambiguous t.admissible.separate _) hx hn
  · obtain ⟨-, -, -, rfl⟩ := outcome_eq_ok_iff.mp hok
    exact toList_filled hvalue

/-- A column of a textual database. -/
def column : Template where
  name := "column"
  text := "DATABASE_NAME.c COLUMN_TYPE(COLUMN_LENGTH)"
  tokens := Registry.textualTokens
  admissible := (@fault?_eq_none_iff "column" _ _).mp (by decide)

/-- The tokens of a column may be replaced in any order, also where a value begins as
another token does. Those of the bundled template for columns overlap in no way. -/
theorem replaced_in_any_order_column :
    (column.renderValue (.map [(.text "DATABASE_NAME", .text "COLUMN_TYP"),
      (.text "COLUMN_TYPE", .text "CHAR"), (.text "COLUMN_LENGTH", .text "8")]) true).outcome =
        .ok "COLUMN_TYP.c CHAR(8)" ∧
    (∃ value : String → String, ∀ order : List String, (∀ x, x ∈ order ↔ x ∈ column.tokens) →
      replaceInOrder value order column.text = "COLUMN_TYP.c CHAR(8)") ∧
    Bundle.Supplies Bundle.bundledHost ⟨Bundle.bundledHost.bundled, true⟩ ∧
    ∃ r t, (Registry.build Bundle.bundledHost ⟨Bundle.bundledHost.bundled, true⟩).outcome = .ok r ∧
      r.templates.named "textual_columns" = .ok t ∧ OverlapFree (wordsOf t.tokens) := by
  have h : (column.renderValue (.map [(.text "DATABASE_NAME", .text "COLUMN_TYP"),
      (.text "COLUMN_TYPE", .text "CHAR"), (.text "COLUMN_LENGTH", .text "8")]) true).outcome =
        .ok "COLUMN_TYP.c CHAR(8)" := by
    change column.outcome (.ofList [("DATABASE_NAME", .text "COLUMN_TYP"),
      ("COLUMN_TYPE", .text "CHAR"), ("COLUMN_LENGTH", .text "8")]) true = _
    exact outcome_eq_ok_of_scan (by decide) (by decide) (by decide) (by decide)
  obtain ⟨value, -, horder, -⟩ :=
    replaced_in_any_order.1 column _ true _ Bundle.overlapFree_textualTokens h
  have hi := Bundle.installed_bundledHost
  obtain ⟨r, hr⟩ := hi.exists_build
  obtain ⟨t, ht, -⟩ := hi.exists_named hr (u := Bundle.textualFile) (by simp [Bundle.templateFiles])
  have hfree := replaced_in_any_order.2.2 _ _ r hi.supplies hr _ t ht
  exact ⟨h, ⟨value, horder⟩, hi.supplies, r, t, hr, ht, hfree⟩

end SchemaDepot.Template
