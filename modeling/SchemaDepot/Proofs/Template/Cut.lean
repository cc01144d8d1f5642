/-
# Cutting a text at its tokens

The text of a template is gaps with tokens between them. The cut that counts is
the leftmost one: each token is the first of the declared words in what follows
the token before it, and the last gap holds none. Every text has one such cut and
no other (`Cut.Leftmost.unique`), whatever order the words are tried in, and the
scan of a text is the filling of this cut (`Cut.Leftmost.scan_eq`).

A word that stands in the text begins in no gap (`Cut.Leftmost.not_inGap`); but it
may begin within a token. Then it is no token of the cut itself.

Key definitions: `Template.Cut`, `Template.Cut.filled`, `Template.Cut.Leftmost`,
`Template.Cut.InGap`, `Template.Cut.HasAt`, `Template.cutFrom`.
Key theorems: `Template.scan_eq_filled`, `Template.leftmost_cutFrom`,
`Template.Cut.Leftmost.unique`, `Template.Cut.Leftmost.not_inGap`,
`Template.scan_congr`.
-/
import SchemaDepot.Template
import SchemaDepot.Proofs.Text.Standing

namespace SchemaDepot.Template

open Text

/-- A text as gaps with tokens between them. -/
inductive Cut
  /-- A gap up to the end. -/
  | rest (gap : List Char)
  /-- A gap, the token after it and what follows the token. -/
  | token (gap word : List Char) (after : Cut)

namespace Cut

/-- The gaps with a value in the place of each token. -/
def filled (value : List Char → List Char) : Cut → List Char
  | .rest g => g
  | .token g w c => g ++ (value w ++ c.filled value)

/-- The text that was cut: each token stands for itself. -/
def text (c : Cut) : List Char := c.filled id

/-- Each token is one of the words, and none of them stands earlier in what
follows the token before; none stands in the last gap. -/
def Leftmost (words : List (List Char)) : Cut → Prop
  | .rest g => ∀ u ∈ words, ∀ n, ¬ StandsAt g u n
  | .token g w c => w ∈ words ∧
      (∀ u ∈ words, ∀ n, StandsAt (g ++ (w ++ c.text)) u n → g.length ≤ n) ∧ c.Leftmost words

/-- The character after the first `n` is one of a gap. -/
def InGap : Cut → Nat → Prop
  | .rest g, n => n < g.length
  | .token g w c, n => n < g.length ∨ g.length + w.length ≤ n ∧ c.InGap (n - (g.length + w.length))

/-- The word is a token of the cut, after the first `n` characters. -/
def HasAt : Cut → List Char → Nat → Prop
  | .rest _, _, _ => False
  | .token g w c, u, n => (n = g.length ∧ u = w) ∨
      g.length + w.length ≤ n ∧ c.HasAt u (n - (g.length + w.length))

/-- The cut with one more character before it. -/
def cons (x : Char) : Cut → Cut
  | .rest g => .rest (x :: g)
  | .token g w c => .token (x :: g) w c

@[simp] theorem text_rest (g : List Char) : (rest g).text = g := rfl

@[simp] theorem text_token (g w : List Char) (c : Cut) :
    (token g w c).text = g ++ (w ++ c.text) := rfl

@[simp] theorem filled_cons (value : List Char → List Char) (x : Char) (c : Cut) :
    (c.cons x).filled value = x :: c.filled value := by
  cases c <;> rfl

@[simp] theorem text_cons (x : Char) (c : Cut) : (c.cons x).text = x :: c.text := filled_cons id x c

/-! ### Leftmost cuts -/

/-- One more character before a leftmost cut leaves it leftmost, if no word stands there. -/
theorem Leftmost.cons {words : List (List Char)} {x : Char} {c : Cut} (h : c.Leftmost words)
    (hx : ∀ u ∈ words, ¬ u <+: x :: c.text) : (c.cons x).Leftmost words := by
  cases c with
  | rest g =>
    intro u hu n hn
    cases n with
    | zero => exact hx u hu hn
    | succ n => exact h u hu n hn
  | token g w c =>
    refine ⟨h.1, fun u hu n hn => ?_, h.2.2⟩
    cases n with
    | zero => exact absurd hn (hx u hu)
    | succ n => exact Nat.succ_le_succ (h.2.1 u hu n hn)

theorem Leftmost.congr {words words' : List (List Char)} (h : ∀ w, w ∈ words' ↔ w ∈ words) :
    ∀ {c : Cut}, c.Leftmost words → c.Leftmost words'
  | .rest _, hc => fun u hu => hc u ((h u).mp hu)
  | .token _ _ _, hc =>
    ⟨(h _).mpr hc.1, fun u hu => hc.2.1 u ((h u).mp hu), hc.2.2.congr h⟩

/-- A text has one leftmost cut only. -/
theorem Leftmost.unique {words : List (List Char)} (hs : Separate words) :
    ∀ {c d : Cut}, c.Leftmost words → d.Leftmost words → c.text = d.text → c = d
  | .rest g, .rest g', _, _, e => by
    rw [text_rest, text_rest] at e
    rw [e]
  | .rest g, .token g' w' d, hc, hd, e => by
    refine absurd ?_ (hc w' hd.1 g'.length)
    rw [text_rest, text_token] at e
    rw [e, standsAt_append_right (Nat.le_refl _), Nat.sub_self]
    exact List.prefix_append _ _
  | .token g w c, .rest g', hc, hd, e => by
    refine absurd ?_ (hd w hc.1 g.length)
    rw [text_rest, text_token] at e
    rw [← e, standsAt_append_right (Nat.le_refl _), Nat.sub_self]
    exact List.prefix_append _ _
  | .token g w c, .token g' w' d, hc, hd, e => by
    rw [text_token, text_token] at e
    have hle : g.length ≤ g'.length := by
      refine hc.2.1 w' hd.1 g'.length ?_
      rw [e, standsAt_append_right (Nat.le_refl _), Nat.sub_self]
      exact List.prefix_append _ _
    have hle' : g'.length ≤ g.length := by
      refine hd.2.1 w hc.1 g.length ?_
      rw [← e, standsAt_append_right (Nat.le_refl _), Nat.sub_self]
      exact List.prefix_append _ _
    obtain ⟨hg, ht⟩ := List.append_inj e (Nat.le_antisymm hle hle')
    have hw : w = w' :=
      hs.eq_of_prefix hc.1 hd.1 (List.prefix_append w c.text) (ht ▸ List.prefix_append w' d.text)
    subst hg hw
    rw [Leftmost.unique hs hc.2.2 hd.2.2 (List.append_cancel_left ht)]

/-- No word begins in a gap of a leftmost cut. -/
theorem Leftmost.not_inGap {words : List (List Char)} {u : List Char} (hu : u ∈ words) :
    ∀ {c : Cut} {n : Nat}, c.Leftmost words → StandsAt c.text u n → ¬ c.InGap n
  | .rest _, n, hc, hn, _ => hc u hu n hn
  | .token g w c, n, hc, hn, hgap => by
    rcases hgap with hlt | ⟨hle, hin⟩
    · exact absurd (hc.2.1 u hu n hn) (Nat.not_le.mpr hlt)
    · rw [text_token, ← List.append_assoc, standsAt_append_right (by simpa using hle),
        List.length_append] at hn
      exact hc.2.2.not_inGap hu hn hin

/-! ### Tokens of a cut -/

theorem Leftmost.standsAt {words : List (List Char)} {u : List Char} :
    ∀ {c : Cut} {n : Nat}, c.Leftmost words → c.HasAt u n → u ∈ words ∧ StandsAt c.text u n
  | .token g w c, n, hc, hn => by
    rcases hn with ⟨rfl, rfl⟩ | ⟨hle, hin⟩
    · refine ⟨hc.1, ?_⟩
      rw [text_token, standsAt_append_right (Nat.le_refl _), Nat.sub_self]
      exact List.prefix_append _ _
    · obtain ⟨hu, hst⟩ := hc.2.2.standsAt hin
      refine ⟨hu, ?_⟩
      rwa [text_token, ← List.append_assoc, standsAt_append_right (by simpa using hle),
        List.length_append]

theorem infix_filled_of_hasAt (value : List Char → List Char) {u : List Char} :
    ∀ {c : Cut} {n : Nat}, c.HasAt u n → value u <:+: c.filled value
  | .token g w c, n, h => by
    rw [filled]
    rcases h with ⟨-, rfl⟩ | ⟨-, h⟩
    · exact (List.prefix_append _ _).isInfix.trans (List.suffix_append g _).isInfix
    · refine (infix_filled_of_hasAt value h).trans ?_
      exact (List.suffix_append (value w) _).isInfix.trans (List.suffix_append g _).isInfix

/-- Every character is one of a gap or of a token. -/
theorem inGap_or_hasAt : ∀ {c : Cut} {n : Nat}, n < c.text.length →
    c.InGap n ∨ ∃ u m, c.HasAt u m ∧ m ≤ n ∧ n < m + u.length
  | .rest _, n, h => Or.inl h
  | .token g w c, n, h => by
    rw [text_token, List.length_append, List.length_append] at h
    rcases Nat.lt_or_ge n g.length with hlt | hge
    · exact Or.inl (Or.inl hlt)
    rcases Nat.lt_or_ge n (g.length + w.length) with hlt' | hge'
    · exact Or.inr ⟨w, g.length, Or.inl ⟨rfl, rfl⟩, hge, hlt'⟩
    rcases inGap_or_hasAt (c := c) (n := n - (g.length + w.length)) (by omega) with
      hin | ⟨u, m, hat, hle, hlt'⟩
    · exact Or.inl (Or.inr ⟨hge', hin⟩)
    · refine Or.inr ⟨u, g.length + w.length + m, Or.inr ⟨Nat.le_add_right _ _, ?_⟩, ?_, ?_⟩
      · rwa [Nat.add_sub_cancel_left]
      · omega
      · omega

end Cut

/-! ### The cut of a text -/

/-- Cuts the characters from left to right. The first of the words that stands at a
position is a token there; `skip` characters are still to be passed over. -/
def cutFrom (words : List (List Char)) : (skip : Nat) → List Char → Cut
  | _, [] => .rest []
  | skip + 1, _ :: cs => cutFrom words skip cs
  | 0, c :: cs =>
    match words.find? fun w => w.isPrefixOf (c :: cs) with
    | some w => .token [] w (cutFrom words (w.length - 1) cs)
    | none => (cutFrom words 0 cs).cons c

/-- Going through the characters fills their cut. -/
theorem scan_eq_filled (words : List (List Char)) (value : List Char → List Char) (n : Nat)
    (cs : List Char) : scan words value n cs = (cutFrom words n cs).filled value := by
  fun_induction cutFrom words n cs with
  | case1 => simp [scan, Cut.filled]
  | case2 skip c cs ih => rw [scan, ih]
  | case3 c cs w hw ih => simp only [scan, hw, Cut.filled, List.nil_append, ih]
  | case4 c cs hw ih => simp only [scan, hw, Cut.filled_cons, ih]

theorem text_cutFrom {words : List (List Char)} (hs : Separate words) (n : Nat) (cs : List Char) :
    (cutFrom words n cs).text = cs.drop n := by
  fun_induction cutFrom words n cs with
  | case1 => simp
  | case2 skip c cs ih => rw [ih, List.drop_succ_cons]
  | case3 c cs w hw ih =>
    have hpre : w <+: c :: cs := by simpa using List.find?_some hw
    obtain ⟨y, w', rfl⟩ := List.exists_cons_of_ne_nil (hs.ne_nil w (List.mem_of_find?_eq_some hw))
    obtain ⟨r, hr⟩ := hpre
    rw [List.cons_append, List.cons.injEq] at hr
    obtain ⟨rfl, rfl⟩ := hr
    rw [Cut.text_token, ih, List.length_cons, Nat.add_sub_cancel, List.drop_left]
    rfl
  | case4 c cs hw ih => simp [ih]

/-- The cut of a text is leftmost. -/
theorem leftmost_cutFrom {words : List (List Char)} (hs : Separate words) (n : Nat)
    (cs : List Char) : (cutFrom words n cs).Leftmost words := by
  fun_induction cutFrom words n cs with
  | case1 =>
    intro u hu n hn
    exact hs.ne_nil u hu (List.prefix_nil.mp (List.drop_nil ▸ hn))
  | case2 skip c cs ih => exact ih
  | case3 c cs w hw ih =>
    exact ⟨List.mem_of_find?_eq_some hw, fun u hu n _ => Nat.zero_le n, ih⟩
  | case4 c cs hw ih =>
    refine ih.cons fun u hu hpre => ?_
    rw [text_cutFrom hs, List.drop_zero] at hpre
    exact absurd (List.isPrefixOf_iff_prefix.mpr hpre) (List.find?_eq_none.mp hw u hu)

/-- Going through a text fills its leftmost cut, in whatever order the words are tried. -/
theorem Cut.Leftmost.scan_eq {words : List (List Char)} (hs : Separate words) {c : Cut}
    (h : c.Leftmost words) (value : List Char → List Char) :
    scan words value 0 c.text = c.filled value := by
  have hc : cutFrom words 0 c.text = c :=
    (leftmost_cutFrom hs 0 c.text).unique hs h (text_cutFrom hs 0 c.text)
  rw [scan_eq_filled, hc]

/-- The scan depends on which words there are, and not on their order. -/
theorem scan_congr {words words' : List (List Char)} (hs : Separate words)
    (h : ∀ w, w ∈ words' ↔ w ∈ words) (value : List Char → List Char) (cs : List Char) :
    scan words value 0 cs = scan words' value 0 cs := by
  have htext := text_cutFrom hs 0 cs
  rw [List.drop_zero] at htext
  have hleft := (leftmost_cutFrom hs 0 cs).congr h
  rw [scan_eq_filled, ← hleft.scan_eq (hs.congr h), htext]

end SchemaDepot.Template
