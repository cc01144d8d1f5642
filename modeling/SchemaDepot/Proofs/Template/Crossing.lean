/-
# What stands across values

The filled text of a template consists of pieces: gaps that were copied from its text, and
between each two a value that was inserted. A stretch of characters lies within one piece or
has an edge of a value in its middle (`Cut.within_or_crosses`). No declared token stands in a
gap of the leftmost cut. So where no value holds a token, each one that stands in the filled
text has such an edge in its middle, and nothing else can be the reason for refusing values
that are texts without tokens (`tokens_stand_across`).

Two conditions exclude such tokens. The first is on the values: none is empty, and they have
no character in common with a token. The second is on the template: each token has its fence,
a character before it and one behind it that are in no token. Between fences the values are
free, and may be empty (`exists_outcome_iff_of_fenced`).

Key definitions: `Template.Cut.Piece`, `Template.Cut.Within`, `Template.Cut.Crosses`,
`Template.Cut.isFenced`.
Key theorems: `Template.Cut.within_or_crosses`, `Template.tokens_stand_across`,
`Template.exists_outcome_iff_of_fenced`.
-/
import SchemaDepot.Proofs.Template.Refusal

namespace SchemaDepot.Template

open Text

/-- Where a piece of a filled text is from. -/
inductive Origin
  /-- It is a gap of the text. -/
  | copied
  /-- It is the value of a token. -/
  | inserted

namespace Cut

/-- The pieces of a filling, each with the number of characters before it. -/
inductive Piece (value : List Char → List Char) : Cut → Origin → List Char → Nat → Prop
  | rest (g : List Char) : Piece value (.rest g) .copied g 0
  | gap (g w : List Char) (c : Cut) : Piece value (.token g w c) .copied g 0
  | value (g w : List Char) (c : Cut) : Piece value (.token g w c) .inserted (value w) g.length
  | after (g w : List Char) {c : Cut} {o : Origin} {p : List Char} {i : Nat}
      (h : Piece value c o p i) : Piece value (.token g w c) o p (g.length + (value w).length + i)

/-- The characters from the `n`-th to the `m`-th lie in one piece. -/
def Within (value : List Char → List Char) (c : Cut) (n m : Nat) : Prop :=
  ∃ o p i, Piece value c o p i ∧ i ≤ n ∧ m ≤ i + p.length

/-- A value begins or ends between the `n`-th and the `m`-th character, and not at either. -/
def Crosses (value : List Char → List Char) (c : Cut) (n m : Nat) : Prop :=
  ∃ p i, Piece value c .inserted p i ∧
    (n < i ∧ i < m ∨ n < i + p.length ∧ i + p.length < m)

variable {words words' : List (List Char)} {value : List Char → List Char} {c : Cut}
  {o : Origin} {p u : List Char} {i n m : Nat}

/-! ### Pieces -/

/-- Behind the first gap and the first value, positions are those of what follows. -/
theorem standsAt_filled_after (g w : List Char) :
    StandsAt ((token g w c).filled value) u (g.length + (value w).length + n) ↔
      StandsAt (c.filled value) u n := by
  rw [filled, ← List.append_assoc, standsAt_append_right (by simp), List.length_append,
    Nat.add_sub_cancel_left]

theorem Piece.standsAt (h : Piece value c o p i) : StandsAt (c.filled value) p i := by
  induction h with
  | rest g => exact List.prefix_rfl
  | gap g w c => exact List.prefix_append g _
  | value g w c =>
    rw [filled, standsAt_append_right (Nat.le_refl _), Nat.sub_self]
    exact List.prefix_append (value w) _
  | after g w h ih => exact (standsAt_filled_after g w).mpr ih

/-- A stretch of a filling that is not within one piece has an edge of a value in its
middle. -/
theorem within_or_crosses : ∀ {c : Cut} {n m : Nat}, m ≤ (c.filled value).length →
    c.Within value n m ∨ c.Crosses value n m
  | .rest g, n, m, hm => Or.inl ⟨_, _, _, .rest g, Nat.zero_le n, by rwa [Nat.zero_add]⟩
  | .token g w c, n, m, hm => by
    rcases Nat.lt_or_ge g.length m with hgap | hgap
    case inr => exact Or.inl ⟨_, _, _, .gap g w c, Nat.zero_le n, by rwa [Nat.zero_add]⟩
    rcases Nat.lt_or_ge n g.length with hbefore | hbefore
    case inl => exact Or.inr ⟨_, _, .value g w c, Or.inl ⟨hbefore, hgap⟩⟩
    rcases Nat.lt_or_ge (g.length + (value w).length) m with hvalue | hvalue
    case inr => exact Or.inl ⟨_, _, _, .value g w c, hbefore, hvalue⟩
    rcases Nat.lt_or_ge n (g.length + (value w).length) with hinside | hinside
    case inl => exact Or.inr ⟨_, _, .value g w c, Or.inr ⟨hinside, hvalue⟩⟩
    -- the stretch lies behind the first value
    rw [filled, List.length_append, List.length_append] at hm
    have hafter : m - (g.length + (value w).length) ≤ (c.filled value).length := by omega
    rcases within_or_crosses (n := n - (g.length + (value w).length)) hafter with
      ⟨o, p, i, hp, hn, hm'⟩ | ⟨p, i, hp, hedge⟩
    · exact Or.inl ⟨o, p, _, .after g w hp, by omega, by omega⟩
    · exact Or.inr ⟨p, _, .after g w hp, by omega⟩

theorem Piece.exists_word (h : Piece value c o p i) (ho : o = .inserted) (hc : c.Leftmost words) :
    ∃ w ∈ words, p = value w := by
  induction h with
  | rest g => cases ho
  | gap g w c => cases ho
  | value g w c => exact ⟨w, hc.1, rfl⟩
  | after g w h ih => exact ih ho hc.2.2

theorem Piece.not_infix_gap (h : Piece value c o p i) (ho : o = .copied) (hs : Separate words)
    (hc : c.Leftmost words) (hu : u ∈ words) : ¬ u <:+: p := by
  induction h with
  | rest g =>
    intro hin
    obtain ⟨n, hn⟩ := infix_iff_standsAt.mp hin
    exact hc u hu n hn
  | gap g w c =>
    intro hin
    obtain ⟨n, hn⟩ := infix_iff_standsAt.mp hin
    have hpos := List.length_pos_iff.mpr (hs.ne_nil u hu)
    have hle := hn.le_length (hs.ne_nil u hu)
    have hwhole : StandsAt (g ++ (w ++ c.text)) u n := by
      rw [standsAt_append_left (by omega)]
      exact hn.trans (List.prefix_append _ _)
    have := hc.2.1 u hu n hwhole
    omega
  | value g w c => cases ho
  | after g w h ih => exact ih ho hc.2.2

/-! ### Words across values -/

/-- No word stands within a piece, if it is in no value. -/
theorem Leftmost.not_within (hs : Separate words) (hc : c.Leftmost words)
    (hvalue : ∀ w ∈ words, ¬ u <:+: value w) (hu : u ∈ words)
    (hn : StandsAt (c.filled value) u n) : ¬ c.Within value n (n + u.length) := by
  rintro ⟨o, p, i, hp, hle, hle'⟩
  have hin : u <:+: p := (hp.standsAt.of_within hn hle hle').isInfix
  cases o with
  | copied => exact hp.not_infix_gap rfl hs hc hu hin
  | inserted =>
    obtain ⟨w, hw, rfl⟩ := hp.exists_word rfl hc
    exact hvalue w hw hin

/-- A word that is in no value stands across the edge of one. -/
theorem Leftmost.crosses (hs : Separate words) (hc : c.Leftmost words)
    (hvalue : ∀ w ∈ words, ¬ u <:+: value w) (hu : u ∈ words)
    (hn : StandsAt (c.filled value) u n) : c.Crosses value n (n + u.length) :=
  (within_or_crosses (hn.le_length (hs.ne_nil u hu))).resolve_left
    (hc.not_within hs hvalue hu hn)

/-- A word that has no character in common with the values, of which none is empty, stands
nowhere in the filling. -/
theorem Leftmost.not_standsAt_of_apart (hs : Separate words) (hc : c.Leftmost words)
    (hne : ∀ w ∈ words, value w ≠ []) (hapart : ∀ w ∈ words, ∀ x ∈ value w, x ∉ u)
    (hu : u ∈ words) : ¬ StandsAt (c.filled value) u n := by
  intro hn
  have hvalue : ∀ w ∈ words, ¬ u <:+: value w := by
    intro w hw hin
    obtain ⟨x, hx⟩ := List.exists_mem_of_ne_nil u (hs.ne_nil u hu)
    exact hapart w hw x (hin.subset hx) hx
  obtain ⟨p, i, hp, hedge⟩ := hc.crosses hs hvalue hu hn
  obtain ⟨w, hw, rfl⟩ := hp.exists_word rfl hc
  have hpos := List.length_pos_iff.mpr (hne w hw)
  -- the first or the last character of the value is one of the word
  have hshared : ∃ x ∈ value w, x ∈ u := by
    rcases hedge with ⟨hlt, hlt'⟩ | ⟨hlt, hlt'⟩
    · exact hp.standsAt.exists_mem_both hn (k := i) (by omega) (by omega)
    · exact hp.standsAt.exists_mem_both hn (k := i + (value w).length - 1) (by omega) (by omega)
  obtain ⟨x, hx, hxu⟩ := hshared
  exact hapart w hw x hx hxu

/-! ### Fences -/

/-- The character is in none of the words. -/
def isClear (words : List (List Char)) (x : Char) : Bool := words.all fun w => !w.contains x

/-- What follows a token begins with a character that is in no word, or there is nothing. -/
def isFencedBefore (words : List (List Char)) : Cut → Bool
  | .rest g => g.head?.all (isClear words)
  | .token g _ _ => g.head?.any (isClear words)

/-- Before each token is a character that is in no word, and so is behind it, up to the end
of the text. -/
def isFenced (words : List (List Char)) : Cut → Bool
  | .rest _ => true
  | .token g _ c => g.getLast?.any (isClear words) && c.isFencedBefore words && c.isFenced words

theorem not_mem_of_isClear {x : Char} (hx : isClear words x = true) (hu : u ∈ words) : x ∉ u := by
  have h := List.all_eq_true.mp hx u hu
  simpa using h

theorem isClear_congr (h : ∀ w, w ∈ words' ↔ w ∈ words) (x : Char) :
    isClear words' x = isClear words x := by
  rw [Bool.eq_iff_iff, isClear, isClear, List.all_eq_true, List.all_eq_true]
  exact forall_congr' fun w => by rw [h w]

theorem isFenced_congr (h : ∀ w, w ∈ words' ↔ w ∈ words) :
    ∀ c : Cut, c.isFenced words' = c.isFenced words
  | .rest _ => rfl
  | .token g w c => by
    have hclear : isClear words' = isClear words := funext (isClear_congr h)
    have hbefore : c.isFencedBefore words' = c.isFencedBefore words := by
      cases c <;> simp only [isFencedBefore, hclear]
    rw [isFenced, isFenced, hclear, hbefore, isFenced_congr h c]

theorem exists_clear_of_isFencedBefore (hc : c.isFencedBefore words = true)
    (hne : c.filled value ≠ []) :
    ∃ x, isClear words x = true ∧ StandsAt (c.filled value) [x] 0 := by
  cases c with
  | rest g =>
    obtain ⟨x, g, rfl⟩ := List.exists_cons_of_ne_nil hne
    exact ⟨x, hc, List.prefix_append [x] g⟩
  | token g w c =>
    cases g with
    | nil => cases hc
    | cons x g => exact ⟨x, hc, List.prefix_append [x] _⟩

theorem exists_clear_of_getLast? {g : List Char} (hg : g.getLast?.any (isClear words) = true)
    (cs : List Char) :
    ∃ x k, isClear words x = true ∧ g.length = k + 1 ∧ StandsAt (g ++ cs) [x] k := by
  cases hlast : g.getLast? with
  | none =>
    rw [hlast] at hg
    cases hg
  | some x =>
    rw [hlast] at hg
    obtain ⟨g, rfl⟩ := List.getLast?_eq_some_iff.mp hlast
    refine ⟨x, g.length, hg, by simp, ?_⟩
    rw [List.append_assoc, standsAt_append_right (Nat.le_refl _), Nat.sub_self]
    exact List.prefix_append [x] cs

/-- The characters of the fence of a value stand around it. -/
theorem Piece.fenced (h : Piece value c o p i) (ho : o = .inserted)
    (hc : c.isFenced words = true) :
    (∃ x k, isClear words x = true ∧ i = k + 1 ∧ StandsAt (c.filled value) [x] k) ∧
    (i + p.length < (c.filled value).length →
      ∃ x, isClear words x = true ∧ StandsAt (c.filled value) [x] (i + p.length)) := by
  induction h with
  | rest g => cases ho
  | gap g w c => cases ho
  | value g w c =>
    simp only [isFenced, Bool.and_eq_true] at hc
    refine ⟨exists_clear_of_getLast? hc.1.1 _, fun hlt => ?_⟩
    have hne : c.filled value ≠ [] := by
      intro hnil
      simp [filled, hnil] at hlt
    obtain ⟨x, hx, hst⟩ := exists_clear_of_isFencedBefore hc.1.2 hne
    exact ⟨x, hx, (standsAt_filled_after (n := 0) g w).mpr hst⟩
  | after g w h ih =>
    simp only [isFenced, Bool.and_eq_true] at hc
    obtain ⟨⟨x, k, hx, rfl, hst⟩, hbehind⟩ := ih ho hc.2
    refine ⟨⟨x, _, hx, rfl, (standsAt_filled_after g w).mpr hst⟩, fun hlt => ?_⟩
    rw [filled, List.length_append, List.length_append] at hlt
    obtain ⟨y, hy, hst'⟩ := hbehind (by omega)
    rw [Nat.add_assoc]
    exact ⟨y, hy, (standsAt_filled_after g w).mpr hst'⟩

/-- A word that is in no value stands nowhere in the filling of a fenced cut. -/
theorem Leftmost.not_standsAt_of_fenced (hs : Separate words) (hc : c.Leftmost words)
    (hf : c.isFenced words = true) (hvalue : ∀ w ∈ words, ¬ u <:+: value w) (hu : u ∈ words) :
    ¬ StandsAt (c.filled value) u n := by
  intro hn
  obtain ⟨p, i, hp, hedge⟩ := hc.crosses hs hvalue hu hn
  have hle := hn.le_length (hs.ne_nil u hu)
  obtain ⟨⟨x, k, hx, rfl, hbefore⟩, hbehind⟩ := hp.fenced rfl hf
  -- one of the two characters would be of the word
  rcases hedge with ⟨hlt, hlt'⟩ | ⟨hlt, hlt'⟩
  · obtain ⟨y, hy, hyu⟩ := hbefore.exists_mem_both hn (k := k) (by simp) (by omega)
    rw [List.mem_singleton] at hy
    exact not_mem_of_isClear hx hu (hy ▸ hyu)
  · obtain ⟨x, hx, hafter⟩ := hbehind (by omega)
    obtain ⟨y, hy, hyu⟩ := hafter.exists_mem_both hn (k := k + 1 + p.length) (by simp) (by omega)
    rw [List.mem_singleton] at hy
    exact not_mem_of_isClear hx hu (hy ▸ hyu)

end Cut

/-! ### Tokens across values -/

/-- The values of tokens by their characters. -/
def charsOf (value : String → String) (w : List Char) : List Char :=
  (value (String.ofList w)).toList

section

variable {t : Template} {given : Substitutions} {value : String → String} {strict : Bool}

theorem complete_of_texts (hgiven : ∀ x ∈ t.tokens, given.get? x = some (.text (value x))) :
    ∀ x ∈ t.tokens, x ∈ given.keys :=
  fun x hx => Listing.mem_keys_of_get? (hgiven x hx)

/-- Where texts are given for the tokens, exactly those are fit that hold no token. -/
theorem not_unfit_iff_of_texts (hgiven : ∀ x ∈ t.tokens, given.get? x = some (.text (value x)))
    {x : String} (hx : x ∈ t.tokens) :
    ¬ t.Unfit given x ↔ ∀ y ∈ t.tokens, contains (value x) y = false := by
  rw [not_unfit_iff (complete_of_texts hgiven x hx), hgiven x hx]
  simp only [Option.some.injEq, Value.text.injEq, exists_eq_left', holdsToken_eq_false_iff]

theorem not_infix_charsOf (hclean : ∀ x ∈ t.tokens, ∀ y ∈ t.tokens, contains (value x) y = false)
    {u : List Char} (hu : u ∈ wordsOf t.tokens) :
    ∀ w ∈ wordsOf t.tokens, ¬ u <:+: charsOf value w := by
  intro w hw
  have hout := hclean _ (mem_wordsOf.mp hw) _ (mem_wordsOf.mp hu)
  rw [contains_eq_false_iff, String.toList_ofList] at hout
  exact hout

/-- Fit texts for the tokens are refused for tokens that stand in the filled text, and for
nothing else. -/
theorem exists_names_of_outcome (hgiven : ∀ x ∈ t.tokens, given.get? x = some (.text (value x)))
    (hclean : ∀ x ∈ t.tokens, ∀ y ∈ t.tokens, contains (value x) y = false)
    (hadmits : t.Admits given strict) {e : Error} (h : t.outcome given strict = .error e) :
    ∃ names, e = .substitution .invalid t.name names ∧ (∃ x, x ∈ names) ∧
      ∀ x, x ∈ names ↔ x ∈ t.tokens ∧ contains (t.filled given) x = true := by
  rcases outcome_eq_error_iff.mp h with ⟨hnames, x, hx⟩ | ⟨-, hstrict, hnames, x, hx⟩ |
    ⟨-, hnames, x, hx⟩ | ⟨-, -, hfills, hnames, hsome⟩
  · have hmissing := (hnames x).mp hx
    exact absurd (hadmits.complete x hmissing.1) hmissing.2
  · have hundeclared := (hnames x).mp hx
    exact absurd (hadmits.declared hstrict x hundeclared.1) hundeclared.2
  · have hunfit := (hnames x).mp hx
    exact absurd hunfit.2 ((not_unfit_iff_of_texts hgiven hunfit.1).mpr (hclean x hunfit.1))
  · obtain rfl := (fills_iff fun x hx => ⟨_, hgiven x hx⟩).mp hfills
    exact ⟨_, rfl, hsome, hnames⟩

theorem outcome_eq_ok_of_not_standsAt
    (hgiven : ∀ x ∈ t.tokens, given.get? x = some (.text (value x)))
    (hclean : ∀ x ∈ t.tokens, ∀ y ∈ t.tokens, contains (value x) y = false)
    (hadmits : t.Admits given strict)
    (hout : ∀ w ∈ wordsOf t.tokens, ∀ n, ¬ StandsAt (t.cut.filled (charsOf value)) w n) :
    t.outcome given strict = .ok (t.filled given) := by
  refine outcome_eq_ok_iff_fills.mpr ⟨hadmits, fun x hx =>
    (not_unfit_iff_of_texts hgiven hx).mpr (hclean x hx),
    (fills_iff fun x hx => ⟨_, hgiven x hx⟩).mpr rfl, fun x hx => ?_⟩
  rw [contains_eq_false_iff, infix_iff_standsAt, toList_filled hgiven]
  rintro ⟨n, hn⟩
  exact hout _ (toList_mem_wordsOf.mpr hx) n hn

/-- Whether a template is fenced can be seen with its tokens in any order. -/
theorem isFenced_cut {words : List (List Char)} (h : ∀ w, w ∈ words ↔ w ∈ wordsOf t.tokens)
    (hf : (cutFrom words 0 t.text.toList).isFenced words = true) :
    t.cut.isFenced (wordsOf t.tokens) = true := by
  have hs : Separate words := t.admissible.separate.congr h
  have hcut : t.IsCut (cutFrom words 0 t.text.toList) :=
    ⟨by rw [text_cutFrom hs, List.drop_zero],
      (leftmost_cutFrom hs 0 _).congr fun w => (h w).symm⟩
  rw [← hcut.eq_cut, ← Cut.isFenced_congr h, hf]

/-- Fenced templates render all texts that hold no token, and no others. -/
theorem exists_outcome_iff_of_fenced (hf : t.cut.isFenced (wordsOf t.tokens) = true)
    (hadmits : t.Admits given strict)
    (hgiven : ∀ x ∈ t.tokens, given.get? x = some (.text (value x))) :
    (∃ r, t.outcome given strict = .ok r) ↔
      ∀ x ∈ t.tokens, ∀ y ∈ t.tokens, contains (value x) y = false := by
  constructor
  · rintro ⟨r, hr⟩ x hx
    exact (not_unfit_iff_of_texts hgiven hx).mp ((outcome_eq_ok_iff_fills.mp hr).2.1 x hx)
  · intro hclean
    refine ⟨_, outcome_eq_ok_of_not_standsAt hgiven hclean hadmits fun w hw n => ?_⟩
    exact t.isCut_cut.leftmost.not_standsAt_of_fenced t.admissible.separate hf
      (not_infix_charsOf hclean hw) hw

end

/-- **What is left over.** Where the values are texts that hold no declared token, every
token that stands in the filled text has the edge of a value in its middle and is in no single
value and in no single gap; and such tokens are the only reason for a refusal. There are none
if no value is empty or has a character in common with a token. -/
theorem tokens_stand_across (t : Template) (given : Substitutions) (value : String → String)
    (hgiven : ∀ x ∈ t.tokens, given.get? x = some (.text (value x)))
    (hclean : ∀ x ∈ t.tokens, ∀ y ∈ t.tokens, contains (value x) y = false) :
    ∃ c : Cut, t.IsCut c ∧ (t.filled given).toList = c.filled (charsOf value) ∧
      (∀ x ∈ t.tokens, ∀ n, StandsAt (t.filled given).toList x.toList n →
        c.Crosses (charsOf value) n (n + x.toList.length) ∧
        ¬ c.Within (charsOf value) n (n + x.toList.length)) ∧
      (∀ e, (t.render given false).outcome = .error e →
        ∃ names, e = .substitution .invalid t.name names ∧ (∃ x, x ∈ names) ∧
          ∀ x, x ∈ names ↔ x ∈ t.tokens ∧ contains (t.filled given) x = true) ∧
      ((∀ x ∈ t.tokens, value x ≠ "" ∧ ∀ y ∈ t.tokens, ∀ a ∈ (value x).toList, a ∉ y.toList) →
        (t.render given false).outcome = .ok (t.filled given)) := by
  have hs := t.admissible.separate
  have hc := t.isCut_cut.leftmost
  have hadmits : t.Admits given false :=
    ⟨complete_of_texts hgiven, fun h => absurd h Bool.false_ne_true⟩
  have hfilled : (t.filled given).toList = t.cut.filled (charsOf value) := toList_filled hgiven
  refine ⟨t.cut, t.isCut_cut, hfilled, fun x hx n hn => ?_,
    fun e => exists_names_of_outcome hgiven hclean hadmits, fun hapart => ?_⟩
  · have hw := toList_mem_wordsOf.mpr hx
    rw [hfilled] at hn
    exact ⟨hc.crosses hs (not_infix_charsOf hclean hw) hw hn,
      hc.not_within hs (not_infix_charsOf hclean hw) hw hn⟩
  · refine outcome_eq_ok_of_not_standsAt hgiven hclean hadmits fun w hw n => ?_
    refine hc.not_standsAt_of_apart hs (fun v hv hnil => ?_) (fun v hv a ha haw => ?_) hw
    · exact (hapart _ (mem_wordsOf.mp hv)).1 (String.toList_eq_nil_iff.mp hnil)
    · refine (hapart _ (mem_wordsOf.mp hv)).2 _ (mem_wordsOf.mp hw) a ha ?_
      rwa [String.toList_ofList]

/-- A text for each of two tokens, and the empty one for all other names. -/
def pairing (first second : String) (x : String) : String :=
  if x = "a.a" then first else if x = "\\1" then second else ""

/-- The values of `pairing` for the tokens of `echo`. -/
def paired (first second : String) : Substitutions :=
  .ofList [("a.a", .text first), ("\\1", .text second)]

theorem get?_paired (first second : String) :
    ∀ x ∈ echo.tokens, (paired first second).get? x = some (.text (pairing first second x)) := by
  intro x hx
  rcases List.mem_pair.mp (TextSet.mem_ofList.mp hx) with rfl | rfl
  · rfl
  · rfl

/-- A part of a token forms the whole with the gap behind it, and an empty value does not
keep it apart from what comes next. Values without a dot, a letter `a` or a digit cannot. -/
theorem tokens_stand_across_echo :
    (∀ x ∈ echo.tokens, ∀ y ∈ echo.tokens, contains (pairing "a" "" x) y = false) ∧
    (echo.filled (paired "a" "")).toList = "a.a!".toList ∧
    echo.cut.Crosses (charsOf (pairing "a" "")) 0 3 ∧
    (echo.render (paired "x" "y") false).outcome = .ok (echo.filled (paired "x" "y")) := by
  have hclean : ∀ first second : String,
      (∀ v ∈ [first, second], ∀ y ∈ ["a.a", "\\1"], contains v y = false) →
        ∀ x ∈ echo.tokens, ∀ y ∈ echo.tokens, contains (pairing first second x) y = false := by
    intro first second h x hx y hy
    refine h _ ?_ y (TextSet.mem_ofList.mp hy)
    rcases List.mem_pair.mp (TextSet.mem_ofList.mp hx) with rfl | rfl
    · exact List.mem_cons_self
    · exact List.mem_cons_of_mem _ List.mem_cons_self
  have hfilled : (echo.filled (paired "a" "")).toList = "a.a!".toList :=
    (toList_filled_eq_scan _ _).trans (by decide)
  refine ⟨hclean _ _ (by decide), hfilled, ?_, ?_⟩
  · obtain ⟨c, hc, -, hacross, -⟩ := tokens_stand_across echo _ _ (get?_paired "a" "")
      (hclean _ _ (by decide))
    rw [← hc.eq_cut]
    refine (hacross "a.a" (TextSet.mem_ofList.mpr List.mem_cons_self) 0 ?_).1
    rw [hfilled]
    decide
  · obtain ⟨-, -, -, -, -, hok⟩ := tokens_stand_across echo _ _ (get?_paired "x" "y")
      (hclean _ _ (by decide))
    refine hok fun x hx => ?_
    rcases List.mem_pair.mp (TextSet.mem_ofList.mp hx) with rfl | rfl
    · refine ⟨by decide, fun y hy a ha => ?_⟩
      obtain rfl : a = 'x' := by simpa [pairing] using ha
      rcases List.mem_pair.mp (TextSet.mem_ofList.mp hy) with rfl | rfl <;> decide
    · refine ⟨by decide, fun y hy a ha => ?_⟩
      obtain rfl : a = 'y' := by simpa [pairing] using ha
      rcases List.mem_pair.mp (TextSet.mem_ofList.mp hy) with rfl | rfl <;> decide

end SchemaDepot.Template
