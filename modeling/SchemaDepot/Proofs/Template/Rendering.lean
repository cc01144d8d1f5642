/-
# What rendering yields

Rendering fills the leftmost cut of the text at the declared tokens: the gaps stay,
and in the place of each token its value is put as it is. It yields a text only if
every token has a value that holds no declared token and none stands in the result
(`outcome_eq_ok_iff`). So whatever a mapping gives, a rendered text is the one
filling of the one leftmost cut, and no declared token stands in it
(`rendered_eq_filled`).

Key definitions: `Template.wordsOf`, `Template.cut`, `Template.IsCut`.
Key theorems: `Template.Admissible.separate`, `Template.toList_filled`,
`Template.outcome_eq_ok_iff`, `Template.rendered_eq_filled`.
-/
import SchemaDepot.Proofs.Listing
import SchemaDepot.Proofs.Outcome
import SchemaDepot.Proofs.Template.Cut
import SchemaDepot.Proofs.TextSet

namespace SchemaDepot

namespace Text

theorem toList_ne_nil_of_not_blank {s : String} (h : isBlank s = false) : s.toList ≠ [] := by
  intro hnil
  unfold isBlank at h
  rw [hnil] at h
  cases h

theorem contains_eq_true_iff {whole part : String} :
    contains whole part = true ↔ part.toList <:+: whole.toList :=
  occurs_iff_infix

theorem contains_eq_false_iff {whole part : String} :
    contains whole part = false ↔ ¬ part.toList <:+: whole.toList := by
  rw [← contains_eq_true_iff, Bool.not_eq_true]

end Text

namespace Template

open Text

/-! ### The words that are looked for -/

/-- The tokens by their characters, in the order they are tried. -/
def wordsOf (tokens : TextSet) : List (List Char) := (longestFirst tokens).map String.toList

theorem mem_longestFirst {tokens : TextSet} {x : String} :
    x ∈ longestFirst tokens ↔ x ∈ tokens :=
  List.mem_mergeSort

theorem mem_wordsOf {tokens : TextSet} {w : List Char} :
    w ∈ wordsOf tokens ↔ String.ofList w ∈ tokens := by
  unfold wordsOf
  rw [List.mem_map]
  constructor
  · rintro ⟨x, hx, rfl⟩
    rwa [String.ofList_toList, ← mem_longestFirst]
  · intro h
    exact ⟨String.ofList w, mem_longestFirst.mpr h, String.toList_ofList⟩

@[simp] theorem toList_mem_wordsOf {tokens : TextSet} {x : String} :
    x.toList ∈ wordsOf tokens ↔ x ∈ tokens := by
  rw [mem_wordsOf, String.ofList_toList]

theorem mem_wordsOf_ofList {xs : List String} {w : List Char} :
    w ∈ wordsOf (.ofList xs) ↔ w ∈ xs.map String.toList := by
  rw [mem_wordsOf, TextSet.mem_ofList, List.mem_map]
  constructor
  · intro h
    exact ⟨_, h, String.toList_ofList⟩
  · rintro ⟨x, hx, rfl⟩
    rwa [String.ofList_toList]

/-- The words of admissible tokens are separate. -/
theorem Admissible.separate {text : String} {tokens : TextSet} (h : Admissible text tokens) :
    Separate (wordsOf tokens) where
  ne_nil w hw := by
    have hb := h.token_not_blank _ (mem_wordsOf.mp hw)
    simpa using toList_ne_nil_of_not_blank hb
  eq_of_infix w hw u hu hin := by
    refine Decidable.byContradiction fun hne => ?_
    have hne' : String.ofList u ≠ String.ofList w := fun e =>
      hne (String.ofList_injective e).symm
    have hnot := h.token_not_within _ (mem_wordsOf.mp hw) _ (mem_wordsOf.mp hu) hne'
    rw [contains_eq_false_iff, String.toList_ofList, String.toList_ofList] at hnot
    exact hnot hin

/-! ### The cut of a template -/

/-- The cut is the leftmost one of the text at the declared tokens. -/
structure IsCut (t : Template) (c : Cut) : Prop where
  text_eq : c.text = t.text.toList
  leftmost : c.Leftmost (wordsOf t.tokens)

/-- The leftmost cut of the text at the declared tokens. -/
def cut (t : Template) : Cut := cutFrom (wordsOf t.tokens) 0 t.text.toList

theorem isCut_cut (t : Template) : t.IsCut t.cut where
  text_eq := by rw [cut, text_cutFrom t.admissible.separate, List.drop_zero]
  leftmost := leftmost_cutFrom t.admissible.separate 0 _

theorem IsCut.eq_cut {t : Template} {c : Cut} (h : t.IsCut c) : c = t.cut :=
  h.leftmost.unique t.admissible.separate t.isCut_cut.leftmost
    (h.text_eq.trans t.isCut_cut.text_eq.symm)

/-- Substituting is filling the cut. -/
theorem toList_substitute (t : Template) (value : String → String) :
    (t.substitute value).toList = t.cut.filled fun w => (value (String.ofList w)).toList := by
  rw [substitute, String.toList_ofList, scan_eq_filled]
  rfl

/-- Values enter a filling only where they stand for a word. -/
theorem Cut.Leftmost.filled_congr {words : List (List Char)} {f g : List Char → List Char}
    (hfg : ∀ w ∈ words, f w = g w) : ∀ {c : Cut}, c.Leftmost words → c.filled f = c.filled g
  | .rest _, _ => rfl
  | .token _ w c, h => by
    rw [Cut.filled, Cut.filled, hfg w h.1, filled_congr hfg h.2.2]

/-- Filling with given texts is filling the cut with them. -/
theorem toList_filled {t : Template} {given : Substitutions} {value : String → String}
    (h : ∀ x ∈ t.tokens, given.get? x = some (.text (value x))) :
    (t.filled given).toList = t.cut.filled fun w => (value (String.ofList w)).toList := by
  rw [filled, toList_substitute]
  refine t.isCut_cut.leftmost.filled_congr fun w hw => ?_
  rw [textFor?, h _ (mem_wordsOf.mp hw)]
  rfl

/-- The tokens may as well be tried in the order in which they are listed. -/
theorem toList_filled_eq_scan (t : Template) (given : Substitutions) :
    (t.filled given).toList = scan (t.tokens.toList.map String.toList)
      (fun w => ((textFor? given (String.ofList w)).getD "").toList) 0 t.text.toList := by
  rw [filled, substitute, String.toList_ofList]
  refine scan_congr t.admissible.separate (fun w => ?_) _ _
  rw [mem_wordsOf, List.mem_map]
  constructor
  · rintro ⟨x, hx, rfl⟩
    rwa [String.ofList_toList]
  · intro h
    exact ⟨_, h, String.toList_ofList⟩

/-! ### When a text is rendered -/

theorem isEmpty_leftover_iff {t : Template} {s : String} :
    (t.leftover s).isEmpty = true ↔ ∀ x ∈ t.tokens, contains s x = false :=
  TextSet.isEmpty_filter_iff

theorem isEmpty_invalid_iff {t : Template} {given : Substitutions} :
    (t.invalid given).isEmpty = true ↔
      ∀ x ∈ t.tokens, ∃ s, given.get? x = some (.text s) ∧ t.holdsToken s = false := by
  unfold invalid
  rw [TextSet.isEmpty_filter_iff]
  refine forall₂_congr fun x _ => ?_
  unfold textFor?
  cases given.get? x with
  | none => simp
  | some v => cases v <;> simp

theorem isEmpty_missing_of_invalid {t : Template} {given : Substitutions}
    (h : (t.invalid given).isEmpty = true) : (t.missing given).isEmpty = true := by
  unfold missing
  rw [TextSet.isEmpty_filter_iff]
  intro x hx
  obtain ⟨s, hs, -⟩ := isEmpty_invalid_iff.mp h x hx
  rw [Bool.not_eq_false', Listing.has_eq_true_iff]
  exact ⟨_, hs⟩

/-- A text is rendered exactly when every declared token has a text that holds none,
no other name is given where that counts, and no token stands in the filled text. -/
theorem outcome_eq_ok_iff {t : Template} {given : Substitutions} {strict : Bool} {r : String} :
    t.outcome given strict = .ok r ↔
      (∀ x ∈ t.tokens, ∃ s, given.get? x = some (.text s) ∧ t.holdsToken s = false) ∧
      (strict = true → (t.undeclared given).isEmpty = true) ∧
      (∀ x ∈ t.tokens, contains (t.filled given) x = false) ∧ t.filled given = r := by
  rw [← isEmpty_invalid_iff, ← isEmpty_leftover_iff]
  unfold outcome
  simp only [Outcome.refuse_eq_ok_iff, Except.ok.injEq]
  constructor
  · rintro ⟨-, hdeclared, hinvalid, hleft, hr⟩
    exact ⟨by simpa using hinvalid, by simpa using hdeclared, by simpa using hleft, hr⟩
  · rintro ⟨hinvalid, hdeclared, hleft, hr⟩
    have hmissing := isEmpty_missing_of_invalid hinvalid
    exact ⟨by simp [hmissing], by simpa using hdeclared, by simp [hinvalid], by simp [hleft], hr⟩

/-- What is rendered, computed with the tokens as they are listed. -/
theorem outcome_eq_ok_of_scan {t : Template} {given : Substitutions} {strict : Bool} {r : String}
    (hvalid : (t.invalid given).isEmpty = true)
    (hdeclared : strict = true → (t.undeclared given).isEmpty = true)
    (hscan : scan (t.tokens.toList.map String.toList)
      (fun w => ((textFor? given (String.ofList w)).getD "").toList) 0 t.text.toList = r.toList)
    (hleft : (t.leftover r).isEmpty = true) : t.outcome given strict = .ok r := by
  have hr : t.filled given = r := String.toList_injective ((t.toList_filled_eq_scan given).trans hscan)
  refine outcome_eq_ok_iff.mpr ⟨isEmpty_invalid_iff.mp hvalid, hdeclared, ?_, hr⟩
  rw [hr]
  exact isEmpty_leftover_iff.mp hleft

/-- What is given for the declared tokens of a text that is rendered are texts. -/
theorem exists_value_of_outcome {t : Template} {given : Substitutions} {strict : Bool}
    {r : String} (h : t.outcome given strict = .ok r) :
    ∃ value : String → String, ∀ x ∈ t.tokens, given.get? x = some (.text (value x)) := by
  refine ⟨fun x => (textFor? given x).getD "", fun x hx => ?_⟩
  obtain ⟨s, hs, -⟩ := (outcome_eq_ok_iff.mp h).1 x hx
  simp only [textFor?, hs, Option.getD_some]

/-! ### Mappings -/

theorem eq_of_substitution? {e : Value × Value} {p : String × Value}
    (h : substitution? e = some p) : e = (.text p.1, p.2) := by
  obtain ⟨k, v⟩ := e
  cases k <;> cases h
  rfl

/-- A text that a mapping is rendered to is rendered from some of its entries. -/
theorem exists_outcome_of_renderValue {t : Template} {entries : List (Value × Value)}
    {strict : Bool} {r : String} (h : (t.renderValue (.map entries) strict).outcome = .ok r) :
    ∃ given : Substitutions, t.outcome given strict = .ok r ∧
      ∀ x v, given.get? x = some v → (Value.text x, v) ∈ entries := by
  unfold renderValue at h
  cases hs : substitutionsOf? entries with
  | some subs =>
    simp only [hs] at h
    refine ⟨subs, h, fun x v hget => ?_⟩
    obtain ⟨es, hes, rfl⟩ := Option.map_eq_some_iff.mp hs
    obtain ⟨e, he, hee⟩ := Outcome.exists_of_mem_mapM_option hes _ (Listing.mem_of_get?_ofList hget)
    exact eq_of_substitution? hee ▸ he
  | none =>
    simp only [hs] at h
    obtain ⟨_, -, h⟩ := Run.bind_outcome_eq_ok_iff.mp h
    refine ⟨t.declaredAmong entries, h, fun x v hget => ?_⟩
    obtain ⟨e, he, hee⟩ := List.mem_filterMap.mp (Listing.mem_of_get?_ofList hget)
    exact eq_of_substitution? hee ▸ (List.mem_filter.mp he).1

/-- **What is rendered.** A text that a mapping is rendered to fills the one leftmost
cut of the template with the values given for its tokens, each put in character by
character. No declared token begins in a gap of the cut, and none stands in the
result. -/
theorem rendered_eq_filled {t : Template} {entries : List (Value × Value)} {strict : Bool}
    {r : String} (h : (t.renderValue (.map entries) strict).outcome = .ok r) :
    ∃ (c : Cut) (value : String → String),
      t.IsCut c ∧ (∀ d, t.IsCut d → d = c) ∧
      (∀ x ∈ t.tokens, ∀ n, StandsAt t.text.toList x.toList n → ¬ c.InGap n) ∧
      (∀ x ∈ t.tokens, (Value.text x, Value.text (value x)) ∈ entries) ∧
      r.toList = c.filled (fun w => (value (String.ofList w)).toList) ∧
      ∀ x ∈ t.tokens, contains r x = false := by
  obtain ⟨given, hok, hmem⟩ := exists_outcome_of_renderValue h
  obtain ⟨value, hvalue⟩ := exists_value_of_outcome hok
  obtain ⟨-, -, hleft, rfl⟩ := outcome_eq_ok_iff.mp hok
  refine ⟨t.cut, value, t.isCut_cut, fun d hd => hd.eq_cut, ?_,
    fun x hx => hmem x _ (hvalue x hx), toList_filled hvalue, hleft⟩
  intro x hx n hn
  rw [← t.isCut_cut.text_eq] at hn
  exact t.isCut_cut.leftmost.not_inGap (toList_mem_wordsOf.mpr hx) hn

/-- A text in which a token stands across itself. -/
def echo : Template where
  name := "echo"
  text := "a.a.a\\1!"
  tokens := .ofList ["a.a", "\\1"]
  admissible := (@fault?_eq_none_iff "echo" _ _).mp (by decide)

/-- Only the first of two occurrences across each other is a token, and signs that mean
something elsewhere are put in as they are. -/
theorem rendered_eq_filled_echo :
    (echo.renderValue (.map [(.text "\\1", .text ""), (.text "a.a", .text "$&")]) true).outcome =
      .ok "$&.a!" ∧
    ∃ (c : Cut) (value : String → String),
      echo.IsCut c ∧ (∀ d, echo.IsCut d → d = c) ∧
      (∀ x ∈ echo.tokens, ∀ n, StandsAt echo.text.toList x.toList n → ¬ c.InGap n) ∧
      (∀ x ∈ echo.tokens, (Value.text x, Value.text (value x)) ∈
        [(Value.text "\\1", Value.text ""), (Value.text "a.a", Value.text "$&")]) ∧
      "$&.a!".toList = c.filled (fun w => (value (String.ofList w)).toList) ∧
      ∀ x ∈ echo.tokens, contains "$&.a!" x = false := by
  have h : (echo.renderValue (.map [(.text "\\1", .text ""), (.text "a.a", .text "$&")])
      true).outcome = .ok "$&.a!" := by
    change echo.outcome (.ofList [("\\1", .text ""), ("a.a", .text "$&")]) true = .ok "$&.a!"
    exact outcome_eq_ok_of_scan (by decide) (by decide) (by decide) (by decide)
  exact ⟨h, rendered_eq_filled h⟩

end Template

end SchemaDepot
