/-
# Why substitutions are refused

Substitutions are refused for one of four reasons, which are tried in order: declared
tokens have no value; other names have one, where that counts; values are no texts or
hold tokens; tokens stand in the filled text. The error names exactly the tokens or names
of its reason, and for each reason exactly these (`outcome_eq_error_iff`).

Only the values of the declared tokens matter beyond that. So leaving other names out of
account is the same as not giving them, and the order in which values are given matters
nowhere (`refuses_exactly`). That a text was rendered is logged only where there is one.

Key definitions: `Log.Record.Tells`, `Template.Unfit`, `Template.Admits`,
`Template.Fills`, `Template.Refuses`.
Key theorems: `Template.outcome_eq_error_iff`, `Template.outcome_eq_ok_iff_fills`,
`Template.refuses_exactly`.
-/
import SchemaDepot.Proofs.Template.Rendering

namespace SchemaDepot

namespace Log

/-- The record begins with the message. -/
def Record.Tells (r : Record) (message : String) : Prop := message.toList <+: r.text.toList

/-- A record tells no message besides one that does not begin as it does. -/
theorem Record.Tells.not_tells {r : Record} {m m' : String} (h : r.Tells m)
    (hm : ¬ m.toList <+: m'.toList) (hm' : ¬ m'.toList <+: m.toList) : ¬ r.Tells m' := by
  intro h'
  obtain hp | hp := List.prefix_or_prefix_of_prefix h h'
  · exact hm hp
  · exact hm' hp

theorem prefix_line (message : String) (fields : List Field) :
    message.toList <+: (line message fields).toList := by
  unfold line
  split
  · exact List.prefix_rfl
  · rw [String.toList_append, String.toList_append, List.append_assoc]
    exact List.prefix_append _ _

end Log

namespace Template

open Text

/-- What is given for the name is no text, or a text that holds a declared token. -/
def Unfit (t : Template) (given : Substitutions) (x : String) : Prop :=
  ∃ v, given.get? x = some v ∧ ∀ s, v = .text s → ∃ y ∈ t.tokens, contains s y = true

/-- Something is given for every declared token and, where that counts, for no other
name. -/
structure Admits (t : Template) (given : Substitutions) (strict : Bool) : Prop where
  complete : ∀ x ∈ t.tokens, x ∈ given.keys
  declared : strict = true → ∀ x ∈ given.keys, x ∈ t.tokens

/-- The text is a leftmost cut of the template with the given texts in the place of its
tokens. -/
def Fills (t : Template) (given : Substitutions) (text : String) : Prop :=
  ∃ (c : Cut) (value : String → String), t.IsCut c ∧
    (∀ x ∈ t.tokens, given.get? x = some (.text (value x))) ∧
    text.toList = c.filled fun w => (value (String.ofList w)).toList

/-- Why substitutions are refused. Each reason presupposes that those before it are not
there, and its error has all names it is about. -/
inductive Refuses (t : Template) (given : Substitutions) (strict : Bool) : Error → Prop
  /-- Nothing is given for some declared tokens. -/
  | missing {names : TextSet} (hnames : ∀ x, x ∈ names ↔ x ∈ t.tokens ∧ x ∉ given.keys)
      (hsome : ∃ x, x ∈ names) : Refuses t given strict (.substitution .missing t.name names)
  /-- Something is given for names that are no declared tokens, and that counts. -/
  | undeclared {names : TextSet} (hcomplete : ∀ x ∈ t.tokens, x ∈ given.keys)
      (hstrict : strict = true) (hnames : ∀ x, x ∈ names ↔ x ∈ given.keys ∧ x ∉ t.tokens)
      (hsome : ∃ x, x ∈ names) : Refuses t given strict (.substitution .undeclared t.name names)
  /-- What is given for some declared tokens is unfit. -/
  | value {names : TextSet} (hadmits : t.Admits given strict)
      (hnames : ∀ x, x ∈ names ↔ x ∈ t.tokens ∧ t.Unfit given x)
      (hsome : ∃ x, x ∈ names) : Refuses t given strict (.substitution .invalid t.name names)
  /-- Some declared tokens stand in the filled text. -/
  | leftover {names : TextSet} {text : String} (hadmits : t.Admits given strict)
      (hfit : ∀ x ∈ t.tokens, ¬ t.Unfit given x) (hfills : t.Fills given text)
      (hnames : ∀ x, x ∈ names ↔ x ∈ t.tokens ∧ contains text x = true)
      (hsome : ∃ x, x ∈ names) : Refuses t given strict (.substitution .invalid t.name names)

variable {t : Template} {given given' : Substitutions} {strict : Bool} {x text : String}

/-! ### The names of each reason -/

theorem mem_missing : x ∈ t.missing given ↔ x ∈ t.tokens ∧ x ∉ given.keys := by
  rw [missing, TextSet.mem_filter, Bool.not_eq_true', ← Bool.not_eq_true,
    Listing.has_eq_true_iff_mem]

theorem mem_undeclared : x ∈ t.undeclared given ↔ x ∈ given.keys ∧ x ∉ t.tokens := by
  rw [undeclared, TextSet.mem_difference, Listing.mem_keySet]

theorem mem_leftover : x ∈ t.leftover text ↔ x ∈ t.tokens ∧ contains text x = true :=
  TextSet.mem_filter

theorem holdsToken_eq_true_iff : t.holdsToken text = true ↔ ∃ y ∈ t.tokens, contains text y = true :=
  List.any_eq_true

theorem holdsToken_eq_false_iff :
    t.holdsToken text = false ↔ ∀ y ∈ t.tokens, contains text y = false := by
  simp only [holdsToken, List.any_eq_false, Bool.not_eq_true, TextSet.mem_def]

theorem not_unfit_iff (hx : x ∈ given.keys) : ¬ t.Unfit given x ↔
    ∃ s, given.get? x = some (.text s) ∧ t.holdsToken s = false := by
  obtain ⟨v, hv⟩ := Listing.exists_get?_of_mem_keys hx
  simp only [Unfit, hv, Option.some.injEq, exists_eq_left', ← holdsToken_eq_true_iff]
  simp only [not_forall, Bool.not_eq_true, exists_prop]

theorem mem_invalid (hcomplete : ∀ x ∈ t.tokens, x ∈ given.keys) :
    x ∈ t.invalid given ↔ x ∈ t.tokens ∧ t.Unfit given x := by
  rw [invalid, TextSet.mem_filter]
  refine and_congr_right fun hx => ?_
  obtain ⟨v, hv⟩ := Listing.exists_get?_of_mem_keys (hcomplete x hx)
  simp only [Unfit, textFor?, hv, Option.some.injEq, exists_eq_left', ← holdsToken_eq_true_iff]
  cases v <;> simp

theorem isEmpty_missing_iff : (t.missing given).isEmpty = true ↔ ∀ x ∈ t.tokens, x ∈ given.keys := by
  simp only [TextSet.isEmpty_iff, mem_missing, not_and, not_not]

theorem isEmpty_undeclared_iff :
    (t.undeclared given).isEmpty = true ↔ ∀ x ∈ given.keys, x ∈ t.tokens := by
  simp only [TextSet.isEmpty_iff, mem_undeclared, not_and, not_not]

theorem isEmpty_invalid_iff_fit (hcomplete : ∀ x ∈ t.tokens, x ∈ given.keys) :
    (t.invalid given).isEmpty = true ↔ ∀ x ∈ t.tokens, ¬ t.Unfit given x := by
  simp only [TextSet.isEmpty_iff, mem_invalid hcomplete, not_and]

/-! ### The filled text -/

/-- Where everything given for the tokens is a text, the text they fill is the one that is
computed, and no other. -/
theorem fills_iff (h : ∀ x ∈ t.tokens, ∃ s, given.get? x = some (.text s)) :
    t.Fills given text ↔ t.filled given = text := by
  constructor
  · rintro ⟨c, value, hc, hvalue, htext⟩
    refine String.toList_injective ?_
    rw [toList_filled hvalue, htext, hc.eq_cut]
  · rintro rfl
    have hvalue : ∀ x ∈ t.tokens, given.get? x = some (.text ((textFor? given x).getD "")) := by
      intro x hx
      obtain ⟨s, hs⟩ := h x hx
      simp only [textFor?, hs, Option.getD_some]
    exact ⟨t.cut, _, t.isCut_cut, hvalue, toList_filled hvalue⟩

theorem Admits.texts (h : t.Admits given strict) (hfit : ∀ x ∈ t.tokens, ¬ t.Unfit given x) :
    ∀ x ∈ t.tokens, ∃ s, given.get? x = some (.text s) := by
  intro x hx
  obtain ⟨s, hs, -⟩ := (not_unfit_iff (h.complete x hx)).mp (hfit x hx)
  exact ⟨s, hs⟩

/-! ### The reasons -/

theorem admits_iff : t.Admits given strict ↔
    (t.missing given).isEmpty = true ∧ (strict = true → (t.undeclared given).isEmpty = true) := by
  rw [isEmpty_missing_iff, isEmpty_undeclared_iff]
  exact ⟨fun h => ⟨h.complete, h.declared⟩, fun h => ⟨h.1, h.2⟩⟩

/-- Substitutions are refused for the reasons there are, and with all names of the reason. -/
theorem outcome_eq_error_iff {e : Error} :
    t.outcome given strict = .error e ↔ t.Refuses given strict e := by
  unfold outcome
  simp only [Outcome.refuse_eq_error_iff, Bool.not_eq_true', Bool.and_eq_true, not_and,
    Bool.not_eq_false, reduceCtorEq, and_false, or_false]
  constructor
  · rintro (⟨hsome, rfl⟩ | ⟨hmissing, ⟨⟨hstrict, hsome⟩, rfl⟩ | ⟨hdeclared, h⟩⟩)
    · exact .missing (fun _ => mem_missing) (TextSet.isEmpty_eq_false_iff.mp hsome)
    · exact .undeclared (isEmpty_missing_iff.mp hmissing) hstrict (fun _ => mem_undeclared)
        (TextSet.isEmpty_eq_false_iff.mp hsome)
    have hadmits : t.Admits given strict := admits_iff.mpr ⟨hmissing, hdeclared⟩
    rcases h with ⟨hsome, rfl⟩ | ⟨hinvalid, hsome, rfl⟩
    · exact .value hadmits (fun _ => mem_invalid hadmits.complete)
        (TextSet.isEmpty_eq_false_iff.mp hsome)
    · have hfit := (isEmpty_invalid_iff_fit hadmits.complete).mp hinvalid
      exact .leftover hadmits hfit ((fills_iff (hadmits.texts hfit)).mpr rfl)
        (fun _ => mem_leftover) (TextSet.isEmpty_eq_false_iff.mp hsome)
  · rintro (⟨hnames, hsome⟩ | ⟨hcomplete, hstrict, hnames, hsome⟩ | ⟨hadmits, hnames, hsome⟩ |
      ⟨hadmits, hfit, hfills, hnames, hsome⟩)
    · obtain rfl := TextSet.ext_mem fun x => (hnames x).trans mem_missing.symm
      exact Or.inl ⟨TextSet.isEmpty_eq_false_iff.mpr hsome, rfl⟩
    · obtain rfl := TextSet.ext_mem fun x => (hnames x).trans mem_undeclared.symm
      exact Or.inr ⟨isEmpty_missing_iff.mpr hcomplete,
        Or.inl ⟨⟨hstrict, TextSet.isEmpty_eq_false_iff.mpr hsome⟩, rfl⟩⟩
    · obtain rfl := TextSet.ext_mem fun x => (hnames x).trans (mem_invalid hadmits.complete).symm
      obtain ⟨hmissing, hdeclared⟩ := admits_iff.mp hadmits
      exact Or.inr ⟨hmissing, Or.inr ⟨hdeclared,
        Or.inl ⟨TextSet.isEmpty_eq_false_iff.mpr hsome, rfl⟩⟩⟩
    · obtain rfl := (fills_iff (hadmits.texts hfit)).mp hfills
      obtain rfl := TextSet.ext_mem fun x => (hnames x).trans mem_leftover.symm
      obtain ⟨hmissing, hdeclared⟩ := admits_iff.mp hadmits
      exact Or.inr ⟨hmissing, Or.inr ⟨hdeclared,
        Or.inr ⟨(isEmpty_invalid_iff_fit hadmits.complete).mpr hfit,
          TextSet.isEmpty_eq_false_iff.mpr hsome, rfl⟩⟩⟩

/-- A text is rendered exactly when nothing speaks against it, and it is the filled one. -/
theorem outcome_eq_ok_iff_fills {r : String} :
    t.outcome given strict = .ok r ↔ t.Admits given strict ∧ (∀ x ∈ t.tokens, ¬ t.Unfit given x) ∧
      t.Fills given r ∧ ∀ x ∈ t.tokens, contains r x = false := by
  rw [outcome_eq_ok_iff]
  constructor
  · rintro ⟨hvalid, hdeclared, hleft, rfl⟩
    have hcomplete : ∀ x ∈ t.tokens, x ∈ given.keys := by
      intro x hx
      obtain ⟨s, hs, -⟩ := hvalid x hx
      exact Listing.mem_keys_of_get? hs
    have hadmits : t.Admits given strict :=
      ⟨hcomplete, fun h => isEmpty_undeclared_iff.mp (hdeclared h)⟩
    have hfit : ∀ x ∈ t.tokens, ¬ t.Unfit given x := fun x hx =>
      (not_unfit_iff (hcomplete x hx)).mpr (hvalid x hx)
    exact ⟨hadmits, hfit, (fills_iff (hadmits.texts hfit)).mpr rfl, hleft⟩
  · rintro ⟨hadmits, hfit, hfills, hleft⟩
    obtain rfl := (fills_iff (hadmits.texts hfit)).mp hfills
    exact ⟨fun x hx => (not_unfit_iff (hadmits.complete x hx)).mp (hfit x hx),
      fun h => isEmpty_undeclared_iff.mpr (hadmits.declared h), hleft, rfl⟩

/-! ### What does not matter -/

section

variable (h : ∀ x ∈ t.tokens, given'.get? x = given.get? x)
include h

theorem missing_congr : t.missing given' = t.missing given := by
  refine TextSet.ext_mem fun x => ?_
  rw [missing, missing, TextSet.mem_filter, TextSet.mem_filter]
  refine and_congr_right fun hx => ?_
  have hhas : given'.has x = given.has x := by
    rw [Bool.eq_iff_iff, Listing.has_eq_true_iff, Listing.has_eq_true_iff, h x hx]
  rw [hhas]

theorem invalid_congr : t.invalid given' = t.invalid given := by
  refine TextSet.ext_mem fun x => ?_
  rw [invalid, invalid, TextSet.mem_filter, TextSet.mem_filter]
  refine and_congr_right fun hx => ?_
  rw [textFor?, textFor?, h x hx]

theorem filled_congr : t.filled given' = t.filled given := by
  refine String.toList_injective ?_
  rw [filled, filled, toList_substitute, toList_substitute]
  refine t.isCut_cut.leftmost.filled_congr fun w hw => ?_
  rw [textFor?, textFor?, h _ (mem_wordsOf.mp hw)]

/-- Substitutions that have the same values for the declared tokens are rendered to the same
text or refused for the same reason, if their other names do not count or there are none. -/
theorem outcome_congr (hdeclared : strict = true → (t.undeclared given').isEmpty = true) :
    t.outcome given' strict = t.outcome given false := by
  have hrefused : (strict && !(t.undeclared given').isEmpty) = false := by
    cases strict with
    | false => rfl
    | true => rw [hdeclared rfl]; rfl
  rw [outcome, outcome, missing_congr h, invalid_congr h, filled_congr h, hrefused]
  rfl

end

theorem outcome_restrict : t.outcome (given.restrict t.tokens) true = t.outcome given false := by
  refine outcome_congr (fun x hx => Listing.get?_restrict_of_mem hx) fun _ => ?_
  exact isEmpty_undeclared_iff.mpr fun x hx => Listing.mem_of_mem_keys_restrict hx

/-- What is rendered where other names count is rendered where they do not, and the same is
logged. -/
theorem render_eq_of_strict {r : String} (h : t.outcome given true = .ok r) :
    t.render given false = t.render given true := by
  have hdeclared := (outcome_eq_ok_iff.mp h).2.1 rfl
  have hok : t.outcome given true = t.outcome given false :=
    outcome_congr (fun _ _ => rfl) fun _ => hdeclared
  simp only [render, records, hok, hdeclared, Bool.not_true, Bool.and_false]

theorem render_eq_of_perm (h : given'.entries.Perm given.entries) :
    t.render given' strict = t.render given strict := by
  have hget : ∀ x ∈ t.tokens, given'.get? x = given.get? x := fun x _ =>
    Listing.get?_eq_of_perm h x
  have hundeclared : t.undeclared given' = t.undeclared given := by
    refine TextSet.ext_mem fun x => ?_
    rw [mem_undeclared, mem_undeclared, Listing.keys, Listing.keys, (h.map Prod.fst).mem_iff]
  have houtcome : t.outcome given' strict = t.outcome given strict := by
    rw [outcome, outcome, missing_congr hget, invalid_congr hget, filled_congr hget, hundeclared]
  rw [render, render, records, records, missing_congr hget, hundeclared, houtcome]

/-! ### What is logged -/

theorem tells_record (level : Log.Level) (message : String) (names : List String) :
    (t.record level message names).Tells message := by
  simp only [Log.Record.Tells, record]
  exact Log.prefix_line message _

/-- That names were left out of account does not tell that a text was rendered. -/
theorem not_tells_ignoredRecord {names : List String} :
    ¬ (t.ignoredRecord names).Tells "testdbs.template_rendered" :=
  (tells_record .warning "testdbs.unused_substitutions_ignored" names).not_tells (by decide)
    (by decide)

/-- That a text was rendered is logged exactly when one is, and there were tokens. -/
theorem exists_tells_iff :
    (∃ record ∈ t.records given strict, record.Tells "testdbs.template_rendered") ↔
      (∃ r, t.outcome given strict = .ok r) ∧ ∃ x, x ∈ t.tokens := by
  have hok : (t.outcome given strict).isOk = true ↔ ∃ r, t.outcome given strict = .ok r :=
    ⟨Outcome.exists_of_isOk, fun ⟨r, hr⟩ => by rw [hr]; rfl⟩
  rw [← hok, ← TextSet.isEmpty_eq_false_iff]
  unfold records
  constructor
  · rintro ⟨record, hmem, htells⟩
    rcases List.mem_append.mp hmem with hmem | hmem
    · rw [List.mem_ite_nil_right, List.mem_singleton] at hmem
      exact absurd (hmem.2 ▸ htells) not_tells_ignoredRecord
    · rw [List.mem_ite_nil_right, Bool.and_eq_true, Bool.not_eq_true'] at hmem
      exact hmem.1
  · rintro ⟨hreturned, hsome⟩
    refine ⟨t.renderedRecord, List.mem_append_right _ ?_, tells_record _ _ _⟩
    rw [hreturned, hsome]
    exact List.mem_singleton_self _

/-- **Why substitutions are refused.** They are refused for exactly the reasons there are,
each with all its names, and rendered to the filled text otherwise. Where other names do not
count, they might as well not be given; what is rendered where they count is rendered, and
logged, alike where they do not. The order of the substitutions does not matter. That a text
was rendered is logged where there is one, and nowhere else. -/
theorem refuses_exactly (t : Template) (given : Substitutions) :
    (∀ strict e, (t.render given strict).outcome = .error e ↔ t.Refuses given strict e) ∧
    (∀ strict r, (t.render given strict).outcome = .ok r ↔
      t.Admits given strict ∧ (∀ x ∈ t.tokens, ¬ t.Unfit given x) ∧ t.Fills given r ∧
        ∀ x ∈ t.tokens, contains r x = false) ∧
    (t.render given false).outcome = (t.render (given.restrict t.tokens) true).outcome ∧
    (∀ r, (t.render given true).outcome = .ok r → t.render given false = t.render given true) ∧
    (∀ given' : Substitutions, given'.entries.Perm given.entries →
      ∀ strict, t.render given' strict = t.render given strict) ∧
    ∀ strict, (∃ record ∈ (t.render given strict).records,
        record.Tells "testdbs.template_rendered") ↔
      (∃ r, (t.render given strict).outcome = .ok r) ∧ ∃ x, x ∈ t.tokens :=
  ⟨fun _ _ => outcome_eq_error_iff, fun _ _ => outcome_eq_ok_iff_fills, outcome_restrict.symm,
    fun _ => render_eq_of_strict, fun _ h _ => render_eq_of_perm h, fun _ => exists_tells_iff⟩

/-- Values for both tokens of `echo`, of which one holds a token, and for another name. -/
def masking : Substitutions := .ofList [("b", .null), ("\\1", .text ""), ("a.a", .text "x\\1")]

/-- Values for both tokens of `echo` that hold none. -/
def fitting : Substitutions := .ofList [("\\1", .text ""), ("a.a", .text "$&")]

/-- A name that is no declared token hides an unfit value where it counts, and only there. -/
theorem refuses_exactly_echo :
    (echo.render masking true).outcome = .error (.substitution .undeclared "echo" (.ofList ["b"])) ∧
    (echo.render masking false).outcome = .error (.substitution .invalid "echo" (.ofList ["a.a"])) ∧
    echo.Refuses masking false (.substitution .invalid "echo" (.ofList ["a.a"])) ∧
    (echo.render fitting true).outcome = .ok "$&.a!" ∧
    echo.render fitting false = echo.render fitting true := by
  have hundeclared : (echo.render masking true).outcome =
      .error (.substitution .undeclared "echo" (.ofList ["b"])) := rfl
  have hinvalid : (echo.render masking false).outcome =
      .error (.substitution .invalid "echo" (.ofList ["a.a"])) := rfl
  have hok : (echo.render fitting true).outcome = .ok "$&.a!" := by
    change echo.outcome fitting true = .ok "$&.a!"
    exact outcome_eq_ok_of_scan (by decide) (by decide) (by decide) (by decide)
  exact ⟨hundeclared, hinvalid, ((refuses_exactly echo masking).1 false _).mp hinvalid, hok,
    (refuses_exactly echo fitting).2.2.2.1 _ hok⟩

end Template

end SchemaDepot
