/-
# Numbers in templates

A length or a project number enters a template in decimal: ASCII digits alone, the first of
them no zero, and they read back as the number (`Decimal.Canonical`). A number has one such
text, which is the one that is written (`Decimal.canonical_iff`).

A project number may be given as a numeral of up to 4300 ASCII digits. It is then treated as
the number it denotes, so zeros in front do not count, and every other text is refused before
anything is rendered.

Key definitions: `Decimal.Canonical`, `Scheme.IsNumeral`, `Scheme.Denotes`.
Key theorems: `Decimal.canonical_iff`, `Scheme.numberText_of_isNumeral`,
`Scheme.numberText_of_not_isNumeral`, `Scheme.numbers_enter_in_decimal`.
-/
import SchemaDepot.Proofs.Outcome.Records
import SchemaDepot.Proofs.Scheme
import SchemaDepot.Proofs.Provision

namespace SchemaDepot

open Text

namespace Decimal

/-! ### The decimal of a number -/

/-- The text consists of digits, the first of them no zero, and reads back as the number. -/
structure Canonical (s : String) (n : Nat) : Prop where
  digits : ∀ c ∈ s.toList, isAsciiDigit c = true
  head : ∃ c, s.toList.head? = some c ∧ c ≠ '0'
  reads : read s.toList = .ok n

variable {cs : List Char} {n : Nat}

/-- A digit stands for its place behind the zero, and is the character of that number. -/
theorem digitChar_of_isAsciiDigit {c : Char} (h : isAsciiDigit c = true) :
    c.toNat - '0'.toNat < 10 ∧ Nat.digitChar (c.toNat - '0'.toNat) = c := by
  obtain ⟨hlow, hhigh⟩ := isAsciiDigit_iff.mp h
  have hlow' : 48 ≤ c.toNat := hlow
  have hhigh' : c.toNat ≤ 57 := hhigh
  have hlt : c.toNat - 48 < 10 := by omega
  refine ⟨hlt, Char.toNat_inj.mp ?_⟩
  change (Nat.digitChar (c.toNat - 48)).toNat = c.toNat
  rw [Nat.toNat_digitChar_of_lt_ten hlt]
  omega

theorem value_eq_ofDigitChars (hcs : ∀ c ∈ cs, isAsciiDigit c = true) :
    value cs = Nat.ofDigitChars 10 cs 0 := by
  suffices h : ∀ n, cs.foldl (fun n c => 10 * n + valueIn.digitOf c) n = Nat.ofDigitChars 10 cs n
    from h 0
  induction cs with
  | nil => exact fun n => rfl
  | cons c cs ih =>
    obtain ⟨hc, hcs⟩ := List.forall_mem_cons.mp hcs
    have hdigit : valueIn.digitOf c = c.toNat - '0'.toNat := by
      rw [valueIn.digitOf, if_pos (isAsciiDigit_iff.mp hc).2]
    intro n
    rw [List.foldl_cons, ih hcs, Nat.ofDigitChars_cons, hdigit]

theorem exists_head?_toDigits (hpos : 0 < n) :
    ∃ c, (Nat.toDigits 10 n).head? = some c ∧ c ≠ '0' := by
  induction n using Nat.strongRecOn with
  | _ n ih =>
    by_cases hlt : n < 10
    · refine ⟨n.digitChar, by rw [Nat.toDigits_of_lt_base hlt]; rfl, fun hzero => ?_⟩
      have hcode := Nat.toNat_digitChar_of_lt_ten hlt
      rw [hzero] at hcode
      have hcode' : 48 = 48 + n := hcode
      omega
    · obtain ⟨c, hc, hne⟩ := ih (n / 10) (by omega) (by omega)
      refine ⟨c, ?_, hne⟩
      rw [Nat.toDigits_of_base_le (by decide) (by omega), List.head?_append, hc]
      rfl

/-- Digits that do not start with a zero are the decimal digits of the number they denote. -/
theorem eq_toDigits_of_head (hcs : ∀ c ∈ cs, isAsciiDigit c = true)
    (hhead : ∃ c, cs.head? = some c ∧ c ≠ '0') :
    cs = Nat.toDigits 10 (Nat.ofDigitChars 10 cs 0) := by
  -- The last digit comes off the end; what is left starts as before.
  induction cs using List.reverseRecOn with
  | nil =>
    obtain ⟨c, hc, -⟩ := hhead
    cases hc
  | append_singleton cs d ih =>
    obtain ⟨hd, hchar⟩ := digitChar_of_isAsciiDigit (hcs d (by simp))
    have hcs' : ∀ c ∈ cs, isAsciiDigit c = true := fun c hc => hcs c (List.mem_append_left _ hc)
    rw [Nat.ofDigitChars_append, Nat.ofDigitChars_cons, Nat.ofDigitChars_nil]
    cases cs with
    | nil =>
      rw [Nat.ofDigitChars_nil, Nat.mul_zero, Nat.zero_add, Nat.toDigits_of_lt_base hd, hchar]
      rfl
    | cons c cs =>
      obtain ⟨c', hc', hne⟩ := hhead
      cases hc'
      have hpos : 0 < Nat.ofDigitChars 10 (c :: cs) 0 := by
        rw [← value_eq_ofDigitChars hcs']
        exact (value_pos_iff hcs').mpr ⟨c, List.mem_cons_self, hne⟩
      have hfront := ih hcs' ⟨c, rfl, hne⟩
      rw [← Nat.toDigits_append_toDigits (by decide) hpos hd, ← hfront,
        Nat.toDigits_of_lt_base hd, hchar]

theorem length_toDigits_le {k : Nat} (hk : 0 < k) (h : n < tenTo k) :
    (Nat.toDigits 10 n).length ≤ k :=
  (Nat.length_toDigits_le_iff (by decide) hk).mpr h

/-- A number has a decimal exactly when it is above zero and not too long, and then the decimal
is the text that is written. -/
theorem canonical_iff {s : String} :
    Canonical s n ↔ 0 < n ∧ n < tenTo digitLimit ∧ s = String.ofList (chars n) := by
  constructor
  · intro h
    obtain ⟨hlength, hvalue⟩ := read_eq_ok_iff.mp h.reads
    have hpos := (value_pos_iff h.digits).mpr <| by
      obtain ⟨c, hc, hne⟩ := h.head
      exact ⟨c, List.mem_of_mem_head? hc, hne⟩
    have hlt := Nat.lt_of_lt_of_le (value_lt h.digits) (Scheme.tenTo_le_tenTo hlength)
    have hdigits := eq_toDigits_of_head h.digits h.head
    rw [← value_eq_ofDigitChars h.digits, hvalue, ← chars_natCast] at hdigits
    rw [hvalue] at hpos hlt
    exact ⟨hpos, hlt, by rw [← hdigits, String.ofList_toList]⟩
  · rintro ⟨hpos, hlt, rfl⟩
    have hdigits : ∀ c ∈ chars n, isAsciiDigit c = true := fun c => isAsciiDigit_of_mem_chars
    refine ⟨by rwa [String.toList_ofList], ?_, ?_⟩
    · rw [String.toList_ofList, chars_natCast]
      exact exists_head?_toDigits hpos
    · rw [String.toList_ofList, read_eq_ok_iff, value_eq_ofDigitChars hdigits, chars_natCast]
      exact ⟨length_toDigits_le (by decide) hlt, Nat.ofDigitChars_ten_toDigits⟩

end Decimal

namespace Scheme

open Registry

variable {s name : String} {v : Value} {r : Registry}

/-! ### What is accepted as a project number -/

/-- The text is a row of ASCII digits, at least one and not too many. -/
structure IsNumeral (s : String) : Prop where
  digits : ∀ c ∈ s.toList, isAsciiDigit c = true
  not_empty : s ≠ ""
  length_le : s.toList.length ≤ Decimal.digitLimit

/-- The value is a number, or a numeral of it. -/
inductive Denotes : Value → Nat → Prop
  | int (n : Nat) : Denotes (.int n) n
  | numeral {s : String} (h : IsNumeral s) : Denotes (.text s) (Nat.ofDigitChars 10 s.toList 0)

/-- A numeral is treated as the number it denotes. -/
theorem numberText_of_isNumeral (h : IsNumeral s) :
    numberText (.text s) = numberText (.int (Nat.ofDigitChars 10 s.toList 0)) := by
  have hform := hasForm_iff.mpr ⟨h.not_empty, h.digits⟩
  have hread : Decimal.read s.toList = .ok (Decimal.value s.toList) :=
    Decimal.read_eq_ok_iff.mpr ⟨h.length_le, rfl⟩
  simp only [numberText, hform, hread, Outcome.ok_bind, Bool.false_eq_true, if_false,
    Decimal.value_eq_ofDigitChars h.digits]

/-- A text that is no numeral is refused, shown as it was given if its form is wrong. -/
theorem numberText_of_not_isNumeral (h : ¬ IsNumeral s) :
    numberText (.text s) = .error (.value (.notPositive "project_number" (quoted s))) ∨
    numberText (.text s) =
      .error (.value (.numeralTooLong Decimal.digitLimit s.toList.length)) := by
  by_cases hform : (s.isEmpty || !s.toList.all isAsciiDigit) = true
  · refine Or.inl ?_
    simp only [numberText, hform, if_true]
    rfl
  · rw [Bool.not_eq_true] at hform
    obtain ⟨hne, hdigits⟩ := hasForm_iff.mp hform
    have hlong : ¬ s.toList.length ≤ Decimal.digitLimit := fun hle => h ⟨hdigits, hne, hle⟩
    refine Or.inr ?_
    simp only [numberText, hform, Bool.false_eq_true, if_false, Decimal.read, if_neg hlong]
    rfl

theorem canonical_of_positiveText (h : positiveText name v = .ok s) :
    ∃ n : Nat, v = .int n ∧ 0 < n ∧ Decimal.Canonical s n := by
  obtain ⟨n, rfl⟩ := exists_nat_of_positiveText h
  obtain ⟨hpos, hlt, hs⟩ := positiveText_eq_ok_iff.mp h
  exact ⟨n, rfl, hpos, Decimal.canonical_iff.mpr ⟨hpos, hlt, hs⟩⟩

theorem canonical_of_numberText (h : numberText v = .ok s) :
    ∃ n : Nat, Denotes v n ∧ 0 < n ∧ Decimal.Canonical s n := by
  by_cases hv : ∃ numeral, v = .text numeral
  · obtain ⟨numeral, rfl⟩ := hv
    obtain ⟨⟨hne, hdigits⟩, hlength, hs⟩ := numberText_text_eq_ok_iff.mp h
    obtain ⟨n, hn, hpos, hcanonical⟩ := canonical_of_positiveText hs
    have hvalue : Nat.ofDigitChars 10 numeral.toList 0 = n := by
      rw [← Decimal.value_eq_ofDigitChars hdigits]
      exact Int.ofNat_inj.mp (Value.int.inj hn)
    exact ⟨n, hvalue ▸ .numeral ⟨hdigits, hne, hlength⟩, hpos, hcanonical⟩
  · obtain ⟨n, rfl, hs⟩ := exists_nat_of_numberText (not_exists.mp hv) h
    obtain ⟨m, hm, hpos, hcanonical⟩ := canonical_of_positiveText hs
    cases hm
    exact ⟨n, .int n, hpos, hcanonical⟩

/-! ### What is rendered -/

/-- A benchmark schema is rendered with the decimal of a number for its length. -/
theorem of_benchmark {text : String} (h : (benchmark r v).outcome = .ok text) :
    ∃ (n : Nat) (decimal : String), v = .int n ∧ 0 < n ∧ Decimal.Canonical decimal n ∧
      benchmark r v =
        r.render benchmarkTemplate (.ofList [(columnLengthToken, .text decimal)]) := by
  unfold benchmark at h ⊢
  obtain ⟨decimal, hlength, hrun⟩ := Run.exists_eq_of_ofExcept_bind h
  obtain ⟨n, hn, hpos, hcanonical⟩ := canonical_of_positiveText hlength
  exact ⟨n, decimal, hn, hpos, hcanonical, hrun⟩

theorem of_textualColumns {database columnType : Value} {text : String}
    (h : (textualColumns r database columnType v).outcome = .ok text) :
    ∃ (n : Nat) (decimal : String), v = .int n ∧ 0 < n ∧ Decimal.Canonical decimal n ∧
      textualColumns r database columnType v =
        r.render r.textualTemplate (.ofList [(databaseToken, database),
          (columnTypeToken, columnType), (columnLengthToken, .text decimal)]) := by
  unfold textualColumns at h ⊢
  obtain ⟨⟨⟩, -, hcheck⟩ := Run.exists_eq_of_ofExcept_bind h
  rw [hcheck] at h ⊢
  obtain ⟨decimal, hlength, hrun⟩ := Run.exists_eq_of_ofExcept_bind h
  obtain ⟨n, hn, hpos, hcanonical⟩ := canonical_of_positiveText hlength
  exact ⟨n, decimal, hn, hpos, hcanonical, hrun⟩

/-- A project is rendered with the decimal of the number that is given or denoted. -/
theorem of_project {who : Value} {text : String} (h : (project r who v).outcome = .ok text) :
    ∃ (n : Nat) (decimal : String), Denotes v n ∧ 0 < n ∧ Decimal.Canonical decimal n ∧
      project r who v = r.render projectTemplate
        (.ofList [("PROJECT_NAME", who), ("PROJECT_NUMBER", .text decimal)]) := by
  unfold project at h ⊢
  obtain ⟨⟨⟩, -, hcheck⟩ := Run.exists_eq_of_ofExcept_bind h
  rw [hcheck] at h ⊢
  obtain ⟨decimal, hnumber, hrun⟩ := Run.exists_eq_of_ofExcept_bind h
  obtain ⟨n, hn, hpos, hcanonical⟩ := canonical_of_numberText hnumber
  exact ⟨n, decimal, hn, hpos, hcanonical, hrun⟩

/-- With a name, a project is made as its number is read. -/
theorem project_text (hname : name ≠ "") :
    project r (.text name) v = (Run.ofExcept (numberText v) >>= fun decimal =>
      r.render projectTemplate
        (.ofList [("PROJECT_NAME", .text name), ("PROJECT_NUMBER", .text decimal)])) := by
  rw [project, checkProject, require_text hname, Run.ok_bind]

/-- **Numbers enter in decimal.** A numeral of 1 to 4300 ASCII digits is the same to a project
as the number it denotes, in what is rendered, refused and logged, and every other text is
refused. Whatever length or project number is accepted is an integer above zero, or a numeral
of one, and what is rendered gets its decimal: ASCII digits that start with no zero and read
back as the number. -/
theorem numbers_enter_in_decimal (r : Registry) {name : String} (hname : name ≠ "") :
    (∀ s, IsNumeral s → project r (.text name) (.text s) =
      project r (.text name) (.int (Nat.ofDigitChars 10 s.toList 0))) ∧
    (∀ s, ¬ IsNumeral s →
      project r (.text name) (.text s) =
        .fail (.value (.notPositive "project_number" (quoted s))) ∨
      project r (.text name) (.text s) =
        .fail (.value (.numeralTooLong Decimal.digitLimit s.toList.length))) ∧
    (∀ who v text, (project r who v).outcome = .ok text →
      ∃ (n : Nat) (decimal : String), Denotes v n ∧ 0 < n ∧ Decimal.Canonical decimal n ∧
        project r who v = r.render projectTemplate
          (.ofList [("PROJECT_NAME", who), ("PROJECT_NUMBER", .text decimal)])) ∧
    (∀ v text, (benchmark r v).outcome = .ok text →
      ∃ (n : Nat) (decimal : String), v = .int n ∧ 0 < n ∧ Decimal.Canonical decimal n ∧
        benchmark r v =
          r.render benchmarkTemplate (.ofList [(columnLengthToken, .text decimal)])) ∧
    ∀ database columnType v text, (textualColumns r database columnType v).outcome = .ok text →
      ∃ (n : Nat) (decimal : String), v = .int n ∧ 0 < n ∧ Decimal.Canonical decimal n ∧
        textualColumns r database columnType v =
          r.render r.textualTemplate (.ofList [(databaseToken, database),
            (columnTypeToken, columnType), (columnLengthToken, .text decimal)]) := by
  refine ⟨fun s hs => ?_, fun s hs => ?_, fun who v text => of_project, fun v text => of_benchmark,
    fun database columnType v text => of_textualColumns⟩
  · rw [project_text hname, project_text hname, numberText_of_isNumeral hs]
  · rw [project_text hname]
    apply (numberText_of_not_isNumeral hs).imp
    · intro hrefused
      rw [hrefused, Run.error_bind]
    · intro hrefused
      rw [hrefused, Run.error_bind]

/-- A template of a project. -/
def joining : Template where
  name := projectTemplate
  text := "add(PROJECT_NAME, PROJECT_NUMBER);"
  tokens := .ofList ["PROJECT_NAME", "PROJECT_NUMBER"]
  admissible := (@Template.fault?_eq_none_iff projectTemplate _ _).mp (by decide)

/-- A registry with that template alone. -/
def joiningRegistry : Registry where
  catalogue := ⟨.ofList [("a", "A;")], "a"⟩
  templates := ⟨.ofList [(projectTemplate, joining)], true⟩
  textualDatabases := .empty
  textualTemplate := Manifest.defaultTextualTemplate
  settings := ⟨⟨.top, []⟩, true⟩

/-- Zeros in front of a project number are left out; a digit of another script, or what stands
behind a digit, is refused. -/
theorem numbers_enter_in_decimal_joining :
    (project joiningRegistry (.text "demo") (.text "007")).outcome = .ok "add(demo, 7);" ∧
    project joiningRegistry (.text "demo") (.text "007") =
      project joiningRegistry (.text "demo") (.int 7) ∧
    (∃ decimal, Decimal.Canonical decimal 7 ∧
      project joiningRegistry (.text "demo") (.text "007") = joiningRegistry.render projectTemplate
        (.ofList [("PROJECT_NAME", .text "demo"), ("PROJECT_NUMBER", .text decimal)])) ∧
    ∀ s ∈ ["", "٧", "7;"], ¬ IsNumeral s ∧
      ∃ fault, project joiningRegistry (.text "demo") (.text s) = .fail (.value fault) := by
  have hname : "demo" ≠ "" := by decide
  obtain ⟨hnumeral, hother, hproject, -, -⟩ := numbers_enter_in_decimal joiningRegistry hname
  have hseven : project joiningRegistry (.text "demo") (.text "007") =
      project joiningRegistry (.text "demo") (.int 7) :=
    hnumeral "007" ⟨List.all_eq_true.mp (by decide), by decide, by decide⟩
  have hdone : (project joiningRegistry (.text "demo") (.text "007")).outcome =
      .ok "add(demo, 7);" := by
    have hlt : 7 < tenTo Decimal.digitLimit := by decide +kernel
    have hnumber : positiveText "project_number" (.int (7 : Nat)) = .ok "7" :=
      (positiveText_eq_ok_iff (n := 7)).mpr ⟨by decide, hlt, by decide⟩
    have hnamed : joiningRegistry.templates.named projectTemplate = .ok joining := by
      have hget : joiningRegistry.templates.templates.get? projectTemplate = some joining :=
        Listing.get?_ofList_eq_some_iff.mpr ⟨[], [], rfl, by simp⟩
      rw [TemplateSet.named, hget]
    rw [hseven, project_text hname]
    change (Run.ofExcept (positiveText "project_number" (.int (7 : Nat))) >>= _).outcome = _
    rw [hnumber, Run.ok_bind, render_outcome hnamed]
    exact Template.outcome_eq_ok_of_scan (by decide) (by decide) (by decide) (by decide)
  have hbad : ∀ s ∈ ["", "٧", "7;"], ¬ IsNumeral s := by
    intro s hs h
    have hbad : ∀ s ∈ ["", "٧", "7;"], (s.isEmpty || !s.toList.all isAsciiDigit) = true := by decide
    have hform := hbad s hs
    rw [hasForm_iff.mpr ⟨h.not_empty, h.digits⟩] at hform
    cases hform
  refine ⟨hdone, hseven, ?_, fun s hs => ⟨hbad s hs, ?_⟩⟩
  · obtain ⟨n, decimal, hn, -, hcanonical, hrun⟩ := hproject _ _ _ hdone
    cases hn
    exact ⟨decimal, hcanonical, hrun⟩
  · apply (hother s (hbad s hs)).elim
    · exact fun h => ⟨_, h⟩
    · exact fun h => ⟨_, h⟩

end Scheme

end SchemaDepot
