/-
# Arguments of schemes

A name must be given, which a text is unless it is empty. A length is an integer above zero. A
project number may be given as a numeral instead, that is as a text of ASCII digits, not all of
them zeros. Either is accepted exactly if it is not too long (`Scheme.exists_numberText_iff`),
and what is put into a template is a row of digits (`Scheme.isAsciiDigit_of_numberText`).

Key definition: `Scheme.IsNumber`.
Key theorems: `Decimal.value_lt`, `Decimal.value_pos_iff`, `Scheme.require_text`,
`Scheme.positiveText_eq_ok_iff`, `Scheme.exists_numberText_iff`,
`Scheme.isAsciiDigit_of_numberText`.
-/
import SchemaDepot.Proofs.Outcome
import SchemaDepot.Scheme

namespace SchemaDepot

open Text

theorem Text.isAsciiDigit_iff {c : Char} : isAsciiDigit c = true ↔ '0' ≤ c ∧ c ≤ '9' := by
  rw [isAsciiDigit, Bool.and_eq_true, decide_eq_true_eq, decide_eq_true_eq]

namespace Decimal

/-! ### Numerals -/

theorem digitOf_of_isAsciiDigit {c : Char} (h : isAsciiDigit c = true) :
    valueIn.digitOf c ≤ 9 ∧ (valueIn.digitOf c = 0 ↔ c = '0') := by
  obtain ⟨hlow, hhigh⟩ := isAsciiDigit_iff.mp h
  have hlow' : '0'.toNat ≤ c.toNat := hlow
  have hhigh' : c.toNat ≤ '9'.toNat := hhigh
  have hzero : '0'.toNat = 48 := rfl
  have hnine : '9'.toNat = 57 := rfl
  rw [valueIn.digitOf, if_pos hhigh]
  refine ⟨by omega, fun h0 => ?_, fun h0 => by rw [h0, Nat.sub_self]⟩
  have hsame : c.toNat = '0'.toNat := by omega
  exact Char.toNat_inj.mp hsame

/-- Reading on from a number below a bound stays below its multiple. -/
theorem foldl_lt {cs : List Char} (hcs : ∀ c ∈ cs, isAsciiDigit c = true) {n k : Nat}
    (hn : n < k) : cs.foldl (fun n c => 10 * n + valueIn.digitOf c) n < k * tenTo cs.length := by
  induction cs generalizing n k with
  | nil => simpa [tenTo] using hn
  | cons c cs ih =>
    obtain ⟨hc, hcs⟩ := List.forall_mem_cons.mp hcs
    have hdigit := (digitOf_of_isAsciiDigit hc).1
    have hstep := ih hcs (n := 10 * n + valueIn.digitOf c) (k := 10 * k) (by omega)
    have hpower : 10 * k * tenTo cs.length = k * tenTo (c :: cs).length := by
      rw [List.length_cons, tenTo, tenTo]
      change 10 * k * 10 ^ cs.length = k * 10 ^ (cs.length + 1)
      rw [Nat.pow_succ, Nat.mul_comm 10 k, Nat.mul_assoc, Nat.mul_comm 10]
    rwa [hpower] at hstep

theorem value_lt {cs : List Char} (hcs : ∀ c ∈ cs, isAsciiDigit c = true) :
    value cs < tenTo cs.length := by
  have h := foldl_lt hcs (n := 0) (k := 1) Nat.one_pos
  rwa [Nat.one_mul] at h

theorem foldl_pos_iff {cs : List Char} (hcs : ∀ c ∈ cs, isAsciiDigit c = true) {n : Nat} :
    0 < cs.foldl (fun n c => 10 * n + valueIn.digitOf c) n ↔ 0 < n ∨ ∃ c ∈ cs, c ≠ '0' := by
  induction cs generalizing n with
  | nil => simp
  | cons c cs ih =>
    obtain ⟨hc, hcs⟩ := List.forall_mem_cons.mp hcs
    have hdigit := (digitOf_of_isAsciiDigit hc).2
    have hstep : 0 < 10 * n + valueIn.digitOf c ↔ 0 < n ∨ c ≠ '0' := by
      rw [ne_eq, ← hdigit]
      omega
    rw [List.foldl_cons, ih hcs, hstep, or_assoc]
    simp only [List.mem_cons, exists_eq_or_imp]

/-- A numeral denotes zero exactly when all its digits are zeros. -/
theorem value_pos_iff {cs : List Char} (hcs : ∀ c ∈ cs, isAsciiDigit c = true) :
    0 < value cs ↔ ∃ c ∈ cs, c ≠ '0' := by
  rw [value, valueIn, foldl_pos_iff hcs]
  simp

theorem read_eq_ok_iff {cs : List Char} {n : Nat} :
    read cs = .ok n ↔ cs.length ≤ digitLimit ∧ value cs = n := by
  unfold read
  by_cases h : cs.length ≤ digitLimit
  · rw [if_pos h, Except.ok.injEq]
    exact ⟨fun hn => ⟨h, hn⟩, fun hn => hn.2⟩
  · rw [if_neg h]
    constructor
    · intro hn
      cases hn
    · exact fun hn => absurd hn.1 h

theorem chars_natCast (n : Nat) : chars n = Nat.toDigits 10 n := by
  rw [chars, if_neg (by omega), List.nil_append, Int.natAbs_natCast, digits]

theorem chars_natCast_inj {n m : Nat} (h : chars n = chars m) : n = m := by
  rw [chars_natCast, chars_natCast] at h
  calc n = Nat.ofDigitChars 10 (Nat.toDigits 10 n) 0 := Nat.ofDigitChars_ten_toDigits.symm
    _ = Nat.ofDigitChars 10 (Nat.toDigits 10 m) 0 := by rw [h]
    _ = m := Nat.ofDigitChars_ten_toDigits

theorem isAsciiDigit_of_mem_chars {n : Nat} {c : Char} (h : c ∈ chars n) :
    isAsciiDigit c = true := by
  rw [chars_natCast] at h
  exact Nat.isDigit_of_mem_toDigits (by decide) (by decide) h

end Decimal

namespace Scheme

open Outcome

variable {name s : String} {v : Value}

theorem require_text (hs : s ≠ "") : require name (.text s) = .ok () := by
  have htruthy : (Value.text s).isTruthy = true := by
    rw [Value.isTruthy, Bool.not_eq_true', ← Bool.not_eq_true, String.isEmpty_iff]
    exact hs
  rw [require, if_pos htruthy]

/-! ### Integers above zero -/

theorem positiveText_eq_ok_iff {n : Nat} : positiveText name (.int n) = .ok s ↔
    1 ≤ n ∧ n < tenTo Decimal.digitLimit ∧ s = String.ofList (Decimal.chars n) := by
  unfold positiveText
  by_cases hpos : 0 < n
  · have hpos' : (0 : Int) < n := by omega
    simp only [hpos', if_true, Decimal.write, Int.natAbs_natCast]
    by_cases hlt : n < tenTo Decimal.digitLimit
    · rw [if_pos hlt, Except.ok.injEq]
      exact ⟨fun h => ⟨hpos, hlt, h.symm⟩, fun h => h.2.2.symm⟩
    · rw [if_neg hlt]
      constructor
      · intro h
        cases h
      · exact fun h => absurd h.2.1 hlt
  · have hpos' : ¬ (0 : Int) < n := by omega
    simp only [hpos', if_false]
    constructor
    · intro h
      obtain ⟨_, -, h⟩ := bind_eq_ok_iff.mp h
      cases h
    · exact fun h => absurd h.1 hpos

theorem exists_nat_of_positiveText (h : positiveText name v = .ok s) :
    ∃ n : Nat, v = .int n := by
  unfold positiveText at h
  dsimp only at h
  split at h
  · rename_i n
    split at h
    · rename_i hpos
      exact ⟨n.toNat, by rw [Int.toNat_of_nonneg (Int.le_of_lt hpos)]⟩
    · obtain ⟨_, -, h⟩ := bind_eq_ok_iff.mp h
      cases h
  · obtain ⟨_, -, h⟩ := bind_eq_ok_iff.mp h
    cases h

/-! ### Project numbers -/

/-- A number above zero that is not too long, or a numeral of such a number. The zeros in
front count for the length of a numeral. -/
inductive IsNumber : Value → Prop
  | int {n : Nat} (hpos : 0 < n) (hlt : n < tenTo Decimal.digitLimit) : IsNumber (.int n)
  | numeral {s : String} (hdigits : ∀ c ∈ s.toList, isAsciiDigit c = true)
      (hpos : ∃ c ∈ s.toList, c ≠ '0') (hlength : s.toList.length ≤ Decimal.digitLimit) :
      IsNumber (.text s)

theorem tenTo_le_tenTo {n m : Nat} (h : n ≤ m) : tenTo n ≤ tenTo m :=
  Nat.pow_le_pow_right (by decide) h

theorem hasForm_iff : (s.isEmpty || !s.toList.all isAsciiDigit) = false ↔
    s ≠ "" ∧ ∀ c ∈ s.toList, isAsciiDigit c = true := by
  rw [Bool.or_eq_false_iff, Bool.not_eq_false', List.all_eq_true, ← Bool.not_eq_true,
    String.isEmpty_iff]

theorem numberText_text_eq_ok_iff {numeral : String} : numberText (.text numeral) = .ok s ↔
    (numeral ≠ "" ∧ ∀ c ∈ numeral.toList, isAsciiDigit c = true) ∧
      numeral.toList.length ≤ Decimal.digitLimit ∧
      positiveText "project_number" (.int (Decimal.value numeral.toList)) = .ok s := by
  simp only [numberText]
  by_cases hform : (numeral.isEmpty || !numeral.toList.all isAsciiDigit) = true
  · rw [if_pos hform]
    constructor
    · intro h
      obtain ⟨n, hn⟩ := exists_nat_of_positiveText h
      cases hn
    · intro h
      rw [hasForm_iff.mpr h.1] at hform
      cases hform
  · rw [if_neg hform, bind_eq_ok_iff]
    simp only [Decimal.read_eq_ok_iff]
    constructor
    · rintro ⟨n, ⟨hlength, rfl⟩, h⟩
      exact ⟨hasForm_iff.mp (Bool.eq_false_iff.mpr hform), hlength, h⟩
    · rintro ⟨-, hlength, h⟩
      exact ⟨_, ⟨hlength, rfl⟩, h⟩

/-- What is accepted and no text is a natural number. -/
theorem exists_nat_of_numberText (hv : ∀ numeral, v ≠ .text numeral) (h : numberText v = .ok s) :
    ∃ n : Nat, v = .int n ∧ positiveText "project_number" (.int n) = .ok s := by
  unfold numberText at h
  split at h
  · exact absurd rfl (hv _)
  · obtain ⟨n, rfl⟩ := exists_nat_of_positiveText h
    exact ⟨n, rfl, h⟩

/-- Whatever is accepted is written as a natural number. -/
theorem exists_positiveText_of_numberText (h : numberText v = .ok s) :
    ∃ n : Nat, positiveText "project_number" (.int n) = .ok s := by
  by_cases hv : ∃ numeral, v = .text numeral
  · obtain ⟨numeral, rfl⟩ := hv
    exact ⟨_, (numberText_text_eq_ok_iff.mp h).2.2⟩
  · obtain ⟨n, -, hn⟩ := exists_nat_of_numberText (not_exists.mp hv) h
    exact ⟨n, hn⟩

/-- A project number is accepted exactly when it is a number, or a numeral, that is not too
long. -/
theorem exists_numberText_iff : (∃ s, numberText v = .ok s) ↔ IsNumber v := by
  constructor
  · rintro ⟨s, h⟩
    by_cases hv : ∃ numeral, v = .text numeral
    · obtain ⟨numeral, rfl⟩ := hv
      obtain ⟨⟨-, hdigits⟩, hlength, h⟩ := numberText_text_eq_ok_iff.mp h
      have hpos := (positiveText_eq_ok_iff.mp h).1
      exact .numeral hdigits ((Decimal.value_pos_iff hdigits).mp hpos) hlength
    · obtain ⟨n, rfl, h⟩ := exists_nat_of_numberText (not_exists.mp hv) h
      obtain ⟨hpos, hlt, -⟩ := positiveText_eq_ok_iff.mp h
      exact .int hpos hlt
  · intro hnumber
    cases hnumber with
    | int hpos hlt => exact ⟨_, positiveText_eq_ok_iff.mpr ⟨hpos, hlt, rfl⟩⟩
    | @numeral numeral hdigits hpos hlength =>
      have hne : numeral ≠ "" := by
        rintro rfl
        obtain ⟨c, hc, -⟩ := hpos
        cases hc
      have hlt := Nat.lt_of_lt_of_le (Decimal.value_lt hdigits) (tenTo_le_tenTo hlength)
      exact ⟨_, numberText_text_eq_ok_iff.mpr ⟨⟨hne, hdigits⟩, hlength,
        positiveText_eq_ok_iff.mpr ⟨(Decimal.value_pos_iff hdigits).mpr hpos, hlt, rfl⟩⟩⟩

theorem isAsciiDigit_of_positiveText {n : Nat} (h : positiveText name (.int n) = .ok s) :
    ∀ c ∈ s.toList, isAsciiDigit c = true := by
  obtain ⟨-, -, rfl⟩ := positiveText_eq_ok_iff.mp h
  rw [String.toList_ofList]
  exact fun c => Decimal.isAsciiDigit_of_mem_chars

theorem isAsciiDigit_of_numberText (h : numberText v = .ok s) :
    ∀ c ∈ s.toList, isAsciiDigit c = true := by
  obtain ⟨n, hn⟩ := exists_positiveText_of_numberText h
  exact isAsciiDigit_of_positiveText hn

end Scheme

end SchemaDepot
