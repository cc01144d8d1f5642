/-
# How showing a value can fail

A value has a literal unless a number in it has too many digits or it is nested too
deeply (`Value.literalWith_failsOnly`). So where a value is shown, as where a number is read,
nothing can go wrong but that the value is unsuitable. A value that holds no collection kept
apart is shown exactly when all integers in it can be written (`Value.exists_shown_iff`).

Key definitions: `Suits`, `Value.IsWritable`.
Key theorems: `Decimal.read_suits`, `Value.literalWith_failsOnly`, `Value.shown_suits`,
`Value.exists_shown_iff`, `Pool.shown_suits`.
-/
import SchemaDepot.Pool
import SchemaDepot.Proofs.Error
import SchemaDepot.Proofs.Outcome
import SchemaDepot.Proofs.Outcome.Ends

namespace SchemaDepot

open Outcome

/-- The operation fails only because a value is unsuitable. -/
abbrev Suits {α : Type} (x : Except Error α) : Prop := FailsOnly (fun e => e.isUnsuitable = true) x

theorem Decimal.read_suits (cs : List Char) : Suits (Decimal.read cs) :=
  .ite (.ok _) (.error rfl)

theorem Decimal.write_failsOnly {P : Error → Prop}
    (hlong : P (.value (.numberTooLong digitLimit))) (n : Int) : FailsOnly P (Decimal.write n) := by
  unfold write
  -- the limit is a number too large to be computed
  generalize tenTo digitLimit = limit
  exact .ite (.ok _) (.error hlong)

theorem Decimal.exists_write_iff {n : Int} :
    (∃ s, write n = .ok s) ↔ n.natAbs < tenTo digitLimit := by
  unfold write
  generalize tenTo digitLimit = limit
  by_cases hn : n.natAbs < limit
  · simp [hn]
  · simp [hn]

namespace Value

section

variable {P : Error → Prop} {apart : Nat → Except Error String}

mutual

/-- A literal is written if those of the collections kept apart are and no number is too
long. -/
theorem literalWith_failsOnly (hlong : P (.value (.numberTooLong Decimal.digitLimit)))
    (h : ∀ n, FailsOnly P (apart n)) : ∀ v : Value, FailsOnly P (literalWith apart v)
  | .null | .bool _ | .float _ | .text _ | .bytes _ | .date _ | .moment _ => .ok _
  | .int n => Decimal.write_failsOnly hlong n
  | .list items => (literalsWith_failsOnly hlong h items).bind fun _ => .ok _
  | .tuple items => (literalsWith_failsOnly hlong h items).bind fun shown => by
      split
      · exact .ok _
      · exact .ok _
  | .set items => (literalsWith_failsOnly hlong h items).bind fun _ => .ite (.ok _) (.ok _)
  | .map entries => (entryLiteralsWith_failsOnly hlong h entries).bind fun _ => .ok _
  | .shared n => h n

theorem literalsWith_failsOnly (hlong : P (.value (.numberTooLong Decimal.digitLimit)))
    (h : ∀ n, FailsOnly P (apart n)) : ∀ vs : List Value, FailsOnly P (literalsWith apart vs)
  | [] => .ok _
  | v :: vs => (literalWith_failsOnly hlong h v).bind fun _ =>
      (literalsWith_failsOnly hlong h vs).bind fun _ => .ok _

theorem entryLiteralsWith_failsOnly (hlong : P (.value (.numberTooLong Decimal.digitLimit)))
    (h : ∀ n, FailsOnly P (apart n)) :
    ∀ es : List (Value × Value), FailsOnly P (entryLiteralsWith apart es)
  | [] => .ok _
  | (k, v) :: es => (literalWith_failsOnly hlong h k).bind fun _ =>
      (literalWith_failsOnly hlong h v).bind fun _ =>
        (entryLiteralsWith_failsOnly hlong h es).bind fun _ => .ok _

end

variable (hlong : P (.value (.numberTooLong Decimal.digitLimit)))
include hlong

theorem shownWith_failsOnly (h : ∀ n, FailsOnly P (apart n)) (v : Value) :
    FailsOnly P (shownWith apart v) := by
  unfold shownWith
  split
  · exact .ok _
  · exact .ok _
  · exact .ok _
  · exact literalWith_failsOnly hlong h v

theorem literal_failsOnly (v : Value) : FailsOnly P v.literal :=
  literalWith_failsOnly hlong (fun _ => .ok _) v

theorem shown_failsOnly (v : Value) : FailsOnly P v.shown :=
  shownWith_failsOnly hlong (fun _ => .ok _) v

end

theorem shown_suits (v : Value) : Suits v.shown := shown_failsOnly (by rfl) v

/-! ### Values that are shown -/

mutual

/-- Every integer in the value can be written. -/
def IsWritable : Value → Prop
  | .int n => n.natAbs < tenTo Decimal.digitLimit
  | .list items | .tuple items | .set items => AllWritable items
  | .map entries => EntriesWritable entries
  | _ => True

/-- Every integer in the values can be written. -/
def AllWritable : List Value → Prop
  | [] => True
  | v :: vs => IsWritable v ∧ AllWritable vs

/-- Every integer in the entries can be written. -/
def EntriesWritable : List (Value × Value) → Prop
  | [] => True
  | (k, v) :: es => IsWritable k ∧ IsWritable v ∧ EntriesWritable es

end

theorem isWritable_int_iff {n : Int} :
    (Value.int n).IsWritable ↔ n.natAbs < tenTo Decimal.digitLimit := Iff.rfl

section

variable {apart : Nat → Except Error String}

mutual

/-- A literal is written exactly when all integers in the value are, if those of the collections
kept apart are. -/
theorem exists_literalWith_iff (h : ∀ n, ∃ s, apart n = .ok s) :
    ∀ v : Value, (∃ s, literalWith apart v = .ok s) ↔ v.IsWritable
  | .null | .bool _ | .float _ | .text _ | .bytes _ | .date _ | .moment _ =>
      iff_of_true ⟨_, rfl⟩ trivial
  | .int _ => Decimal.exists_write_iff
  | .list items => (exists_bind_iff fun _ => ⟨_, rfl⟩).trans (exists_literalsWith_iff h items)
  | .tuple items => (exists_bind_iff fun shown => by
      split
      · exact ⟨_, rfl⟩
      · exact ⟨_, rfl⟩).trans (exists_literalsWith_iff h items)
  | .set items => (exists_bind_iff fun shown => by
      split
      · exact ⟨_, rfl⟩
      · exact ⟨_, rfl⟩).trans (exists_literalsWith_iff h items)
  | .map entries =>
      (exists_bind_iff fun _ => ⟨_, rfl⟩).trans (exists_entryLiteralsWith_iff h entries)
  | .shared n => iff_of_true (h n) trivial

theorem exists_literalsWith_iff (h : ∀ n, ∃ s, apart n = .ok s) :
    ∀ vs : List Value, (∃ ss, literalsWith apart vs = .ok ss) ↔ AllWritable vs
  | [] => iff_of_true ⟨_, rfl⟩ trivial
  | v :: vs => by
    rw [AllWritable, ← exists_literalWith_iff h v, ← exists_literalsWith_iff h vs, literalsWith]
    simp [bind_eq_ok_iff]

theorem exists_entryLiteralsWith_iff (h : ∀ n, ∃ s, apart n = .ok s) :
    ∀ es : List (Value × Value), (∃ ss, entryLiteralsWith apart es = .ok ss) ↔ EntriesWritable es
  | [] => iff_of_true ⟨_, rfl⟩ trivial
  | (k, v) :: es => by
    rw [EntriesWritable, ← exists_literalWith_iff h k, ← exists_literalWith_iff h v,
      ← exists_entryLiteralsWith_iff h es, entryLiteralsWith]
    simp [bind_eq_ok_iff]

end

end

/-- A value is shown exactly when all integers in it can be written. -/
theorem exists_shown_iff {v : Value} : (∃ s, v.shown = .ok s) ↔ v.IsWritable := by
  unfold shown shownWith
  split
  · exact iff_of_true ⟨_, rfl⟩ trivial
  · exact iff_of_true ⟨_, rfl⟩ trivial
  · exact iff_of_true ⟨_, rfl⟩ trivial
  · exact exists_literalWith_iff (fun _ => ⟨_, rfl⟩) v

theorem eq_numberTooLong_of_shown {v : Value} {e : Error} (h : v.shown = .error e) :
    e = .value (.numberTooLong Decimal.digitLimit) :=
  (shown_failsOnly (P := (· = .value (.numberTooLong Decimal.digitLimit))) rfl v).error_of h

theorem shown_of_not_isWritable {v : Value} (h : ¬ v.IsWritable) :
    v.shown = .error (.value (.numberTooLong Decimal.digitLimit)) := by
  cases hshown : v.shown with
  | ok s => exact absurd (exists_shown_iff.mp ⟨s, hshown⟩) h
  | error e => rw [eq_numberTooLong_of_shown hshown]

end Value

namespace Pool

variable (pool : Pool)

theorem literalOf_suits (depth : Nat) (inside : List Nat) (number : Nat) :
    Suits (pool.literalOf depth inside number) := by
  induction depth generalizing inside number with
  | zero => exact .error rfl
  | succ depth ih => exact .ite (.ok _) (Value.literalWith_failsOnly (by rfl) (ih _) _)

theorem shown_suits (v : Value) : Suits (pool.shown v) :=
  Value.shownWith_failsOnly (by rfl) (pool.literalOf_suits _ _) v

end Pool

end SchemaDepot
