/-
# Records of runs in order

What a run of several parts logs is what its parts log, up to the first that fails.

Key definition: `Run.LogsSuccess`.
Key theorems: `Run.ok_bind`, `Run.exists_eq_of_ofExcept_bind`, `Run.records_bind_of_ok`,
`Run.records_bind_of_error`, `Run.LogsSuccess.after`.
-/
import SchemaDepot.Proofs.Outcome

namespace SchemaDepot

namespace Run

variable {α β : Type} {e : Error}

theorem ok_bind (a : α) (f : α → Run β) : (ofExcept (.ok a) >>= f) = f a := rfl

theorem error_bind (f : α → Run β) : (ofExcept (.error e) >>= f) = fail e := rfl

/-- If what follows a check ends well, the check did, and nothing else is seen of it. -/
theorem exists_eq_of_ofExcept_bind {x : Except Error α} {f : α → Run β} {b : β}
    (h : (ofExcept x >>= f).outcome = .ok b) : ∃ a, x = .ok a ∧ (ofExcept x >>= f) = f a := by
  obtain ⟨a, ha, -⟩ := bind_outcome_eq_ok_iff.mp h
  have hx : x = .ok a := ha
  exact ⟨a, hx, by rw [hx, ok_bind]⟩

theorem records_bind_of_ok {x : Run α} {f : α → Run β} {a : α} (h : x.outcome = .ok a) :
    (x >>= f).records = x.records ++ (f a).records := by
  change (Run.bind x f).records = _
  unfold Run.bind
  rw [h]

theorem records_bind_of_error {x : Run α} {f : α → Run β} (h : x.outcome = .error e) :
    (x >>= f).records = x.records := by
  change (Run.bind x f).records = _
  unfold Run.bind
  rw [h]

theorem records_bind_ofExcept (x : Run α) (f : α → Except Error β) :
    (x >>= fun a => ofExcept (f a)).records = x.records := by
  cases h : x.outcome with
  | error e => exact records_bind_of_error h
  | ok a =>
    rw [records_bind_of_ok h]
    exact List.append_nil _

/-! ### Runs that log their success -/

/-- The run logs the record if it ends well, and nothing if it fails. -/
def LogsSuccess (x : Run α) (record : Log.Record) : Prop :=
  x.records = if x.outcome.isOk then [record] else []

variable {x : Run α} {record : Log.Record}

theorem LogsSuccess.records_of_ok (h : x.LogsSuccess record) {a : α} (hx : x.outcome = .ok a) :
    x.records = [record] := by
  rw [h, hx]
  rfl

theorem LogsSuccess.records_of_error (h : x.LogsSuccess record) (hx : x.outcome = .error e) :
    x.records = [] := by
  rw [h, hx]
  rfl

/-- What logs its success after a check still does with the check. -/
theorem LogsSuccess.after {x : Except Error α} {f : α → Run β}
    (h : ∀ a, x = .ok a → (f a).LogsSuccess record) : (ofExcept x >>= f).LogsSuccess record := by
  cases x with
  | error e => exact rfl
  | ok a =>
    rw [ok_bind]
    exact h a rfl

end Run

end SchemaDepot
