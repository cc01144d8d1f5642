/-
# How operations end

An operation ends in a value or in an error. A condition on both is carried through
operations that are done in order: what is known of the value of the first may be used
for the second, and an error of either is an error of both.

Key definitions: `Outcome.Ends`, `Outcome.FailsOnly`.
Key theorems: `Outcome.Ends.bind`, `Outcome.Ends.ite`, `Outcome.Ends.mapM`.
-/
import Mathlib.Init

namespace SchemaDepot.Outcome

variable {ε α β : Type} {P : ε → Prop} {Q R : α → Prop} {S : β → Prop}

/-- The operation ends in a value with `Q` or in an error with `P`. -/
structure Ends (P : ε → Prop) (Q : α → Prop) (x : Except ε α) : Prop where
  error_of : ∀ {e : ε}, x = .error e → P e
  ok_of : ∀ {a : α}, x = .ok a → Q a

namespace Ends

variable {x y : Except ε α}

theorem error {e : ε} (h : P e) : Ends P Q (.error e : Except ε α) where
  error_of he := by
    cases he
    exact h
  ok_of ha := by cases ha

theorem ok {a : α} (h : Q a) : Ends P Q (.ok a : Except ε α) where
  error_of he := by cases he
  ok_of ha := by
    cases ha
    exact h

theorem any : Ends (fun _ => True) (fun _ => True) x where
  error_of _ := trivial
  ok_of _ := trivial

theorem ne_error {e : ε} (h : Ends P Q x) (he : ¬ P e) : x ≠ .error e := fun hx =>
  he (h.error_of hx)

theorem mono (h : Ends P Q x) (hQ : ∀ a, Q a → R a) : Ends P R x where
  error_of := h.error_of
  ok_of ha := hQ _ (h.ok_of ha)

theorem bind {f : α → Except ε β} (hx : Ends P Q x) (hf : ∀ a, Q a → Ends P S (f a)) :
    Ends P S (x >>= f) := by
  cases x with
  | ok a => exact hf a (hx.ok_of rfl)
  | error e => exact error (hx.error_of rfl)

theorem map {f : α → β} (hx : Ends P (fun a => S (f a)) x) : Ends P S (x.map f) := by
  cases x with
  | ok a => exact ok (hx.ok_of rfl)
  | error e => exact error (hx.error_of rfl)

theorem ite {c : Prop} [Decidable c] (hx : c → Ends P Q x) (hy : ¬ c → Ends P Q y) :
    Ends P Q (if c then x else y) := by
  by_cases hc : c
  · rw [if_pos hc]
    exact hx hc
  · rw [if_neg hc]
    exact hy hc

theorem check {c : Prop} [Decidable c] {x : Except ε Unit} {f : Unit → Except ε β}
    (hx : Ends P (fun _ => True) x) (hf : Ends P S (f ())) :
    Ends P S (if c then x >>= f else f ()) :=
  ite (fun _ => hx.bind fun _ _ => hf) fun _ => hf

/-- What is done in one of two ways goes on alike. -/
theorem ite_bind {c : Prop} [Decidable c] {f : α → Except ε β} (hx : c → Ends P Q x)
    (hy : ¬ c → Ends P Q y) (hf : ∀ a, Q a → Ends P S (f a)) :
    Ends P S (if c then x >>= f else y >>= f) :=
  ite (fun hc => (hx hc).bind hf) fun hc => (hy hc).bind hf

theorem mapM {f : α → Except ε β} {xs : List α} (h : ∀ a ∈ xs, Ends P S (f a)) :
    Ends P (fun ys => ∀ y ∈ ys, S y) (xs.mapM f) := by
  induction xs with
  | nil =>
    rw [List.mapM_nil]
    exact ok fun y hy => absurd hy List.not_mem_nil
  | cons a xs ih =>
    rw [List.mapM_cons]
    refine (h a List.mem_cons_self).bind fun y hy => ?_
    refine (ih fun a' ha' => h a' (List.mem_cons_of_mem _ ha')).bind fun ys hys => ?_
    exact ok fun z hz => (List.mem_cons.mp hz).elim (fun e => e ▸ hy) (hys z)

end Ends

/-- The operation fails in certain ways only. -/
def FailsOnly (P : ε → Prop) (x : Except ε α) : Prop := Ends P (fun _ => True) x

namespace FailsOnly

variable {x y : Except ε α}

theorem ok (a : α) : FailsOnly P (.ok a) := Ends.ok trivial

theorem error {e : ε} (h : P e) : FailsOnly P (.error e : Except ε α) := Ends.error h

theorem bind {f : α → Except ε β} (hx : FailsOnly P x) (hf : ∀ a, FailsOnly P (f a)) :
    FailsOnly P (x >>= f) :=
  Ends.bind hx fun a _ => hf a

theorem map (hx : FailsOnly P x) (f : α → β) : FailsOnly P (x.map f) := Ends.map hx

theorem ite {c : Prop} [Decidable c] (hx : FailsOnly P x) (hy : FailsOnly P y) :
    FailsOnly P (if c then x else y) :=
  Ends.ite (fun _ => hx) fun _ => hy

theorem mapM {f : α → Except ε β} (h : ∀ a, FailsOnly P (f a)) (xs : List α) :
    FailsOnly P (xs.mapM f) :=
  (Ends.mapM fun a _ => h a).mono fun _ _ => trivial

end FailsOnly

end SchemaDepot.Outcome
