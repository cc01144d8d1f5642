/-
# Outcomes of operations done in order

An operation made of several ends well exactly when each of them does. These are
the facts by which such an operation is taken apart, for outcomes alone and for
runs with their records.

Key theorems: `Outcome.bind_eq_ok_iff`, `Outcome.refuse_eq_ok_iff`,
`Outcome.exists_of_mem_mapM`, `Outcome.exists_mapM_iff`, `Outcome.exists_mapM_of_perm`,
`Outcome.mapM_eq_error_iff`, `Run.outcome_bind`.
-/
import Mathlib.Data.List.Forall2
import SchemaDepot.Run

namespace SchemaDepot

namespace Outcome

variable {α β ε : Type}

theorem bind_eq_ok_iff {x : Except ε α} {f : α → Except ε β} {b : β} :
    (x >>= f) = .ok b ↔ ∃ a, x = .ok a ∧ f a = .ok b := by
  cases x with
  | error e => simp [bind, Except.bind]
  | ok a => simp [bind, Except.bind]

theorem bind_eq_error_iff {x : Except ε α} {f : α → Except ε β} {e : ε} :
    (x >>= f) = .error e ↔ x = .error e ∨ ∃ a, x = .ok a ∧ f a = .error e := by
  cases x with
  | error e' => simp [bind, Except.bind]
  | ok a => simp [bind, Except.bind]

theorem exists_bind_iff {x : Except ε α} {f : α → Except ε β} (hf : ∀ a, ∃ b, f a = .ok b) :
    (∃ b, (x >>= f) = .ok b) ↔ ∃ a, x = .ok a := by
  simp only [bind_eq_ok_iff]
  constructor
  · rintro ⟨b, a, ha, -⟩
    exact ⟨a, ha⟩
  · rintro ⟨a, ha⟩
    obtain ⟨b, hb⟩ := hf a
    exact ⟨b, a, ha, hb⟩

theorem ok_bind {a : α} {f : α → Except ε β} : (Except.ok a >>= f) = f a := rfl

/-- What follows an operation counts only for what the operation gives. -/
theorem bind_congr_of_ok {x : Except ε α} {f g : α → Except ε β}
    (h : ∀ a, x = .ok a → f a = g a) : (x >>= f) = x >>= g := by
  cases x with
  | error e => rfl
  | ok a => exact h a rfl

theorem eq_ok_of_toOption {x : Except ε α} {a : α} (h : x.toOption = some a) : x = .ok a := by
  cases x with
  | error e => cases h
  | ok b => exact congrArg Except.ok (Option.some.inj h)

theorem toOption_bind (x : Except ε α) (f : α → Except ε β) :
    (x >>= f).toOption = x.toOption.bind fun a => (f a).toOption := by
  cases x <;> rfl

theorem exists_of_isOk {x : Except ε α} (h : x.isOk = true) : ∃ a, x = .ok a := by
  cases x with
  | error e => cases h
  | ok a => exact ⟨a, rfl⟩

/-- The error of an operation that fails. -/
def error? : Except ε α → Option ε
  | .error e => some e
  | .ok _ => none

theorem eq_error_of_error? {x : Except ε α} {e : ε} (h : error? x = some e) : x = .error e := by
  cases x with
  | error e' => exact congrArg Except.error (Option.some.inj h)
  | ok a => cases h

theorem refuse_eq_ok_iff {p : Prop} [Decidable p] {e : ε} {x : Except ε α} {a : α} :
    (if p then .error e else x) = .ok a ↔ ¬ p ∧ x = .ok a := by
  by_cases hp : p
  · simp [hp]
  · simp [hp]

theorem refuse_eq_error_iff {p : Prop} [Decidable p] {e e' : ε} {x : Except ε α} :
    (if p then .error e' else x) = .error e ↔ p ∧ e' = e ∨ ¬ p ∧ x = .error e := by
  by_cases hp : p
  · simp [hp]
  · simp [hp]

theorem mapM_cons_eq_ok_iff {f : α → Except ε β} {x : α} {xs : List α} {ys : List β} :
    (x :: xs).mapM f = .ok ys ↔ ∃ y rest, f x = .ok y ∧ xs.mapM f = .ok rest ∧ ys = y :: rest := by
  rw [List.mapM_cons]
  constructor
  · intro h
    obtain ⟨y, hy, h⟩ := bind_eq_ok_iff.mp h
    obtain ⟨rest, hrest, h⟩ := bind_eq_ok_iff.mp h
    cases h
    exact ⟨y, rest, hy, hrest, rfl⟩
  · rintro ⟨y, rest, hy, hrest, rfl⟩
    rw [hy, hrest]
    rfl

theorem exists_of_mem_mapM {f : α → Except ε β} {xs : List α} {ys : List β}
    (h : xs.mapM f = .ok ys) : ∀ y ∈ ys, ∃ x ∈ xs, f x = .ok y := by
  induction xs generalizing ys with
  | nil =>
    rw [List.mapM_nil] at h
    cases h
    intro y hy
    cases hy
  | cons x xs ih =>
    obtain ⟨z, rest, hz, hrest, rfl⟩ := mapM_cons_eq_ok_iff.mp h
    intro y hy
    rcases List.mem_cons.mp hy with rfl | hy
    · exact ⟨x, List.mem_cons_self, hz⟩
    · obtain ⟨x', hx', e⟩ := ih hrest y hy
      exact ⟨x', List.mem_cons_of_mem _ hx', e⟩

theorem mapM_eq_ok_iff_forall₂ {f : α → Except ε β} : ∀ {xs : List α} {ys : List β},
    xs.mapM f = .ok ys ↔ List.Forall₂ (fun x y => f x = .ok y) xs ys
  | [], ys => by
    rw [List.mapM_nil, List.forall₂_nil_left_iff]
    exact ⟨fun h => (Except.ok.inj h).symm, fun h => by rw [h]; rfl⟩
  | x :: xs, ys => by
    rw [mapM_cons_eq_ok_iff, List.forall₂_cons_left_iff]
    simp only [mapM_eq_ok_iff_forall₂]

theorem length_of_mapM {f : α → Except ε β} {xs : List α} {ys : List β}
    (h : xs.mapM f = .ok ys) : ys.length = xs.length :=
  (mapM_eq_ok_iff_forall₂.mp h).length_eq.symm

theorem mapM_eq_ok_append_iff {f : α → Except ε β} {xs : List α} {ys zs : List β} :
    xs.mapM f = .ok (ys ++ zs) ↔
      ∃ as bs, xs = as ++ bs ∧ as.mapM f = .ok ys ∧ bs.mapM f = .ok zs := by
  simp only [mapM_eq_ok_iff_forall₂]
  constructor
  · intro h
    exact ⟨xs.take ys.length, xs.drop ys.length, (List.take_append_drop _ xs).symm,
      List.forall₂_take_append xs ys zs h, List.forall₂_drop_append xs ys zs h⟩
  · rintro ⟨as, bs, rfl, has, hbs⟩
    exact List.rel_append has hbs

theorem mapM_append_eq_ok_iff {f : α → Except ε β} {as bs : List α} {ys : List β} :
    (as ++ bs).mapM f = .ok ys ↔
      ∃ front back, as.mapM f = .ok front ∧ bs.mapM f = .ok back ∧ ys = front ++ back := by
  rw [List.mapM_append]
  constructor
  · intro h
    obtain ⟨front, hfront, h⟩ := bind_eq_ok_iff.mp h
    obtain ⟨back, hback, h⟩ := bind_eq_ok_iff.mp h
    cases h
    exact ⟨front, back, hfront, hback, rfl⟩
  · rintro ⟨front, back, hfront, hback, rfl⟩
    rw [hfront, hback]
    rfl

/-- What each result is known to be a part of is a part of all results. -/
theorem map_eq_of_mapM {γ : Type} {f : α → Except ε β} {g : α → γ} {p : β → γ}
    (hfg : ∀ x y, f x = .ok y → g x = p y) {xs : List α} {ys : List β}
    (h : xs.mapM f = .ok ys) : xs.map g = ys.map p := by
  induction xs generalizing ys with
  | nil =>
    rw [List.mapM_nil] at h
    cases h
    rfl
  | cons x xs ih =>
    obtain ⟨y, rest, hy, hrest, rfl⟩ := mapM_cons_eq_ok_iff.mp h
    rw [List.map_cons, List.map_cons, hfg x y hy, ih hrest]

theorem mapM_eq_ok_map {γ : Type} {f : α → Except ε β} {g : α → Except ε γ} {p : β → γ}
    (hfg : ∀ x y, f x = .ok y → g x = .ok (p y)) {xs : List α} {ys : List β}
    (h : xs.mapM f = .ok ys) : xs.mapM g = .ok (ys.map p) := by
  induction xs generalizing ys with
  | nil =>
    rw [List.mapM_nil] at h
    cases h
    rfl
  | cons x xs ih =>
    obtain ⟨y, rest, hy, hrest, rfl⟩ := mapM_cons_eq_ok_iff.mp h
    exact mapM_cons_eq_ok_iff.mpr ⟨p y, rest.map p, hfg x y hy, ih hrest, rfl⟩

/-- What is done on each item in two passes is done in one. -/
theorem mapM_eq_ok_of_passes {γ : Type} {f : α → Except ε β} {g : β → Except ε γ}
    {k : α → Except ε γ} (hk : ∀ x y z, f x = .ok y → g y = .ok z → k x = .ok z) {xs : List α}
    {ys : List β} {zs : List γ} (hf : xs.mapM f = .ok ys) (hg : ys.mapM g = .ok zs) :
    xs.mapM k = .ok zs := by
  induction xs generalizing ys zs with
  | nil =>
    rw [List.mapM_nil] at hf
    cases hf
    exact hg
  | cons x xs ih =>
    obtain ⟨y, ys, hy, hys, rfl⟩ := mapM_cons_eq_ok_iff.mp hf
    obtain ⟨z, zs, hz, hzs, rfl⟩ := mapM_cons_eq_ok_iff.mp hg
    exact mapM_cons_eq_ok_iff.mpr ⟨z, zs, hk x y z hy hz, ih hys hzs, rfl⟩

theorem mapM_eq_ok_map_of_forall {f : α → Except ε β} {g : α → β} {xs : List α}
    (h : ∀ x ∈ xs, f x = .ok (g x)) : xs.mapM f = .ok (xs.map g) := by
  induction xs with
  | nil => rfl
  | cons x xs ih =>
    obtain ⟨hx, hxs⟩ := List.forall_mem_cons.mp h
    exact mapM_cons_eq_ok_iff.mpr ⟨g x, xs.map g, hx, ih hxs, rfl⟩

/-- What undoes an operation on each item undoes it on all. -/
theorem mapM_map_eq_ok {f : α → Except ε β} {g : β → α} {ys : List β}
    (h : ∀ y ∈ ys, f (g y) = .ok y) : (ys.map g).mapM f = .ok ys := by
  induction ys with
  | nil => rfl
  | cons y ys ih =>
    obtain ⟨hy, hys⟩ := List.forall_mem_cons.mp h
    exact mapM_cons_eq_ok_iff.mpr ⟨y, ys, hy, ih hys, rfl⟩

theorem exists_mem_of_mapM {f : α → Except ε β} {xs : List α} {ys : List β}
    (h : xs.mapM f = .ok ys) : ∀ x ∈ xs, ∃ y ∈ ys, f x = .ok y := by
  induction xs generalizing ys with
  | nil =>
    intro x hx
    cases hx
  | cons x xs ih =>
    obtain ⟨y, rest, hy, hrest, rfl⟩ := mapM_cons_eq_ok_iff.mp h
    intro x' hx'
    rcases List.mem_cons.mp hx' with rfl | hx'
    · exact ⟨y, List.mem_cons_self, hy⟩
    · obtain ⟨y', hy', e⟩ := ih hrest x' hx'
      exact ⟨y', List.mem_cons_of_mem _ hy', e⟩

theorem exists_mapM_iff {f : α → Except ε β} {xs : List α} :
    (∃ ys, xs.mapM f = .ok ys) ↔ ∀ x ∈ xs, ∃ y, f x = .ok y := by
  induction xs with
  | nil => exact ⟨fun _ x hx => absurd hx List.not_mem_nil, fun _ => ⟨[], List.mapM_nil⟩⟩
  | cons x xs ih =>
    simp only [mapM_cons_eq_ok_iff, List.forall_mem_cons, ← ih]
    constructor
    · rintro ⟨ys, y, rest, hy, hrest, -⟩
      exact ⟨⟨y, hy⟩, ⟨rest, hrest⟩⟩
    · rintro ⟨⟨y, hy⟩, ⟨rest, hrest⟩⟩
      exact ⟨y :: rest, y, rest, hy, hrest, rfl⟩

theorem mapM_congr_of_forall₂ {f g : α → Except ε β} {xs ys : List α}
    (h : List.Forall₂ (fun x y => f x = g y) xs ys) : xs.mapM f = ys.mapM g := by
  induction h with
  | nil => rfl
  | cons hxy _ ih => rw [List.mapM_cons, List.mapM_cons, hxy, ih]

theorem map_mapM {γ : Type} {f : α → Except ε β} {p : β → γ} (xs : List α) :
    (xs.mapM f).map (List.map p) = xs.mapM fun x => (f x).map p := by
  induction xs with
  | nil => rfl
  | cons x xs ih =>
    rw [List.mapM_cons, List.mapM_cons, ← ih]
    cases f x with
    | error e => rfl
    | ok y => cases xs.mapM f <;> rfl

/-- An operation on items in another order gives the same results in another order. -/
theorem exists_mapM_of_perm {f : α → Except ε β} {xs ys : List α} (h : xs.Perm ys) {as : List β}
    (has : xs.mapM f = .ok as) : ∃ bs, ys.mapM f = .ok bs ∧ as.Perm bs := by
  induction h generalizing as with
  | nil => exact ⟨as, has, .rfl⟩
  | cons x _ ih =>
    obtain ⟨a, rest, hx, hrest, rfl⟩ := mapM_cons_eq_ok_iff.mp has
    obtain ⟨bs, hbs, hperm⟩ := ih hrest
    exact ⟨a :: bs, mapM_cons_eq_ok_iff.mpr ⟨a, bs, hx, hbs, rfl⟩, hperm.cons a⟩
  | swap x y xs =>
    obtain ⟨b, back, hy, hback, rfl⟩ := mapM_cons_eq_ok_iff.mp has
    obtain ⟨a, rest, hx, hrest, rfl⟩ := mapM_cons_eq_ok_iff.mp hback
    have hfront : (y :: xs).mapM f = .ok (b :: rest) :=
      mapM_cons_eq_ok_iff.mpr ⟨b, rest, hy, hrest, rfl⟩
    exact ⟨a :: b :: rest, mapM_cons_eq_ok_iff.mpr ⟨a, b :: rest, hx, hfront, rfl⟩, .swap a b rest⟩
  | trans _ _ ih ih' =>
    obtain ⟨bs, hbs, hperm⟩ := ih has
    obtain ⟨cs, hcs, hperm'⟩ := ih' hbs
    exact ⟨cs, hcs, hperm.trans hperm'⟩

/-- Done on the items in order, the operation gets as far as this one. -/
def Reaches (f : α → Except ε β) (xs : List α) (x : α) : Prop :=
  ∃ front rest, xs = front ++ x :: rest ∧ ∀ y ∈ front, ∃ b, f y = .ok b

theorem Reaches.mem {f : α → Except ε β} {xs : List α} {x : α} (h : Reaches f xs x) : x ∈ xs := by
  obtain ⟨front, rest, rfl, -⟩ := h
  exact List.mem_append_right _ List.mem_cons_self

theorem not_reaches_nil {f : α → Except ε β} {x : α} : ¬ Reaches f [] x := fun h =>
  absurd h.mem List.not_mem_nil

/-- The first item is reached, and what comes behind it where the operation ends well on it. -/
theorem reaches_cons_iff {f : α → Except ε β} {xs : List α} {x z : α} :
    Reaches f (z :: xs) x ↔ x = z ∨ (∃ b, f z = .ok b) ∧ Reaches f xs x := by
  constructor
  · rintro ⟨front, rest, hxs, hfront⟩
    cases front with
    | nil =>
      cases hxs
      exact Or.inl rfl
    | cons y front =>
      cases hxs
      obtain ⟨hy, hfront⟩ := List.forall_mem_cons.mp hfront
      exact Or.inr ⟨hy, front, rest, rfl, hfront⟩
  · rintro (rfl | ⟨hz, front, rest, rfl, hfront⟩)
    · exact ⟨[], xs, rfl, fun y hy => absurd hy List.not_mem_nil⟩
    · exact ⟨z :: front, rest, rfl, List.forall_mem_cons.mpr ⟨hz, hfront⟩⟩

theorem exists_reaches_cons {f : α → Except ε β} {xs : List α} {z : α} {p : α → Prop} :
    (∃ x, Reaches f (z :: xs) x ∧ p x) ↔ p z ∨ (∃ b, f z = .ok b) ∧ ∃ x, Reaches f xs x ∧ p x := by
  simp only [reaches_cons_iff]
  constructor
  · rintro ⟨x, rfl | ⟨hz, hx⟩, hp⟩
    · exact Or.inl hp
    · exact Or.inr ⟨hz, x, hx, hp⟩
  · rintro (hp | ⟨hz, x, hx, hp⟩)
    · exact ⟨z, Or.inl rfl, hp⟩
    · exact ⟨x, Or.inr ⟨hz, hx⟩, hp⟩

/-- An operation done on each item fails as it does on the first item on which it fails. -/
theorem mapM_eq_error_iff {f : α → Except ε β} {xs : List α} {e : ε} :
    xs.mapM f = .error e ↔ ∃ x, Reaches f xs x ∧ f x = .error e := by
  induction xs with
  | nil =>
    rw [List.mapM_nil]
    constructor
    · intro h
      cases h
    · rintro ⟨x, hx, -⟩
      exact absurd hx not_reaches_nil
  | cons z xs ih =>
    have hcons : (z :: xs).mapM f = .error e ↔
        f z = .error e ∨ (∃ b, f z = .ok b) ∧ xs.mapM f = .error e := by
      rw [List.mapM_cons, bind_eq_error_iff]
      simp only [bind_eq_error_iff, pure, Except.pure, reduceCtorEq, and_false, exists_false,
        or_false, exists_and_right]
    rw [hcons, ih, exists_reaches_cons]

/-- An operation that can fail in one way only fails alike on items in another order. -/
theorem mapM_eq_error_of_perm {f : α → Except ε β} {e : ε}
    (hf : ∀ (x : α) (e' : ε), f x = .error e' → e' = e) {xs ys : List α} (h : xs.Perm ys) {e' : ε}
    (hxs : xs.mapM f = .error e') : ys.mapM f = .error e' := by
  have hone : ∀ {zs : List α} {e'' : ε}, zs.mapM f = .error e'' → e'' = e := by
    intro zs e'' hzs
    obtain ⟨x, -, hx⟩ := mapM_eq_error_iff.mp hzs
    exact hf x e'' hx
  cases hys : ys.mapM f with
  | error e'' => rw [hone hxs, hone hys]
  | ok bs =>
    obtain ⟨as, has, -⟩ := exists_mapM_of_perm h.symm hys
    rw [has] at hxs
    cases hxs

theorem exists_of_mem_mapM_option {f : α → Option β} {xs : List α} {ys : List β}
    (h : xs.mapM f = some ys) : ∀ y ∈ ys, ∃ x ∈ xs, f x = some y := by
  induction xs generalizing ys with
  | nil =>
    rw [List.mapM_nil] at h
    cases h
    intro y hy
    cases hy
  | cons x xs ih =>
    rw [List.mapM_cons] at h
    obtain ⟨z, hz, h⟩ := Option.bind_eq_some_iff.mp h
    obtain ⟨rest, hrest, h⟩ := Option.bind_eq_some_iff.mp h
    cases h
    intro y hy
    rcases List.mem_cons.mp hy with rfl | hy
    · exact ⟨x, List.mem_cons_self, hz⟩
    · obtain ⟨x', hx', e⟩ := ih hrest y hy
      exact ⟨x', List.mem_cons_of_mem _ hx', e⟩

end Outcome

namespace Run

variable {α β : Type}

theorem outcome_bind (x : Run α) (f : α → Run β) :
    (x >>= f).outcome = x.outcome >>= fun a => (f a).outcome := by
  change (Run.bind x f).outcome = _
  unfold Run.bind
  cases x.outcome with
  | error e => rfl
  | ok a => rfl

theorem bind_outcome_eq_ok_iff {x : Run α} {f : α → Run β} {b : β} :
    (x >>= f).outcome = .ok b ↔ ∃ a, x.outcome = .ok a ∧ (f a).outcome = .ok b := by
  rw [outcome_bind, Outcome.bind_eq_ok_iff]

theorem bind_outcome_eq_error_iff {x : Run α} {f : α → Run β} {e : Error} :
    (x >>= f).outcome = .error e ↔
      x.outcome = .error e ∨ ∃ a, x.outcome = .ok a ∧ (f a).outcome = .error e := by
  rw [outcome_bind, Outcome.bind_eq_error_iff]

end Run

end SchemaDepot
