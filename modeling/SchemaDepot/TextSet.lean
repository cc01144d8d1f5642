/-
# Finite sets of texts

Identifiers, template names and placeholder tokens are collected in sets, and a
set is always shown in the order of its texts by code point. `TextSet` keeps
that order in its representation: a strictly increasing list. So two sets with
the same members are equal, whatever order they were collected in.

Key definitions: `TextSet`, `TextSet.ofList`, `TextSet.filter`, `TextSet.union`.
Key theorems: `TextSet.mem_insert`, `TextSet.mem_ofList`, `TextSet.ext_mem`.
-/
import SchemaDepot.Text.Order

namespace SchemaDepot

/-- Puts a text at its place in an increasing list, unless it is there already. -/
def insertInOrder (x : String) : List String → List String
  | [] => [x]
  | y :: ys =>
    if Text.Before x y then x :: y :: ys
    else if x = y then y :: ys
    else y :: insertInOrder x ys

theorem mem_insertInOrder {x z : String} : ∀ {ys : List String},
    z ∈ insertInOrder x ys ↔ z = x ∨ z ∈ ys
  | [] => by simp [insertInOrder]
  | y :: ys => by
    unfold insertInOrder
    split
    · simp
    · split
      · rename_i h; subst h; simp
      · rw [List.mem_cons, List.mem_cons, mem_insertInOrder]
        constructor
        · rintro (h | h | h) <;> simp [h]
        · rintro (h | h | h) <;> simp [h]

theorem before_of_not_before_of_ne {x y : String} (h : ¬ Text.Before x y) (hne : x ≠ y) :
    Text.Before y x :=
  Decidable.byContradiction fun h' => hne (Text.eq_of_not_before h h')

theorem pairwise_insertInOrder {x : String} : ∀ {ys : List String},
    ys.Pairwise Text.Before → (insertInOrder x ys).Pairwise Text.Before
  | [], _ => by simp [insertInOrder]
  | y :: ys, h => by
    rw [List.pairwise_cons] at h
    unfold insertInOrder
    split
    · rename_i hxy
      refine List.pairwise_cons.mpr ⟨?_, List.pairwise_cons.mpr h⟩
      intro z hz
      rcases List.mem_cons.mp hz with rfl | hz
      · exact hxy
      · exact Text.before_trans hxy (h.1 z hz)
    · split
      · exact List.pairwise_cons.mpr h
      · rename_i hxy hne
        refine List.pairwise_cons.mpr ⟨?_, pairwise_insertInOrder h.2⟩
        intro z hz
        rcases mem_insertInOrder.mp hz with rfl | hz
        · exact before_of_not_before_of_ne hxy hne
        · exact h.1 z hz

/-- A finite set of texts, listed by code point. -/
structure TextSet where
  /-- The members, each once, in increasing order. -/
  toList : List String
  /-- The list is strictly increasing. -/
  increasing : toList.Pairwise Text.Before
deriving DecidableEq

namespace TextSet

/-- No text at all. -/
def empty : TextSet := ⟨[], List.Pairwise.nil⟩

instance : Inhabited TextSet := ⟨empty⟩

instance : Membership String TextSet := ⟨fun s x => x ∈ s.toList⟩

instance (x : String) (s : TextSet) : Decidable (x ∈ s) :=
  inferInstanceAs (Decidable (x ∈ s.toList))

/-- The set with one more text. -/
def insert (s : TextSet) (x : String) : TextSet :=
  ⟨insertInOrder x s.toList, pairwise_insertInOrder s.increasing⟩

/-- The set of the texts of a list. -/
def ofList (xs : List String) : TextSet := xs.foldl insert empty

/-- The number of members. -/
def size (s : TextSet) : Nat := s.toList.length

/-- The set has no member. -/
def isEmpty (s : TextSet) : Bool := s.toList.isEmpty

/-- The members that pass a test. -/
def filter (p : String → Bool) (s : TextSet) : TextSet :=
  ⟨s.toList.filter p, s.increasing.filter p⟩

/-- The members of either set. -/
def union (s t : TextSet) : TextSet := t.toList.foldl insert s

/-- The members of the first set that are not in the second. -/
def difference (s t : TextSet) : TextSet := s.filter fun x => decide (x ∉ t)

/-- The members of both sets. -/
def intersection (s t : TextSet) : TextSet := s.filter fun x => decide (x ∈ t)

/-- The members in order, with a separator between them. -/
def joined (separator : String) (s : TextSet) : String := separator.intercalate s.toList

/-! ### Membership -/

theorem mem_def {x : String} {s : TextSet} : x ∈ s ↔ x ∈ s.toList := Iff.rfl

@[simp] theorem mem_insert {x y : String} {s : TextSet} : x ∈ s.insert y ↔ x = y ∨ x ∈ s :=
  mem_insertInOrder

theorem mem_foldl_insert {x : String} : ∀ {xs : List String} {s : TextSet},
    x ∈ xs.foldl insert s ↔ x ∈ xs ∨ x ∈ s
  | [], s => by simp
  | y :: ys, s => by
    rw [List.foldl_cons, mem_foldl_insert, mem_insert]
    simp only [List.mem_cons]
    constructor
    · rintro (h | h | h) <;> simp [h]
    · rintro ((h | h) | h) <;> simp [h]

@[simp] theorem mem_ofList {x : String} {xs : List String} : x ∈ ofList xs ↔ x ∈ xs := by
  unfold ofList
  rw [mem_foldl_insert]
  simp [empty, mem_def]

@[simp] theorem mem_filter {x : String} {p : String → Bool} {s : TextSet} :
    x ∈ s.filter p ↔ x ∈ s ∧ p x = true := by
  simp [mem_def, filter]

@[simp] theorem mem_union {x : String} {s t : TextSet} : x ∈ s.union t ↔ x ∈ s ∨ x ∈ t := by
  unfold union
  rw [mem_foldl_insert, Or.comm]
  rfl

@[simp] theorem mem_difference {x : String} {s t : TextSet} :
    x ∈ s.difference t ↔ x ∈ s ∧ x ∉ t := by
  simp [difference]

@[simp] theorem mem_intersection {x : String} {s t : TextSet} :
    x ∈ s.intersection t ↔ x ∈ s ∧ x ∈ t := by
  simp [intersection]

/-! ### Equality -/

/-- Two increasing lists with the same members are the same. -/
theorem eq_of_increasing : ∀ {xs ys : List String}, xs.Pairwise Text.Before → ys.Pairwise Text.Before →
    (∀ z, z ∈ xs ↔ z ∈ ys) → xs = ys
  | [], [], _, _, _ => rfl
  | [], y :: ys, _, _, h => absurd ((h y).mpr List.mem_cons_self) List.not_mem_nil
  | x :: xs, [], _, _, h => absurd ((h x).mp List.mem_cons_self) List.not_mem_nil
  | x :: xs, y :: ys, hx, hy, h => by
    rw [List.pairwise_cons] at hx hy
    have hxy : x = y := by
      rcases List.mem_cons.mp ((h x).mp List.mem_cons_self) with e | hmem
      · exact e
      · rcases List.mem_cons.mp ((h y).mpr List.mem_cons_self) with e | hmem'
        · exact e.symm
        · exact absurd (Text.before_trans (hy.1 x hmem) (hx.1 y hmem')) (Text.before_irrefl y)
    subst hxy
    rw [eq_of_increasing hx.2 hy.2]
    intro z
    constructor
    · intro hz
      rcases List.mem_cons.mp ((h z).mp (List.mem_cons_of_mem _ hz)) with e | hmem
      · exact absurd (e ▸ hx.1 z hz) (Text.before_irrefl x)
      · exact hmem
    · intro hz
      rcases List.mem_cons.mp ((h z).mpr (List.mem_cons_of_mem _ hz)) with e | hmem
      · exact absurd (e ▸ hy.1 z hz) (Text.before_irrefl x)
      · exact hmem

theorem ext_mem {s t : TextSet} (h : ∀ x, x ∈ s ↔ x ∈ t) : s = t := by
  have hl := eq_of_increasing s.increasing t.increasing h
  cases s
  cases t
  subst hl
  rfl

end TextSet

end SchemaDepot
