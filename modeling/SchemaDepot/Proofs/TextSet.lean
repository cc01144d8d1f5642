/-
# Sizes and order of sets of texts

A set of texts lists each member once, so its size is that of any list of its
members without repetition, and the sizes of disjoint sets add up.

The members are listed in order: the first one that passes a test is the least that
does, and a smaller set is listed as a part of a larger one.

Key theorems: `TextSet.toList_injective`, `TextSet.isEmpty_iff`, `TextSet.size_ofList_eq_length_iff`,
`TextSet.size_union`, `TextSet.find?_toList_eq_some_iff`, `TextSet.sublist_toList`.
-/
import Mathlib.Data.List.Perm.Subperm
import SchemaDepot.TextSet

namespace SchemaDepot.TextSet

theorem toList_injective : Function.Injective toList := fun s t h =>
  ext_mem fun x => by rw [mem_def, h, mem_def]

theorem isEmpty_iff {s : TextSet} : s.isEmpty = true ↔ ∀ x, x ∉ s := by
  simp only [isEmpty, List.isEmpty_iff, mem_def, List.eq_nil_iff_forall_not_mem]

theorem isEmpty_eq_false_iff {s : TextSet} : s.isEmpty = false ↔ ∃ x, x ∈ s := by
  rw [← Bool.not_eq_true, isEmpty_iff, not_forall_not]

theorem isEmpty_filter_iff {s : TextSet} {p : String → Bool} :
    (s.filter p).isEmpty = true ↔ ∀ x ∈ s, p x = false := by
  simp [isEmpty_iff]

theorem nodup_toList (s : TextSet) : s.toList.Nodup := by
  refine s.increasing.imp ?_
  rintro a _ h rfl
  exact Text.before_irrefl a h

theorem size_eq_length {s : TextSet} {xs : List String} (hn : xs.Nodup)
    (h : ∀ x, x ∈ s ↔ x ∈ xs) : s.size = xs.length :=
  ((List.perm_ext_iff_of_nodup s.nodup_toList hn).mpr h).length_eq

theorem size_ofList {xs : List String} (hn : xs.Nodup) : (ofList xs).size = xs.length :=
  size_eq_length hn fun _ => mem_ofList

theorem size_ofList_eq_length_iff {xs : List String} :
    (ofList xs).size = xs.length ↔ xs.Nodup := by
  constructor
  · intro hsize
    have hsub : (ofList xs).toList.Subperm xs :=
      (nodup_toList _).subperm fun x hx => mem_ofList.mp hx
    have hperm : (ofList xs).toList.Perm xs := hsub.perm_of_length_le (Nat.le_of_eq hsize.symm)
    exact hperm.nodup_iff.mp (nodup_toList _)
  · exact size_ofList

theorem size_union {s t : TextSet} (h : ∀ x ∈ s, x ∉ t) : (s.union t).size = s.size + t.size := by
  have hn : (s.toList ++ t.toList).Nodup := by
    rw [List.nodup_append]
    exact ⟨s.nodup_toList, t.nodup_toList, fun a ha b hb e => h a ha (e ▸ hb)⟩
  rw [size_eq_length hn fun x => by rw [mem_union, List.mem_append, mem_def, mem_def],
    List.length_append]
  rfl

/-! ### Order -/

/-- In an increasing list the first item that passes a test comes before the others
that do. -/
theorem find?_eq_some_iff_of_increasing {p : String → Bool} {x : String} : ∀ {xs : List String},
    xs.Pairwise Text.Before →
      (xs.find? p = some x ↔ x ∈ xs ∧ p x = true ∧ ∀ y ∈ xs, p y = true → y = x ∨ Text.Before x y)
  | [], _ => by simp
  | z :: zs, h => by
    rw [List.pairwise_cons] at h
    have ih := find?_eq_some_iff_of_increasing (p := p) (x := x) h.2
    by_cases hz : p z = true
    · rw [List.find?_cons_of_pos hz, Option.some.injEq]
      constructor
      · rintro rfl
        refine ⟨List.mem_cons_self, hz, fun y hy _ => ?_⟩
        rcases List.mem_cons.mp hy with rfl | hy
        · exact Or.inl rfl
        · exact Or.inr (h.1 y hy)
      · rintro ⟨hx, -, hleast⟩
        rcases hleast z List.mem_cons_self hz with heq | hlt
        · exact heq
        · rcases List.mem_cons.mp hx with rfl | hx
          · rfl
          · exact absurd (Text.before_trans hlt (h.1 x hx)) (Text.before_irrefl x)
    · rw [List.find?_cons_of_neg hz, ih]
      constructor
      · rintro ⟨hx, hpx, hleast⟩
        refine ⟨List.mem_cons_of_mem _ hx, hpx, fun y hy hpy => ?_⟩
        rcases List.mem_cons.mp hy with rfl | hy
        · exact absurd hpy hz
        · exact hleast y hy hpy
      · rintro ⟨hx, hpx, hleast⟩
        rcases List.mem_cons.mp hx with rfl | hx
        · exact absurd hpx hz
        · exact ⟨hx, hpx, fun y hy => hleast y (List.mem_cons_of_mem _ hy)⟩

/-- The first member that passes a test is the least one that does. -/
theorem find?_toList_eq_some_iff {s : TextSet} {p : String → Bool} {x : String} :
    s.toList.find? p = some x ↔
      x ∈ s ∧ p x = true ∧ ∀ y ∈ s, p y = true → y = x ∨ Text.Before x y :=
  find?_eq_some_iff_of_increasing s.increasing

/-- A part of a set is listed in the order of the whole. -/
theorem sublist_toList {s t : TextSet} (h : ∀ x ∈ s, x ∈ t) : s.toList.Sublist t.toList := by
  have heq : s = t.filter fun x => decide (x ∈ s) := by
    refine ext_mem fun x => ?_
    rw [mem_filter, decide_eq_true_eq]
    exact ⟨fun hx => ⟨h x hx, hx⟩, fun hx => hx.2⟩
  have hlist : s.toList = t.toList.filter fun x => decide (x ∈ s) := congrArg toList heq
  rw [hlist]
  exact List.filter_sublist

end SchemaDepot.TextSet
