/-
# What a listing holds

A name of a listing has one value, so finding the value of a name is finding its
entry, and the order of the entries does not matter to it. What a listing made from a
list holds is in the list: each name that comes in
it, with the value that comes last under the name. An operation done on each value
keeps the names and ends well exactly when it does on each value.

Key definition: `Listing.restrict`.
Key theorems: `Listing.get?_eq_some_iff`, `Listing.has_eq_true_iff`,
`Listing.mem_of_get?_ofList`, `Listing.size_ofList`, `Listing.get?_ofList_eq_some_iff`,
`Listing.ofList_entries`,
`Listing.of_traverse_eq_ok`, `Listing.exists_traverse_iff`, `Listing.traverse_eq_error_iff`.
-/
import Mathlib.Data.List.Induction
import SchemaDepot.Listing
import SchemaDepot.Proofs.Outcome
import SchemaDepot.Proofs.TextSet

namespace SchemaDepot.Listing

variable {α : Type}

theorem lookup_eq_some_iff_mem {x : String} {v : α} {es : List (String × α)}
    (h : (es.map Prod.fst).Nodup) : es.lookup x = some v ↔ (x, v) ∈ es := by
  induction es with
  | nil => simp
  | cons e es ih =>
    obtain ⟨k, w⟩ := e
    rw [List.map_cons, List.nodup_cons] at h
    by_cases hx : x = k
    · subst hx
      have hout : (x, v) ∉ es := fun hmem => h.1 (List.mem_map.mpr ⟨(x, v), hmem, rfl⟩)
      simp [hout, eq_comm]
    · have hbeq : (x == k) = false := by simp [hx]
      simp [List.lookup_cons, hbeq, hx, ih h.2]

theorem get?_eq_some_iff {l : Listing α} {x : String} {v : α} :
    l.get? x = some v ↔ (x, v) ∈ l.entries :=
  lookup_eq_some_iff_mem l.distinct

theorem has_eq_true_iff_mem {l : Listing α} {x : String} : l.has x = true ↔ x ∈ l.keys := by
  simp [has]

theorem has_eq_true_iff {l : Listing α} {x : String} : l.has x = true ↔ ∃ v, l.get? x = some v := by
  simp [has_eq_true_iff_mem, get?_eq_some_iff, keys]

theorem has_eq_isSome (l : Listing α) (x : String) : l.has x = (l.get? x).isSome := by
  rw [Bool.eq_iff_iff, has_eq_true_iff, Option.isSome_iff_exists]

theorem mem_keys_of_get? {l : Listing α} {x : String} {v : α} (h : l.get? x = some v) :
    x ∈ l.keys :=
  has_eq_true_iff_mem.mp (has_eq_true_iff.mpr ⟨v, h⟩)

theorem exists_get?_of_mem_keys {l : Listing α} {x : String} (h : x ∈ l.keys) :
    ∃ v, l.get? x = some v :=
  has_eq_true_iff.mp (has_eq_true_iff_mem.mpr h)

theorem get?_eq_none {l : Listing α} {x : String} (h : x ∉ l.keys) : l.get? x = none :=
  Option.eq_none_iff_forall_ne_some.mpr fun _ hv => h (mem_keys_of_get? hv)

@[simp] theorem mem_keySet {l : Listing α} {x : String} : x ∈ l.keySet ↔ x ∈ l.keys :=
  TextSet.mem_ofList

theorem size_keySet (l : Listing α) : l.keySet.size = l.size := by
  rw [keySet, keys, TextSet.size_ofList l.distinct, List.length_map, size]

theorem mem_of_get?_foldl {x : String} {v : α} {es : List (String × α)} {l : Listing α}
    (h : (es.foldl (fun l e => l.put e.1 e.2) l).get? x = some v) :
    (x, v) ∈ es ∨ l.get? x = some v := by
  induction es generalizing l with
  | nil => exact Or.inr h
  | cons e es ih =>
    rcases ih h with hmem | hget
    · exact Or.inl (List.mem_cons_of_mem _ hmem)
    · rw [get?_put] at hget
      split at hget
      · rename_i hx
        cases hget
        exact Or.inl (hx ▸ List.mem_cons_self)
      · exact Or.inr hget

theorem mem_of_get?_ofList {es : List (String × α)} {x : String} {v : α}
    (h : (ofList es).get? x = some v) : (x, v) ∈ es := by
  rcases mem_of_get?_foldl h with hmem | hget
  · exact hmem
  · rw [get?_empty] at hget
    cases hget

/-! ### The listing of a list -/

theorem ofList_concat (es : List (String × α)) (e : String × α) :
    ofList (es ++ [e]) = (ofList es).put e.1 e.2 := by
  rw [ofList, List.foldl_append]
  rfl

theorem mem_keys_ofList {es : List (String × α)} {x : String} :
    x ∈ (ofList es).keys ↔ x ∈ es.map Prod.fst := by
  induction es using List.reverseRecOn with
  | nil => exact Iff.rfl
  | append_singleton es e ih =>
    rw [ofList_concat, mem_keys_put, ih, List.map_append, List.mem_append, Or.comm,
      List.map_singleton, List.mem_singleton]

theorem size_ofList (es : List (String × α)) :
    (ofList es).size = (TextSet.ofList (es.map Prod.fst)).size := by
  have hset : (ofList es).keySet = TextSet.ofList (es.map Prod.fst) :=
    TextSet.ext_mem fun x => by rw [mem_keySet, mem_keys_ofList, TextSet.mem_ofList]
  rw [← size_keySet, hset]

theorem get?_ofList (es : List (String × α)) (x : String) :
    (ofList es).get? x = es.reverse.lookup x := by
  induction es using List.reverseRecOn with
  | nil => rfl
  | append_singleton es e ih =>
    rw [ofList_concat, get?_put, ih, List.reverse_concat, List.lookup_cons]
    by_cases hx : x = e.1
    · simp [hx]
    · have hbeq : (x == e.1) = false := by simp [hx]
      simp [hx, hbeq]

/-- Under a name is the value that comes last under it in the list. -/
theorem get?_ofList_eq_some_iff {es : List (String × α)} {x : String} {v : α} :
    (ofList es).get? x = some v ↔
      ∃ before after, es = before ++ (x, v) :: after ∧ x ∉ after.map Prod.fst := by
  have hout : ∀ after : List (String × α),
      (∀ p ∈ after, (x != p.1) = true) ↔ x ∉ after.map Prod.fst := by
    intro after
    simp only [bne_iff_ne, List.mem_map, not_exists, not_and]
    exact ⟨fun h p hp e => h p hp e.symm, fun h p hp e => h p hp e.symm⟩
  rw [get?_ofList, List.lookup_eq_some_iff]
  constructor
  · rintro ⟨l₁, l₂, hsplit, hne⟩
    refine ⟨l₂.reverse, l₁.reverse, ?_, ?_⟩
    · rw [← List.reverse_reverse es, hsplit, List.reverse_append, List.reverse_cons,
        List.append_assoc]
      rfl
    · rw [← hout]
      exact fun p hp => hne p (List.mem_reverse.mp hp)
  · rintro ⟨before, after, rfl, hnot⟩
    refine ⟨after.reverse, before.reverse, ?_, ?_⟩
    · rw [List.reverse_append, List.reverse_cons, List.append_assoc]
      rfl
    · exact fun p hp => (hout after).mpr hnot p (List.mem_reverse.mp hp)

theorem get?_ofList_of_nodup {es : List (String × α)} (h : (es.map Prod.fst).Nodup) {x : String}
    {v : α} (hv : (x, v) ∈ es) : (ofList es).get? x = some v := by
  obtain ⟨before, after, rfl⟩ := List.append_of_mem hv
  refine get?_ofList_eq_some_iff.mpr ⟨before, after, rfl, ?_⟩
  rw [List.map_append, List.map_cons, List.nodup_append] at h
  exact (List.nodup_cons.mp h.2.1).1

theorem store_of_not_mem {name : String} {value : α} {es : List (String × α)}
    (h : name ∉ es.map Prod.fst) : store name value es = es ++ [(name, value)] := by
  induction es with
  | nil => rfl
  | cons e es ih =>
    simp only [List.map_cons, List.mem_cons, not_or] at h
    rw [store, if_neg (Ne.symm h.1), ih h.2, List.cons_append]

theorem entries_ofList {es : List (String × α)} (h : (es.map Prod.fst).Nodup) :
    (ofList es).entries = es := by
  induction es using List.reverseRecOn with
  | nil => rfl
  | append_singleton es e ih =>
    rw [List.map_append, List.nodup_append] at h
    obtain ⟨hes, -, hapart⟩ := h
    have hout : e.1 ∉ es.map Prod.fst := fun hmem => hapart _ hmem _ List.mem_cons_self rfl
    have hkept := ih hes
    rw [ofList_concat]
    change store e.1 e.2 (ofList es).entries = _
    rw [hkept, store_of_not_mem hout]

theorem ofList_entries (l : Listing α) : ofList l.entries = l := by
  have hkept := entries_ofList l.distinct
  cases hl : ofList l.entries with
  | mk entries distinct =>
    rw [hl] at hkept
    cases l
    cases hkept
    rfl

/-! ### Order and parts -/

theorem get?_eq_of_perm {l l' : Listing α} (h : l.entries.Perm l'.entries) (x : String) :
    l.get? x = l'.get? x := by
  refine Option.ext fun v => ?_
  rw [get?_eq_some_iff, get?_eq_some_iff, h.mem_iff]

/-- The entries whose names are in a set. -/
def restrict (l : Listing α) (s : TextSet) : Listing α where
  entries := l.entries.filter fun e => decide (e.1 ∈ s)
  distinct := (List.Sublist.map Prod.fst List.filter_sublist).nodup l.distinct

theorem get?_restrict_of_mem {l : Listing α} {s : TextSet} {x : String} (hx : x ∈ s) :
    (l.restrict s).get? x = l.get? x := by
  refine Option.ext fun v => ?_
  simp only [get?_eq_some_iff, restrict, List.mem_filter, hx, decide_true, and_true]

theorem mem_of_mem_keys_restrict {l : Listing α} {s : TextSet} {x : String}
    (h : x ∈ (l.restrict s).keys) : x ∈ s := by
  obtain ⟨e, he, rfl⟩ := List.mem_map.mp h
  exact of_decide_eq_true (List.mem_filter.mp he).2

/-! ### An operation on each value -/

section

variable {β ε : Type} {f : α → Except ε β}

/-- What the operation gives for each entry is the entry of the same name. -/
theorem mem_of_traverseEntries : ∀ {es : List (String × α)}
    {fs : { fs : List (String × β) // fs.map Prod.fst = es.map Prod.fst }},
    traverseEntries f es = .ok fs →
      ∀ x b, (x, b) ∈ fs.1 ↔ ∃ a, (x, a) ∈ es ∧ f a = .ok b
  | [], fs, h, x, b => by
    cases h
    simp
  | e :: es, fs, h, x, b => by
    obtain ⟨c, hc, h⟩ := Outcome.bind_eq_ok_iff.mp h
    obtain ⟨rest, hrest, h⟩ := Outcome.bind_eq_ok_iff.mp h
    cases h
    have ih := mem_of_traverseEntries hrest x b
    simp only [List.mem_cons, ih]
    constructor
    · rintro (heq | ⟨a, ha, hb⟩)
      · cases heq
        exact ⟨e.2, Or.inl rfl, hc⟩
      · exact ⟨a, Or.inr ha, hb⟩
    · rintro ⟨a, rfl | ha, hb⟩
      · cases hc.symm.trans hb
        exact Or.inl rfl
      · exact Or.inr ⟨a, ha, hb⟩

theorem exists_traverseEntries {es : List (String × α)} (h : ∀ e ∈ es, ∃ b, f e.2 = .ok b) :
    ∃ fs, traverseEntries f es = .ok fs := by
  induction es with
  | nil => exact ⟨_, rfl⟩
  | cons e es ih =>
    obtain ⟨b, hb⟩ := h e List.mem_cons_self
    obtain ⟨rest, hrest⟩ := ih fun e' he' => h e' (List.mem_cons_of_mem _ he')
    refine ⟨⟨(e.1, b) :: rest.1, by simp [rest.2]⟩, ?_⟩
    rw [traverseEntries, hb, hrest]
    rfl

/-- The names stay, and under each is the result of the operation on its value. -/
theorem of_traverse_eq_ok {l : Listing α} {l' : Listing β} (h : l.traverse f = .ok l') :
    l'.keys = l.keys ∧ ∀ x b, l'.get? x = some b ↔ ∃ a, l.get? x = some a ∧ f a = .ok b := by
  obtain ⟨fs, hfs, h⟩ := Outcome.bind_eq_ok_iff.mp h
  cases h
  refine ⟨fs.2, fun x b => ?_⟩
  simp only [get?_eq_some_iff]
  exact mem_of_traverseEntries hfs x b

theorem exists_traverse_iff {l : Listing α} :
    (∃ l', l.traverse f = .ok l') ↔ ∀ e ∈ l.entries, ∃ b, f e.2 = .ok b := by
  constructor
  · rintro ⟨l', h⟩ e he
    obtain ⟨hkeys, hget⟩ := of_traverse_eq_ok h
    have hx : e.1 ∈ l'.keys := hkeys ▸ List.mem_map.mpr ⟨e, he, rfl⟩
    obtain ⟨b, hb⟩ := exists_get?_of_mem_keys hx
    obtain ⟨a, ha, hab⟩ := (hget e.1 b).mp hb
    have hea : l.get? e.1 = some e.2 := get?_eq_some_iff.mpr he
    cases ha.symm.trans hea
    exact ⟨b, hab⟩
  · intro h
    obtain ⟨fs, hfs⟩ := exists_traverseEntries h
    exact ⟨⟨fs.1, by rw [fs.2]; exact l.distinct⟩, by rw [traverse, hfs]; rfl⟩

theorem traverseEntries_eq_error_iff {es : List (String × α)} {e : ε} :
    traverseEntries f es = .error e ↔
      ∃ v, Outcome.Reaches f (es.map Prod.snd) v ∧ f v = .error e := by
  induction es with
  | nil =>
    constructor
    · intro h
      cases h
    · rintro ⟨v, hv, -⟩
      exact absurd hv Outcome.not_reaches_nil
  | cons z es ih =>
    have hcons : traverseEntries f (z :: es) = .error e ↔
        f z.2 = .error e ∨ (∃ b, f z.2 = .ok b) ∧ traverseEntries f es = .error e := by
      rw [traverseEntries, Outcome.bind_eq_error_iff]
      simp only [Outcome.bind_eq_error_iff, reduceCtorEq, and_false, exists_false, or_false,
        exists_and_right]
    rw [hcons, ih, List.map_cons, Outcome.exists_reaches_cons]

/-- The operation fails on a listing as it does on the first value on which it fails. -/
theorem traverse_eq_error_iff {l : Listing α} {e : ε} :
    l.traverse f = .error e ↔ ∃ v, Outcome.Reaches f l.values v ∧ f v = .error e := by
  rw [traverse, Outcome.bind_eq_error_iff, traverseEntries_eq_error_iff]
  simp only [reduceCtorEq, and_false, exists_false, or_false]
  rfl

end

end SchemaDepot.Listing
