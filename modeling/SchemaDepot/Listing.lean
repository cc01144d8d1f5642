/-
# Listings

A listing holds values under distinct names, in the order in which the names
first came. Storing a value under a name that is there already replaces the
value and keeps the place.

Key definitions: `Listing`, `Listing.put`, `Listing.get?`, `Listing.ofList`.
Key theorems: `Listing.get?_put`, `Listing.mem_keys_put`.
-/
import SchemaDepot.TextSet

namespace SchemaDepot

/-- Values under distinct names. -/
structure Listing (α : Type) where
  /-- Each name with its value, in order. -/
  entries : List (String × α)
  /-- No name comes twice. -/
  distinct : (entries.map Prod.fst).Nodup

namespace Listing

variable {α β : Type}

/-- The names, in order. -/
def keys (l : Listing α) : List String := l.entries.map Prod.fst

/-- The values, in order. -/
def values (l : Listing α) : List α := l.entries.map Prod.snd

/-- The names as a set. -/
def keySet (l : Listing α) : TextSet := TextSet.ofList l.keys

/-- The number of entries. -/
def size (l : Listing α) : Nat := l.entries.length

/-- The value under a name. -/
def get? (l : Listing α) (name : String) : Option α := l.entries.lookup name

/-- There is a value under the name. -/
def has (l : Listing α) (name : String) : Bool := l.keys.contains name

/-- No entry. -/
def empty : Listing α := ⟨[], List.nodup_nil⟩

instance : Inhabited (Listing α) := ⟨empty⟩

/-- The entries with a value stored: in the place of the name if it is there,
else at the end. -/
def store (name : String) (value : α) : List (String × α) → List (String × α)
  | [] => [(name, value)]
  | e :: es => if e.1 = name then (name, value) :: es else e :: store name value es

theorem map_fst_store (name : String) (value : α) : ∀ es : List (String × α),
    (store name value es).map Prod.fst =
      if name ∈ es.map Prod.fst then es.map Prod.fst else es.map Prod.fst ++ [name]
  | [] => by simp [store]
  | e :: es => by
    unfold store
    by_cases h : e.1 = name
    · simp [h]
    · have h' : name ≠ e.1 := fun he => h he.symm
      simp only [h, if_false, List.map_cons, map_fst_store name value es, List.mem_cons, h', false_or]
      split <;> rfl

/-- The listing with a value stored under a name. -/
def put (l : Listing α) (name : String) (value : α) : Listing α where
  entries := store name value l.entries
  distinct := by
    rw [map_fst_store]
    split
    · exact l.distinct
    · rename_i h
      rw [List.nodup_append]
      refine ⟨l.distinct, List.nodup_cons.mpr ⟨List.not_mem_nil, List.nodup_nil⟩, ?_⟩
      intro a ha b hb hab
      rw [List.mem_singleton] at hb
      exact h (hb ▸ hab ▸ ha)

/-- The listing of names and values; a repeated name keeps its first place and
takes its last value. -/
def ofList (es : List (String × α)) : Listing α := es.foldl (fun l e => l.put e.1 e.2) empty

/-- The same names with other values. -/
def map (f : α → β) (l : Listing α) : Listing β where
  entries := l.entries.map fun e => (e.1, f e.2)
  distinct := by
    rw [List.map_map]
    exact l.distinct

/-- The entries with each value replaced by the result of an operation, which is
done in order and stops at the first failure. -/
def traverseEntries {ε : Type} (f : α → Except ε β) : (es : List (String × α)) →
    Except ε { fs : List (String × β) // fs.map Prod.fst = es.map Prod.fst }
  | [] => .ok ⟨[], rfl⟩
  | e :: es => do
    let b ← f e.2
    let rest ← traverseEntries f es
    .ok ⟨(e.1, b) :: rest.1, by simp [rest.2]⟩

/-- The same names with the results of an operation on their values. -/
def traverse {ε : Type} (f : α → Except ε β) (l : Listing α) : Except ε (Listing β) := do
  let es ← traverseEntries f l.entries
  .ok ⟨es.1, by rw [es.2]; exact l.distinct⟩

/-! ### What storing does -/

theorem keys_put (l : Listing α) (name : String) (value : α) :
    (l.put name value).keys = if name ∈ l.keys then l.keys else l.keys ++ [name] :=
  map_fst_store name value l.entries

@[simp] theorem mem_keys_put {l : Listing α} {name x : String} {value : α} :
    x ∈ (l.put name value).keys ↔ x = name ∨ x ∈ l.keys := by
  rw [keys_put]
  split
  · rename_i h
    constructor
    · exact Or.inr
    · rintro (rfl | hx)
      · exact h
      · exact hx
  · rw [List.mem_append, List.mem_singleton, Or.comm]

theorem lookup_store (name x : String) (value : α) : ∀ es : List (String × α),
    (store name value es).lookup x = if x = name then some value else es.lookup x
  | [] => by
    by_cases h : x = name
    · subst h; simp [store]
    · have : (x == name) = false := by simp [h]
      simp [store, List.lookup_cons, this, h]
  | (k, v) :: es => by
    unfold store
    by_cases h : k = name
    · subst h
      by_cases hx : x = k
      · subst hx; simp
      · have : (x == k) = false := by simp [hx]
        simp [List.lookup_cons, this, hx]
    · by_cases hx : x = k
      · subst hx; simp [h]
      · have : (x == k) = false := by simp [hx]
        simp [List.lookup_cons, this, h, lookup_store name x value es]

/-- The stored value is found under its name, and every other name is untouched. -/
theorem get?_put (l : Listing α) (name x : String) (value : α) :
    (l.put name value).get? x = if x = name then some value else l.get? x :=
  lookup_store name x value l.entries

@[simp] theorem get?_empty (x : String) : (empty : Listing α).get? x = none := rfl

end Listing

end SchemaDepot
