/-
# When templates are gathered

Templates built under distinct names are gathered exactly when each can be built,
and under each name is then the template built for it.

Key theorems: `Template.make_eq_ok_iff`, `TemplateSet.of_gatherFrom_eq_ok`,
`TemplateSet.exists_gatherFrom_iff`, `TemplateSet.gatherFrom_eq_error_iff`.
-/
import SchemaDepot.Proofs.Listing
import SchemaDepot.TemplateSet

namespace SchemaDepot

theorem Template.make_eq_ok_iff {name text : String} {tokens : TextSet} {t : Template} :
    make name text tokens = .ok t ↔
      fault? name text tokens = none ∧ t.name = name ∧ t.text = text ∧ t.tokens = tokens := by
  unfold make
  split
  · rename_i fault hf
    simp [hf]
  · rename_i hf
    rw [Except.ok.injEq]
    constructor
    · rintro rfl
      exact ⟨hf, rfl, rfl, rfl⟩
    · rintro ⟨-, rfl, rfl, rfl⟩
      rfl

namespace TemplateSet

variable {α : Type} {build : α → Except Error Template} {name : α → String}

@[simp] theorem mem_names {s : TemplateSet} {x : String} : x ∈ s.names ↔ x ∈ s.templates.keys :=
  Listing.mem_keySet

theorem named_eq_ok_iff {s : TemplateSet} {x : String} {t : Template} :
    s.named x = .ok t ↔ s.templates.get? x = some t := by
  unfold named
  cases s.templates.get? x <;> simp

/-- The names of gathered templates, and what is under them. -/
theorem of_gatherFrom_eq_ok (hname : ∀ a t, build a = .ok t → t.name = name a) :
    ∀ {items : List α} {held l : Listing Template}, gatherFrom build held items = .ok l →
      l.keys = held.keys ++ items.map name ∧
      ∀ x t, l.get? x = some t ↔
        held.get? x = some t ∨ ∃ a ∈ items, name a = x ∧ build a = .ok t
  | [], held, l, h => by
    cases h
    simp
  | a :: items, held, l, h => by
    obtain ⟨s, hs, h⟩ := Outcome.bind_eq_ok_iff.mp h
    obtain ⟨hnew, h⟩ := Outcome.refuse_eq_ok_iff.mp h
    have hs' := hname a s hs
    have hout : s.name ∉ held.keys := fun hmem => hnew (Listing.has_eq_true_iff_mem.mpr hmem)
    obtain ⟨hkeys, hget⟩ := of_gatherFrom_eq_ok hname h
    rw [Listing.keys_put, if_neg hout] at hkeys
    refine ⟨by rw [hkeys, hs', List.map_cons, List.append_assoc]; rfl, fun x t => ?_⟩
    rw [hget, Listing.get?_put]
    simp only [List.mem_cons, exists_eq_or_imp]
    by_cases hx : x = s.name
    · subst hx
      have hnone : held.get? s.name ≠ some t := fun ht => hnew (Listing.has_eq_true_iff.mpr ⟨t, ht⟩)
      simp [hnone, hs, ← hs']
    · have hx' : name a ≠ x := fun e => hx (hs'.trans e).symm
      simp [hx, hx']

theorem gatherFrom_cons_of_built {held : Listing Template} {a : α} {items : List α} {t : Template}
    (hb : build a = .ok t) (hnew : t.name ∉ held.keys) :
    gatherFrom build held (a :: items) = gatherFrom build (held.put t.name t) items := by
  have hhas : held.has t.name = false := by
    rw [Bool.eq_false_iff, ne_eq, Listing.has_eq_true_iff_mem]
    exact hnew
  rw [gatherFrom, hb, Outcome.ok_bind, hhas]
  rfl

/-- Distinct names that are new are still new once the first of them is held. -/
theorem not_mem_keys_put {held : Listing Template} {a : α} {items : List α} {t : Template}
    (hdistinct : name a ∉ items.map name) (hnew : ∀ b ∈ a :: items, name b ∉ held.keys) :
    ∀ b ∈ items, name b ∉ (held.put (name a) t).keys := by
  intro b hmem
  rw [Listing.mem_keys_put, not_or]
  refine ⟨fun e => hdistinct (e ▸ List.mem_map.mpr ⟨b, hmem, rfl⟩), ?_⟩
  exact hnew b (List.mem_cons_of_mem _ hmem)

/-- Templates under distinct new names are gathered exactly when each can be built. -/
theorem exists_gatherFrom_iff (hname : ∀ a t, build a = .ok t → t.name = name a) :
    ∀ {items : List α} {held : Listing Template}, (items.map name).Nodup →
      (∀ a ∈ items, name a ∉ held.keys) →
      ((∃ l, gatherFrom build held items = .ok l) ↔ ∀ a ∈ items, ∃ t, build a = .ok t)
  | [], held, _, _ => by simp [gatherFrom]
  | a :: items, held, hn, hout => by
    rw [List.map_cons, List.nodup_cons] at hn
    cases hb : build a with
    | error e => simp [gatherFrom, hb, bind, Except.bind]
    | ok t =>
      have ht : t.name = name a := hname a t hb
      rw [gatherFrom_cons_of_built hb (ht ▸ hout a List.mem_cons_self), ht,
        exists_gatherFrom_iff hname hn.2 (not_mem_keys_put hn.1 hout)]
      simp [hb]

/-- Under distinct new names the templates fail to be gathered as the first one that cannot be
built. -/
theorem gatherFrom_eq_error_iff (hname : ∀ a t, build a = .ok t → t.name = name a) {e : Error} :
    ∀ {items : List α} {held : Listing Template}, (items.map name).Nodup →
      (∀ a ∈ items, name a ∉ held.keys) →
      (gatherFrom build held items = .error e ↔
        ∃ a, Outcome.Reaches build items a ∧ build a = .error e)
  | [], held, _, _ => by
    constructor
    · intro h
      cases h
    · rintro ⟨a, ha, -⟩
      exact absurd ha Outcome.not_reaches_nil
  | z :: items, held, hn, hout => by
    rw [List.map_cons, List.nodup_cons] at hn
    have hnext : ∀ t, build z = .ok t → (gatherFrom build held (z :: items) = .error e ↔
        ∃ a, Outcome.Reaches build items a ∧ build a = .error e) := by
      intro t hb
      have ht : t.name = name z := hname z t hb
      rw [gatherFrom_cons_of_built hb (ht ▸ hout z List.mem_cons_self), ht]
      exact gatherFrom_eq_error_iff hname hn.2 (not_mem_keys_put hn.1 hout)
    rw [Outcome.exists_reaches_cons]
    cases hb : build z with
    | error e' =>
      rw [gatherFrom, hb]
      simp [bind, Except.bind]
    | ok t =>
      rw [hnext t hb]
      simp

end TemplateSet

end SchemaDepot
