/-
# The order in which a document is visited

Visiting a collection has two sides. It can go wrong, which depends on the collection alone,
and it puts what the collection holds at the end of what waits, without what was met before.
So what is visited within some depth is known beforehand: first the document itself, then
what the collections visited so far hold, in order, each collection once (`Node.within`).

A document is checked in this order. It is in order if nothing goes wrong at any depth, and
else its fault is that of the first collection with one (`Node.check_eq_ok_iff`,
`Node.of_check_eq_error`). That the visit comes to an end in time is seen from the places:
what is visited are different collections of the document.

Key definitions: `Yaml.firsts`, `Yaml.Node.held`, `Yaml.Node.inner`, `Yaml.Node.inspect`,
`Yaml.Node.within`, `Yaml.Reading.Adds`, `Yaml.Reading.Visited`.
Key theorems: `Yaml.firsts_append`, `Yaml.Reading.visit_adds`, `Yaml.Reading.visitAll_finds`,
`Yaml.Node.constructed_iff_within`, `Yaml.Node.check_eq_ok_iff`, `Yaml.Node.of_check_eq_error`.
-/
import Mathlib.Data.List.Perm.Subperm
import SchemaDepot.Proofs.Outcome
import SchemaDepot.Proofs.Yaml.Place
import SchemaDepot.Yaml.Document

namespace SchemaDepot.Yaml

open Outcome

/-! ### Collections that were not met before -/

/-- The places of some collections. -/
def placesOf (ns : List Node) : List Nat := ns.filterMap Node.place?

/-- The collections that were not met before, each once. A collection without a place cannot
be told from others. -/
def firsts (met : List Nat) : List Node → List Node
  | [] => []
  | n :: ns =>
    match n.place? with
    | none => n :: firsts met ns
    | some p => if met.contains p then firsts met ns else n :: firsts (p :: met) ns

/-- The places that are met with them. -/
def metWith (met : List Nat) (ns : List Node) : List Nat :=
  (placesOf (firsts met ns)).reverse ++ met

section

variable {met : List Nat} {n : Node} {ns xs ys : List Node} {p : Nat}

theorem firsts_cons_of_none (h : n.place? = none) : firsts met (n :: ns) = n :: firsts met ns := by
  simp only [firsts, h]

theorem firsts_cons_of_mem (h : n.place? = some p) (hp : p ∈ met) :
    firsts met (n :: ns) = firsts met ns := by
  simp only [firsts, h, List.contains_iff_mem, if_pos hp]

theorem firsts_cons_of_not_mem (h : n.place? = some p) (hp : p ∉ met) :
    firsts met (n :: ns) = n :: firsts (p :: met) ns := by
  simp only [firsts, h, List.contains_iff_mem, if_neg hp]

theorem metWith_cons_of_none (h : n.place? = none) : metWith met (n :: ns) = metWith met ns := by
  simp [metWith, firsts_cons_of_none h, placesOf, h]

theorem metWith_cons_of_mem (h : n.place? = some p) (hp : p ∈ met) :
    metWith met (n :: ns) = metWith met ns := by
  rw [metWith, firsts_cons_of_mem h hp, metWith]

theorem metWith_cons_of_not_mem (h : n.place? = some p) (hp : p ∉ met) :
    metWith met (n :: ns) = metWith (p :: met) ns := by
  simp [metWith, firsts_cons_of_not_mem h hp, placesOf, h]

/-- Nodes that come later count only where the ones before did not meet them. -/
theorem firsts_append (met : List Nat) (xs ys : List Node) :
    firsts met (xs ++ ys) = firsts met xs ++ firsts (metWith met xs) ys := by
  induction xs generalizing met with
  | nil => rfl
  | cons n xs ih =>
    rw [List.cons_append]
    cases hplace : n.place? with
    | none =>
      rw [firsts_cons_of_none hplace, firsts_cons_of_none hplace, metWith_cons_of_none hplace, ih,
        List.cons_append]
    | some p =>
      by_cases hp : p ∈ met
      · rw [firsts_cons_of_mem hplace hp, firsts_cons_of_mem hplace hp,
          metWith_cons_of_mem hplace hp, ih]
      · rw [firsts_cons_of_not_mem hplace hp, firsts_cons_of_not_mem hplace hp,
          metWith_cons_of_not_mem hplace hp, ih, List.cons_append]

theorem metWith_append (met : List Nat) (xs ys : List Node) :
    metWith met (xs ++ ys) = metWith (metWith met xs) ys := by
  simp [metWith, firsts_append, placesOf, List.filterMap_append]

/-- The first ones of more nodes begin as those of fewer do. -/
theorem prefix_firsts (h : xs <+: ys) : firsts met xs <+: firsts met ys := by
  obtain ⟨rest, rfl⟩ := h
  rw [firsts_append]
  exact List.prefix_append _ _

theorem mem_of_mem_firsts (h : n ∈ firsts met ns) : n ∈ ns := by
  induction ns generalizing met with
  | nil => cases h
  | cons m ns ih =>
    cases hplace : m.place? with
    | none =>
      rw [firsts_cons_of_none hplace] at h
      rcases List.mem_cons.mp h with rfl | h
      · exact List.mem_cons_self
      · exact List.mem_cons_of_mem _ (ih h)
    | some p =>
      by_cases hp : p ∈ met
      · rw [firsts_cons_of_mem hplace hp] at h
        exact List.mem_cons_of_mem _ (ih h)
      · rw [firsts_cons_of_not_mem hplace hp] at h
        rcases List.mem_cons.mp h with rfl | h
        · exact List.mem_cons_self
        · exact List.mem_cons_of_mem _ (ih h)

theorem exists_mem_firsts (h : n ∈ ns) (hp : n.place? = some p) :
    p ∈ met ∨ ∃ m ∈ firsts met ns, m.place? = some p := by
  induction ns generalizing met with
  | nil => cases h
  | cons m ns ih =>
    cases hplace : m.place? with
    | none =>
      rw [firsts_cons_of_none hplace]
      rcases List.mem_cons.mp h with rfl | h
      · rw [hp] at hplace
        cases hplace
      · exact (ih h).imp id fun ⟨m', hm', hsame⟩ => ⟨m', List.mem_cons_of_mem _ hm', hsame⟩
    | some q =>
      by_cases hq : q ∈ met
      · rw [firsts_cons_of_mem hplace hq]
        rcases List.mem_cons.mp h with rfl | h
        · cases hp.symm.trans hplace
          exact Or.inl hq
        · exact ih h
      · rw [firsts_cons_of_not_mem hplace hq]
        rcases List.mem_cons.mp h with rfl | h
        · exact Or.inr ⟨n, List.mem_cons_self, hp⟩
        · rcases @ih (q :: met) h with hmem | ⟨m', hm', hsame⟩
          · rcases List.mem_cons.mp hmem with rfl | hmem
            · exact Or.inr ⟨m, List.mem_cons_self, hplace⟩
            · exact Or.inl hmem
          · exact Or.inr ⟨m', List.mem_cons_of_mem _ hm', hsame⟩

theorem mem_firsts_of_none (h : n ∈ ns) (hp : n.place? = none) : n ∈ firsts met ns := by
  induction ns generalizing met with
  | nil => cases h
  | cons m ns ih =>
    rcases List.mem_cons.mp h with rfl | h
    · rw [firsts_cons_of_none hp]
      exact List.mem_cons_self
    · unfold firsts
      split
      · exact List.mem_cons_of_mem _ (ih h)
      · split
        · exact ih h
        · exact List.mem_cons_of_mem _ (ih h)

/-- What was not met before has places of its own, each another one. -/
theorem nodup_placesOf_firsts :
    (placesOf (firsts met ns)).Nodup ∧ ∀ p ∈ placesOf (firsts met ns), p ∉ met := by
  induction ns generalizing met with
  | nil => exact ⟨List.nodup_nil, fun p hp => absurd hp List.not_mem_nil⟩
  | cons n ns ih =>
    cases hplace : n.place? with
    | none =>
      rw [firsts_cons_of_none hplace]
      simpa [placesOf, hplace] using ih
    | some p =>
      by_cases hp : p ∈ met
      · rw [firsts_cons_of_mem hplace hp]
        exact ih
      · obtain ⟨hnodup, hnew⟩ := @ih (p :: met)
        have hcons :
            placesOf (n :: firsts (p :: met) ns) = p :: placesOf (firsts (p :: met) ns) := by
          simp [placesOf, hplace]
        rw [firsts_cons_of_not_mem hplace hp, hcons]
        refine ⟨List.nodup_cons.mpr ⟨fun hmem => ?_, hnodup⟩, fun q hq => ?_⟩
        · exact hnew p hmem List.mem_cons_self
        · rcases List.mem_cons.mp hq with rfl | hq
          · exact hp
          · exact fun hmem => hnew q hq (List.mem_cons_of_mem _ hmem)

end

/-! ### What a collection holds -/

namespace Node

/-- The key and the value of a mapping with one entry. -/
def pairParts (anchors : Anchors) (n : Node) : List Node :=
  match n.resolve anchors with
  | .mapping _ _ [(k, v)] => [k, v]
  | _ => []

/-- The nodes that a collection holds as values: no keys, but for those of pairs. -/
def held (anchors : Anchors) : Node → List Node
  | .mapping _ tag entries => if tag = .mapping ∨ tag = .set then entries.map Prod.snd else []
  | .sequence _ tag items =>
    if tag = .sequence then items
    else if tag = .pairs then items.flatMap (pairParts anchors)
    else []
  | _ => []

/-- The collections among nodes, found under their names. -/
def parts (anchors : Anchors) (ns : List Node) : List Node :=
  (ns.map (resolve anchors)).filter fun n => n.tag.isCollection

/-- The collections that a collection holds as values. -/
def inner (anchors : Anchors) (n : Node) : List Node := parts anchors (n.held anchors)

theorem parts_append (anchors : Anchors) (ms ns : List Node) :
    parts anchors (ms ++ ns) = parts anchors ms ++ parts anchors ns := by
  simp [parts]

/-- What goes wrong in visiting a collection, whatever was met before. -/
def inspect (anchors : Anchors) (n : Node) : Except Fault Unit :=
  (Reading.visit ⟨anchors, [], []⟩ n).map fun _ => ()

/-- What goes wrong in meeting a node. -/
def valued (anchors : Anchors) (n : Node) : Except Fault Unit :=
  (Reading.meet ⟨anchors, [], []⟩ n).map fun _ => ()

/-- The document, if it is a collection, and what some collections hold. -/
def supply (root : Node) (ns : List Node) : List Node :=
  parts root.anchors [root] ++ ns.flatMap (inner root.anchors)

/-- The collections that are visited within some depth, in order. -/
def within (root : Node) : Nat → List Node
  | 0 => []
  | depth + 1 => firsts [] (supply root (within root depth))

end Node

/-! ### The two sides of visiting -/

namespace Reading

open Node

/-- With some collections met, those that are new waiting at the end. -/
def absorb (r : Reading) (ns : List Node) : Reading :=
  { r with met := metWith r.met ns, waiting := r.waiting ++ firsts r.met ns }

theorem absorb_nil (r : Reading) : r.absorb [] = r := by
  simp [absorb, metWith, firsts, placesOf]

theorem absorb_append (r : Reading) (xs ys : List Node) :
    (r.absorb xs).absorb ys = r.absorb (xs ++ ys) := by
  simp [absorb, firsts_append, metWith_append]

/-- What the operation does has two sides: what goes wrong, which only depends on what the
names stand for, and that the collections among some nodes are met. -/
def Adds (anchors : Anchors) (ns : List Node) (x : Reading → Except Fault Reading) : Prop :=
  ∃ fault : Except Fault Unit, ∀ r : Reading, r.anchors = anchors →
    x r = fault.map fun _ => r.absorb (parts anchors ns)

variable {anchors : Anchors} {ms ns : List Node} {x y : Reading → Except Fault Reading}

/-- What goes wrong can be told where nothing was met before. -/
theorem Adds.eq {r : Reading} (h : Adds anchors ns x) (hr : r.anchors = anchors) :
    x r = ((x ⟨anchors, [], []⟩).map fun _ => ()).map fun _ => r.absorb (parts anchors ns) := by
  obtain ⟨fault, hfault⟩ := h
  rw [hfault r hr, hfault ⟨anchors, [], []⟩ rfl]
  cases fault with
  | error f => rfl
  | ok _ => rfl

theorem adds_ok : Adds anchors [] .ok :=
  ⟨.ok (), fun r _ => (congrArg Except.ok r.absorb_nil).symm⟩

theorem adds_error (fault : Fault) : Adds anchors ns fun _ => .error fault :=
  ⟨.error fault, fun _ _ => rfl⟩

theorem Adds.bind (hx : Adds anchors ms x) (hy : Adds anchors ns y) :
    Adds anchors (ms ++ ns) fun r => x r >>= y := by
  obtain ⟨first, hfirst⟩ := hx
  obtain ⟨second, hsecond⟩ := hy
  refine ⟨first >>= fun _ => second, fun r hr => ?_⟩
  dsimp only
  rw [hfirst r hr]
  cases first with
  | error fault => rfl
  | ok _ =>
    change y (r.absorb (parts anchors ms)) = second.map fun _ => r.absorb (parts anchors (ms ++ ns))
    have hanchors : (r.absorb (parts anchors ms)).anchors = anchors := hr
    rw [hsecond _ hanchors, absorb_append, parts_append]

/-- A check that meets nothing may come before. -/
theorem Adds.after {check : Reading → Except Fault Unit} (fault : Except Fault Unit)
    (hcheck : ∀ r : Reading, r.anchors = anchors → check r = fault) (hx : Adds anchors ns x) :
    Adds anchors ns fun r => check r >>= fun _ => x r := by
  obtain ⟨second, hsecond⟩ := hx
  refine ⟨fault >>= fun _ => second, fun r hr => ?_⟩
  dsimp only
  rw [hcheck r hr, hsecond r hr]
  cases fault with
  | error f => rfl
  | ok _ => rfl

theorem meet_adds (n : Node) : Adds anchors [n] fun r => r.meet n := by
  by_cases hcollection : (n.resolve anchors).tag.isCollection = true
  · refine ⟨.ok (), fun r hr => ?_⟩
    subst hr
    have hparts : parts r.anchors [n] = [n.resolve r.anchors] := by
      simp [parts, hcollection]
    change r.meet n = .ok (r.absorb (parts r.anchors [n]))
    unfold meet
    rw [if_pos hcollection, hparts]
    cases hplace : (n.resolve r.anchors).place? with
    | none => simp [absorb, firsts, metWith, placesOf, hplace]
    | some p =>
      by_cases hp : p ∈ r.met
      · simp [absorb, firsts, metWith, placesOf, hplace, hp]
      · simp [absorb, firsts, metWith, placesOf, hplace, hp]
  · refine ⟨((n.resolve anchors).scalarValue anchors).map fun _ => (), fun r hr => ?_⟩
    subst hr
    have hparts : parts r.anchors [n] = [] := by
      simp [parts, hcollection]
    dsimp only
    unfold meet
    rw [if_neg hcollection, hparts, absorb_nil]
    cases (n.resolve r.anchors).scalarValue r.anchors with
    | error fault => rfl
    | ok v => rfl

theorem meetAll_adds (ns : List Node) : Adds anchors ns fun r => r.meetAll ns := by
  induction ns with
  | nil => exact adds_ok
  | cons n ns ih => exact (meet_adds n).bind ih

theorem checkKeys_congr {r r' : Reading} (h : r.anchors = r'.anchors) (seen : List Key)
    (ns : List Node) : r.checkKeys seen ns = r'.checkKeys seen ns := by
  induction ns generalizing seen with
  | nil => rfl
  | cons n ns ih =>
    unfold checkKeys
    rw [h]
    simp only [ih]

theorem visitPairs_adds (items : List Node) :
    Adds anchors (items.flatMap (pairParts anchors)) fun r => r.visitPairs items := by
  induction items with
  | nil => exact adds_ok
  | cons n items ih =>
    by_cases hpair : ∃ place tag k v, n.resolve anchors = .mapping place tag [(k, v)]
    · obtain ⟨place, tag, k, v, hcontent⟩ := hpair
      have hparts : (n :: items).flatMap (pairParts anchors) =
          [k] ++ ([v] ++ items.flatMap (pairParts anchors)) := by
        simp [pairParts, hcontent]
      have hpair : Adds anchors [v] fun r => r.meet v := meet_adds v
      obtain ⟨fault, hfault⟩ := (meet_adds k).bind (hpair.bind ih)
      rw [hparts]
      refine ⟨fault, fun r hr => ?_⟩
      rw [← hfault r hr]
      subst hr
      simp only [visitPairs, hcontent]
    · refine ⟨.error .malformed, fun r hr => ?_⟩
      subst hr
      change r.visitPairs (n :: items) = .error .malformed
      unfold visitPairs
      split
      · rename_i hcontent
        exact absurd ⟨_, _, _, _, hcontent⟩ hpair
      · rfl

/-- **The two sides of visiting.** What goes wrong with a collection depends on it alone, and
then what it holds is met. -/
theorem visit_adds {n : Node} (hn : n.tag.isCollection = true) :
    Adds anchors (n.held anchors) fun r => r.visit n := by
  cases n with
  | scalar tag text =>
    cases tag with
    | mapping | set =>
      refine ⟨if text.isEmpty then .error .malformed else .error (.unsuitable (.value .notPair)),
        fun r _ => ?_⟩
      simp only [visit, Node.tag, visitMapping]
      split
      · rfl
      · rfl
    | sequence | pairs => exact adds_error .malformed
    | text | integer | decimal | truth | nothing | moment | bytes | default | unknown => cases hn
  | sequence place tag items =>
    cases tag with
    | mapping | set =>
      refine ⟨if items.isEmpty then .error .malformed else .error (.unsuitable .wrongKind),
        fun r _ => ?_⟩
      simp only [visit, Node.tag, visitMapping]
      split
      · rfl
      · rfl
    | sequence => exact meetAll_adds items
    | pairs => exact visitPairs_adds items
    | text | integer | decimal | truth | nothing | moment | bytes | default | unknown => cases hn
  | mapping place tag entries =>
    cases tag with
    | mapping | set =>
      have hkeys : ∀ r : Reading, r.anchors = anchors →
          r.checkKeys [] (entries.map Prod.fst) =
            Reading.checkKeys ⟨anchors, [], []⟩ [] (entries.map Prod.fst) :=
        fun r hr => checkKeys_congr hr [] _
      exact (meetAll_adds (entries.map Prod.snd)).after _ hkeys
    | sequence | pairs => exact adds_error .malformed
    | text | integer | decimal | truth | nothing | moment | bytes | default | unknown => cases hn
  | anchored name n => cases hn
  | «alias» name => cases hn

/-- Visiting a collection is inspecting it, and then meeting what it holds. -/
theorem visit_eq (r : Reading) {n : Node} (hn : n.tag.isCollection = true) :
    r.visit n = (n.inspect r.anchors).map fun _ => r.absorb (n.inner r.anchors) := by
  have hadds : Adds r.anchors (n.held r.anchors) fun r => r.visit n := visit_adds hn
  exact hadds.eq rfl

theorem meet_eq (r : Reading) (n : Node) :
    r.meet n = (n.valued r.anchors).map fun _ => r.absorb (parts r.anchors [n]) := by
  have hadds : Adds r.anchors [n] fun r => r.meet n := meet_adds n
  exact hadds.eq rfl

end Reading

/-! ### Inside the document -/

namespace Node

variable {root n m : Node} {ns : List Node} {p depth : Nat}

/-- The collections of the node are collections of the document. -/
def Inside (root n : Node) : Prop := n.collections ⊆ root.collections

theorem inside_resolve (h : Inside root n) : Inside root (n.resolve root.anchors) := by
  cases n with
  | «alias» name =>
    change Inside root ((root.anchors.lookup name).getD missing)
    cases hlookup : root.anchors.lookup name with
    | none => exact List.nil_subset _
    | some m =>
      obtain ⟨front, rest, hanchors, -⟩ := List.lookup_eq_some_iff.mp hlookup
      have hmem : (name, m) ∈ root.anchors := by
        rw [hanchors]
        exact List.mem_append_right _ List.mem_cons_self
      exact subset_of_mem_anchors root hmem
  | scalar | sequence | mapping | anchored => exact h

theorem inside_item {place : Nat} {tag : Tag} {items : List Node}
    (h : Inside root (.sequence place tag items)) (hn : n ∈ items) : Inside root n :=
  List.Subset.trans (subset_of_mem hn) (List.subset_of_cons_subset h)

theorem inside_entry {place : Nat} {tag : Tag} {entries : List (Node × Node)}
    (h : Inside root (.mapping place tag entries)) (hnm : (n, m) ∈ entries) :
    Inside root n ∧ Inside root m := by
  obtain ⟨hn, hm⟩ := subset_of_mem_entries hnm
  have hall := List.subset_of_cons_subset h
  exact ⟨List.Subset.trans hn hall, List.Subset.trans hm hall⟩

theorem inside_held (h : Inside root n) (hm : m ∈ n.held root.anchors) : Inside root m := by
  cases n with
  | scalar | anchored | «alias» => cases hm
  | mapping place tag entries =>
    obtain ⟨-, hm⟩ := List.mem_ite_nil_right.mp hm
    obtain ⟨⟨k, v⟩, hkv, rfl⟩ := List.mem_map.mp hm
    exact (inside_entry h hkv).2
  | sequence place tag items =>
    unfold held at hm
    dsimp only at hm
    split at hm
    · exact inside_item h hm
    · obtain ⟨-, hm⟩ := List.mem_ite_nil_right.mp hm
      obtain ⟨i, hi, hm⟩ := List.mem_flatMap.mp hm
      have hinside := inside_resolve (inside_item h hi)
      unfold pairParts at hm
      split at hm
      · rename_i k v hcontent
        rw [hcontent] at hinside
        obtain ⟨hk, hv⟩ := inside_entry hinside List.mem_cons_self
        rcases List.mem_pair.mp hm with rfl | rfl
        · exact hk
        · exact hv
      · cases hm

theorem mem_parts : m ∈ parts root.anchors ns ↔
    (∃ n ∈ ns, n.resolve root.anchors = m) ∧ m.tag.isCollection = true := by
  simp [parts]

theorem inside_inner (h : Inside root n) (hm : m ∈ n.inner root.anchors) : Inside root m := by
  obtain ⟨⟨k, hk, rfl⟩, -⟩ := mem_parts.mp hm
  exact inside_resolve (inside_held h hk)

theorem of_mem_supply (h : ∀ n ∈ ns, Inside root n) (hm : m ∈ supply root ns) :
    Inside root m ∧ m.tag.isCollection = true := by
  rcases List.mem_append.mp hm with hm | hm
  · obtain ⟨⟨n, hn, rfl⟩, hcollection⟩ := mem_parts.mp hm
    rw [List.mem_singleton.mp hn] at hcollection ⊢
    exact ⟨inside_resolve (List.Subset.refl _), hcollection⟩
  · obtain ⟨n, hn, hm⟩ := List.mem_flatMap.mp hm
    exact ⟨inside_inner (h n hn) hm, (mem_parts.mp hm).2⟩

theorem of_mem_within (hn : n ∈ within root depth) :
    Inside root n ∧ n.tag.isCollection = true := by
  induction depth generalizing n with
  | zero => cases hn
  | succ depth ih => exact of_mem_supply (fun m hm => (ih hm).1) (mem_of_mem_firsts hn)

theorem mem_collections_of_inside (h : Inside root n) (hp : n.place? = some p) :
    n ∈ root.collections := h (mem_collections_self hp)

theorem prefix_supply {ms : List Node} (h : ms <+: ns) : supply root ms <+: supply root ns := by
  obtain ⟨rest, rfl⟩ := h
  refine ⟨rest.flatMap (inner root.anchors), ?_⟩
  rw [supply, supply, List.flatMap_append, List.append_assoc]

/-- What is held within some depth is visited within the next, where places tell collections
apart. -/
theorem mem_firsts_supply (hroot : root.places.Pairwise (· < ·)) (hns : ∀ n ∈ ns, Inside root n)
    (hm : m ∈ supply root ns) : m ∈ firsts [] (supply root ns) := by
  cases hplace : m.place? with
  | none => exact mem_firsts_of_none hm hplace
  | some p =>
    have hfirst : p ∈ [] ∨ ∃ m' ∈ firsts [] (supply root ns), m'.place? = some p :=
      exists_mem_firsts hm hplace
    rcases hfirst with hmet | ⟨m', hm', hsame⟩
    · cases hmet
    · have hinside := (of_mem_supply hns hm).1
      have hinside' := (of_mem_supply hns (mem_of_mem_firsts hm')).1
      have hequal : m = m' := eq_of_place?_eq hroot (mem_collections_of_inside hinside hplace)
        (mem_collections_of_inside hinside' hsame) hplace hsame
      rwa [hequal]

/-- The collections that are constructed: the document, if it is one, and what those that are
constructed hold. -/
inductive Constructed (root : Node) : Node → Prop
  | document {n : Node} (hn : n ∈ parts root.anchors [root]) : Constructed root n
  | held {n m : Node} (hn : Constructed root n) (hm : m ∈ n.inner root.anchors) :
      Constructed root m

/-- What is constructed is visited within some depth, and nothing else is. -/
theorem constructed_iff_within (hroot : root.places.Pairwise (· < ·)) :
    Constructed root n ↔ ∃ depth, n ∈ within root depth := by
  constructor
  · intro hn
    induction hn with
    | document hn =>
      refine ⟨1, mem_firsts_supply hroot (fun m hm => absurd hm List.not_mem_nil) ?_⟩
      exact List.mem_append_left _ hn
    | @held n m _ hm ih =>
      obtain ⟨depth, hn⟩ := ih
      refine ⟨depth + 1, mem_firsts_supply hroot (fun m hm => (of_mem_within hm).1) ?_⟩
      exact List.mem_append_right _ (List.mem_flatMap.mpr ⟨n, hn, hm⟩)
  · rintro ⟨depth, hn⟩
    induction depth generalizing n with
    | zero => cases hn
    | succ depth ih =>
      rcases List.mem_append.mp (mem_of_mem_firsts hn) with hn | hn
      · exact .document hn
      · obtain ⟨m, hm, hn⟩ := List.mem_flatMap.mp hn
        exact .held (ih hm) hn

theorem exists_place_of_inspect {anchors : Anchors} (hn : n.tag.isCollection = true)
    (h : n.inspect anchors = .ok ()) : ∃ p, n.place? = some p := by
  cases n with
  | sequence place tag items => exact ⟨place, rfl⟩
  | mapping place tag entries => exact ⟨place, rfl⟩
  | anchored | «alias» => cases hn
  | scalar tag text =>
    simp only [inspect, Reading.visit, Node.tag, Reading.visitMapping] at h
    cases tag with
    | mapping | set =>
      dsimp only at h
      split at h
      · cases h
      · cases h
    | sequence | pairs => cases h
    | text | integer | decimal | truth | nothing | moment | bytes | default | unknown => cases hn

/-- Collections with which nothing goes wrong are not more than the nodes of the document. -/
theorem length_le_size {met : List Nat} {done rest : List Node} (hns : ∀ n ∈ ns, Inside root n)
    (hdone : done ++ rest = firsts met (supply root ns))
    (hok : ∀ n ∈ done, n.inspect root.anchors = .ok ()) : done.length ≤ root.size := by
  have hmem : ∀ n ∈ done, Inside root n ∧ n.tag.isCollection = true := by
    intro n hn
    have hfirst : n ∈ firsts met (supply root ns) := hdone ▸ List.mem_append_left _ hn
    exact of_mem_supply hns (mem_of_mem_firsts hfirst)
  have hplaces : (placesOf done).length = done.length := by
    refine List.filterMap_length_eq_length.mpr fun n hn => ?_
    obtain ⟨p, hp⟩ := exists_place_of_inspect (hmem n hn).2 (hok n hn)
    rw [hp]
    rfl
  have hnodup : (placesOf done).Nodup := by
    have hall : (placesOf (firsts met (supply root ns))).Nodup := nodup_placesOf_firsts.1
    rw [← hdone, placesOf, List.filterMap_append] at hall
    exact (List.nodup_append.mp hall).1
  have hsubset : placesOf done ⊆ root.places := by
    intro p hp
    obtain ⟨n, hn, hplace⟩ := List.mem_filterMap.mp hp
    exact List.mem_filterMap.mpr ⟨n, mem_collections_of_inside (hmem n hn).1 hplace, hplace⟩
  calc done.length = (placesOf done).length := hplaces.symm
    _ ≤ root.places.length := (List.subperm_of_subset hnodup hsubset).length_le
    _ ≤ root.collections.length := List.length_filterMap_le _ _
    _ ≤ root.size := length_collections_le root

end Node

/-! ### The whole visit -/

namespace Reading

open Node

variable {root n : Node} {r r' : Reading} {done rest : List Node}

/-- How far a document is visited: these collections were visited in order, and those wait that
they supply besides. -/
structure Visited (root : Node) (r : Reading) (done : List Node) : Prop where
  anchors : r.anchors = root.anchors
  order : done ++ r.waiting = firsts [] (supply root done)
  met : r.met = metWith [] (supply root done)
  /-- This is how the visit within some depth begins. -/
  within : ∃ depth, done ++ r.waiting <+: within root depth

theorem visited_meet (root : Node) :
    Visited root (absorb ⟨root.anchors, [], []⟩ (parts root.anchors [root])) [] where
  anchors := rfl
  order := by simp [absorb, supply]
  met := by simp [absorb, supply]
  within := ⟨1, by simp [absorb, Node.within, supply]⟩

theorem Visited.next (h : Visited root r done) (hwaiting : r.waiting = n :: rest) :
    Visited root (absorb { r with waiting := rest } (n.inner root.anchors)) (done ++ [n]) := by
  have hsupply : supply root (done ++ [n]) = supply root done ++ n.inner root.anchors := by
    simp [supply]
  have horder : (done ++ [n]) ++ (rest ++ firsts r.met (n.inner root.anchors)) =
      firsts [] (supply root (done ++ [n])) := by
    rw [hsupply, firsts_append, ← h.order, hwaiting, h.met]
    simp
  constructor
  case anchors => exact h.anchors
  case order => exact horder
  case met =>
    rw [hsupply, metWith_append, ← h.met]
    rfl
  case within =>
    obtain ⟨depth, hdepth⟩ := h.within
    have hdone : done ++ [n] <+: Node.within root depth := by
      refine List.IsPrefix.trans ?_ hdepth
      rw [hwaiting]
      exact ⟨rest, by simp⟩
    refine ⟨depth + 1, ?_⟩
    change (done ++ [n]) ++ (rest ++ firsts r.met (n.inner root.anchors)) <+: _
    rw [horder]
    exact prefix_firsts (prefix_supply hdone)

/-- A visit that is over visited everything. -/
theorem Visited.prefix_of_nil (h : Visited root r done) (hwaiting : r.waiting = [])
    (depth : Nat) : Node.within root depth <+: done := by
  have horder := h.order
  rw [hwaiting, List.append_nil] at horder
  induction depth with
  | zero => exact List.nil_prefix
  | succ depth ih =>
    rw [horder]
    exact prefix_firsts (prefix_supply ih)

/-- What was visited and what waits are collections of the document. -/
theorem Visited.inside (h : Visited root r done) :
    ∀ n ∈ done ++ r.waiting, Inside root n ∧ n.tag.isCollection = true := by
  obtain ⟨depth, hdepth⟩ := h.within
  exact fun n hn => of_mem_within (hdepth.subset hn)

/-- The first one that waits is reached if nothing is wrong with those that were visited. -/
theorem Visited.reaches (h : Visited root r done) (hwaiting : r.waiting = n :: rest)
    (hok : ∀ m ∈ done, m.inspect root.anchors = .ok ()) :
    ∃ depth, Reaches (inspect root.anchors) (Node.within root depth) n := by
  obtain ⟨depth, after, hdepth⟩ := h.within
  rw [hwaiting] at hdepth
  refine ⟨depth, done, rest ++ after, ?_, fun m hm => ⟨(), hok m hm⟩⟩
  rw [← hdepth]
  simp

theorem visitAll_of_nil {fuel : Nat} (hwaiting : r.waiting = []) :
    visitAll (fuel + 1) r = .ok () := by
  unfold visitAll
  rw [hwaiting]

/-- A step of a visit: the first collection that waits is inspected, and then what it holds
waits too. -/
theorem Visited.visitAll_of_cons {fuel : Nat} (h : Visited root r done)
    (hwaiting : r.waiting = n :: rest) :
    visitAll (fuel + 1) r = (n.inspect root.anchors >>= fun _ =>
      visitAll fuel (absorb { r with waiting := rest } (n.inner root.anchors))) := by
  have hmem : n ∈ done ++ r.waiting := by simp [hwaiting]
  rw [visitAll, hwaiting]
  dsimp only
  rw [visit_eq _ (h.inside n hmem).2, h.anchors]
  cases n.inspect root.anchors with
  | error fault => rfl
  | ok _ => rfl

/-- What is found out by visiting the collections of a document: nothing goes wrong at any depth,
or it does with the first one with a fault. -/
abbrev Finds (root : Node) (x : Except Fault Unit) : Prop :=
  Ends (fun fault => ∃ depth n, Reaches (inspect root.anchors) (Node.within root depth) n ∧
      n.inspect root.anchors = .error fault)
    (fun _ => ∀ depth, ∀ n ∈ Node.within root depth, n.inspect root.anchors = .ok ()) x

/-- **A visit finds the first fault.** The fuel is enough, as no collection is visited twice. -/
theorem visitAll_finds {fuel : Nat} (h : Visited root r done)
    (hok : ∀ n ∈ done, n.inspect root.anchors = .ok ()) (hfuel : root.size < fuel + done.length) :
    Finds root (visitAll fuel r) := by
  induction fuel generalizing r done with
  | zero =>
    have hlength : done.length ≤ root.size :=
      length_le_size (fun n hn => (h.inside n (List.mem_append_left _ hn)).1) h.order hok
    omega
  | succ fuel ih =>
    cases hwaiting : r.waiting with
    | nil =>
      rw [visitAll_of_nil hwaiting]
      exact .ok fun depth n hn => hok n ((h.prefix_of_nil hwaiting depth).subset hn)
    | cons n rest =>
      rw [h.visitAll_of_cons hwaiting]
      cases hinspect : n.inspect root.anchors with
      | error fault =>
        obtain ⟨depth, hreach⟩ := h.reaches hwaiting hok
        exact .error ⟨depth, n, hreach, hinspect⟩
      | ok _ =>
        refine ih (h.next hwaiting) ?_ ?_
        · intro m hm
          rcases List.mem_append.mp hm with hm | hm
          · exact hok m hm
          · rwa [List.mem_singleton.mp hm]
        · rw [List.length_append, List.length_singleton]
          omega

end Reading

namespace Node

variable {root : Node} {fault : Fault}

theorem check_eq (root : Node) : root.check = (root.valued root.anchors >>= fun _ =>
    Reading.visitAll (root.size + 1)
      (Reading.absorb ⟨root.anchors, [], []⟩ (parts root.anchors [root]))) := by
  unfold check
  rw [Reading.meet_eq]
  cases root.valued root.anchors with
  | error fault => rfl
  | ok _ => rfl

theorem finds_visit (root : Node) : Reading.Finds root (Reading.visitAll (root.size + 1)
    (Reading.absorb ⟨root.anchors, [], []⟩ (parts root.anchors [root]))) :=
  Reading.visitAll_finds (Reading.visited_meet root) (fun _ hn => absurd hn List.not_mem_nil)
    (Nat.lt_succ_self _)

/-- **A document is in order** exactly when nothing goes wrong with it and with what is visited
within any depth. -/
theorem check_eq_ok_iff : root.check = .ok () ↔ root.valued root.anchors = .ok () ∧
    ∀ depth, ∀ n ∈ within root depth, n.inspect root.anchors = .ok () := by
  have hfinds := finds_visit root
  rw [check_eq, bind_eq_ok_iff]
  constructor
  · rintro ⟨_, hvalued, hvisit⟩
    exact ⟨hvalued, hfinds.ok_of hvisit⟩
  · rintro ⟨hvalued, hall⟩
    refine ⟨(), hvalued, ?_⟩
    cases hvisit : Reading.visitAll (root.size + 1)
        (Reading.absorb ⟨root.anchors, [], []⟩ (parts root.anchors [root])) with
    | ok _ => rfl
    | error fault =>
      obtain ⟨depth, n, hreach, hn⟩ := hfinds.error_of hvisit
      cases (hall depth n hreach.mem).symm.trans hn

/-- The fault of a document is its own, or that of the first collection with a fault. -/
theorem of_check_eq_error (h : root.check = .error fault) :
    root.valued root.anchors = .error fault ∨ root.valued root.anchors = .ok () ∧
      ∃ depth n, Reaches (inspect root.anchors) (within root depth) n ∧
        n.inspect root.anchors = .error fault := by
  rw [check_eq] at h
  rcases bind_eq_error_iff.mp h with hvalued | ⟨_, hvalued, hvisit⟩
  · exact Or.inl hvalued
  · exact Or.inr ⟨hvalued, (finds_visit root).error_of hvisit⟩

end Node

end SchemaDepot.Yaml
