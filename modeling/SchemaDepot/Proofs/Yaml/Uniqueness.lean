/-
# Keys of a document are unique

A mapping of a document must not repeat a key: no key may be the same value as one before it,
however both are written, nor the very same "not a number". Nothing else says of a document
that it repeats a key.

If a document is read, the keys of every mapping that is constructed are different, at any
depth, and the mapping keeps all of its entries (`Yaml.Node.keepsEntries_of_read`). If nothing
is wrong with a document but that keys are repeated, the fault names the first one: that of
the first mapping, outer ones before inner ones, which repeats a key
(`Yaml.Node.exists_firstRepeated`). And if a document is refused since it repeats a key, one of
its mappings does (`Yaml.Node.exists_of_repeatedKey`).

Key definitions: `Yaml.Node.Key.Differs`, `Yaml.Node.Key.fault`, `Yaml.Node.Repeats`,
`Yaml.Node.RepeatsFirst`, `Yaml.Node.Whole`, `Yaml.Node.FirstRepeated`, `Yaml.Node.Composes`.
Key theorems: `Yaml.Node.inspect_ends`, `Yaml.Node.inspect_of_repeatsFirst`,
`Yaml.Node.Whole.inspect`, `Yaml.Node.keepsEntries_of_read`, `Yaml.Node.exists_firstRepeated`,
`Yaml.Node.exists_of_repeatedKey`.
-/
import Mathlib.Data.List.Induction
import SchemaDepot.Proofs.Value.Same
import SchemaDepot.Proofs.Yaml.Document
import SchemaDepot.Proofs.Yaml.Visiting

namespace SchemaDepot.Yaml

open Outcome

namespace Node

/-! ### Keys and what they repeat -/

/-- Both keys are different. -/
def Key.Differs (k l : Key) : Prop := k.same l = false

/-- What is wrong with a document that repeats the key: a key without a text cannot be named. -/
def Key.fault (k : Key) : Fault :=
  match k.value.shown with
  | .ok shown => .repeatedKey shown
  | .error e => .unsuitable e

theorem Key.same_comm (k l : Key) : k.same l = l.same k := by
  have hmark : (k.mark?.isSome && decide (k.mark? = l.mark?)) =
      (l.mark?.isSome && decide (l.mark? = k.mark?)) := by
    by_cases h : k.mark? = l.mark?
    · rw [h]
    · rw [decide_eq_false h, decide_eq_false (Ne.symm h), Bool.and_false, Bool.and_false]
  rw [same, same, Value.same_comm, hmark]

theorem Key.Differs.value {k l : Key} (h : k.Differs l) : k.value.Differs l.value :=
  (Bool.or_eq_false_iff.mp h).1

variable {anchors : Anchors} {n m : Node} {front keys seen : List Key} {k : Key}

theorem any_same_of_mem {l : Key} (hl : l ∈ seen) (h : k.same l = true) : seen.any k.same = true :=
  List.any_eq_true.mpr ⟨l, hl, h⟩

theorem any_same_eq_false (h : ∀ l ∈ seen, l.Differs k) : seen.any k.same = false := by
  rw [List.any_eq_false]
  intro l hl
  rw [Key.same_comm k l, h l hl]
  exact Bool.false_ne_true

/-- The node is a mapping that is constructed with its keys, as a mapping or as a set. -/
def IsKeyed : Node → Prop
  | .mapping _ tag _ => tag = .mapping ∨ tag = .set
  | _ => False

/-- The nodes of its keys. -/
def keyNodes : Node → List Node
  | .mapping _ tag entries => if tag = .mapping ∨ tag = .set then entries.map Prod.fst else []
  | _ => []

theorem keyNodes_of_not_isKeyed (h : ¬ n.IsKeyed) : n.keyNodes = [] := by
  cases n with
  | mapping place tag entries => exact if_neg h
  | scalar | sequence | anchored | «alias» => rfl

/-- Among the keys of the node this one comes behind these others. -/
def HasKey (anchors : Anchors) (n : Node) (front : List Key) (k : Key) : Prop :=
  ∃ before m rest, n.keyNodes = before ++ m :: rest ∧ before.mapM (key anchors) = .ok front ∧
    m.key anchors = .ok k

/-- The key is the same as one before it. -/
def Repeats (anchors : Anchors) (n : Node) (k : Key) : Prop :=
  ∃ front, HasKey anchors n front k ∧ ∃ l ∈ front, k.same l = true

/-- It is the first key of the node which is. -/
def RepeatsFirst (anchors : Anchors) (n : Node) (k : Key) : Prop :=
  ∃ front, HasKey anchors n front k ∧ front.Pairwise Key.Differs ∧ ∃ l ∈ front, k.same l = true

/-- All keys of the node can be constructed and are different. -/
def Distinguishes (anchors : Anchors) (n : Node) : Prop :=
  ∃ keys, n.keyNodes.mapM (key anchors) = .ok keys ∧ keys.Pairwise Key.Differs

theorem RepeatsFirst.repeats (h : RepeatsFirst anchors n k) : Repeats anchors n k := by
  obtain ⟨front, hkey, -, hsame⟩ := h
  exact ⟨front, hkey, hsame⟩

theorem Distinguishes.not_repeats (h : Distinguishes anchors n) : ¬ Repeats anchors n k := by
  rintro ⟨front, ⟨before, m, rest, hnodes, hfront, hm⟩, l, hl, hsame⟩
  obtain ⟨keys, hkeys, hdiffer⟩ := h
  rw [hnodes] at hkeys
  obtain ⟨front', back, hfront', hback, rfl⟩ := mapM_append_eq_ok_iff.mp hkeys
  obtain ⟨k', back, hm', -, rfl⟩ := mapM_cons_eq_ok_iff.mp hback
  cases hfront.symm.trans hfront'
  cases hm.symm.trans hm'
  have hlk : l.Differs k := (List.pairwise_append.mp hdiffer).2.2 l hl k List.mem_cons_self
  rw [Key.same_comm, hlk] at hsame
  cases hsame

end Node

/-! ### Checking the keys of a mapping -/

namespace Reading

open Node

variable {r : Reading} {before after ns : List Node} {n : Node} {seen front keys : List Key}
  {k : Key}

/-- Different keys are passed over. -/
theorem checkKeys_append (r : Reading) (hfront : before.mapM (key r.anchors) = .ok front)
    (hdiffer : (seen ++ front).Pairwise Key.Differs) :
    r.checkKeys seen (before ++ after) = r.checkKeys (seen ++ front) after := by
  induction before generalizing seen front with
  | nil =>
    rw [List.mapM_nil] at hfront
    cases hfront
    rw [List.nil_append, List.append_nil]
  | cons m before ih =>
    obtain ⟨k, front, hm, hbefore, rfl⟩ := mapM_cons_eq_ok_iff.mp hfront
    have hnew : seen.any k.same = false := by
      refine any_same_eq_false fun l hl => ?_
      exact (List.pairwise_append.mp hdiffer).2.2 l hl k List.mem_cons_self
    have happend : seen ++ k :: front = (seen ++ [k]) ++ front := by simp
    rw [happend] at hdiffer ⊢
    rw [← ih hbefore hdiffer, List.cons_append, checkKeys, hm, ok_bind, hnew]
    rfl

theorem checkKeys_of_differs (r : Reading) (hkeys : ns.mapM (key r.anchors) = .ok keys)
    (hdiffer : keys.Pairwise Key.Differs) : r.checkKeys [] ns = .ok () := by
  have hall : ([] ++ keys).Pairwise Key.Differs := hdiffer
  calc r.checkKeys [] ns = r.checkKeys [] (ns ++ []) := by rw [List.append_nil]
    _ = r.checkKeys ([] ++ keys) [] := r.checkKeys_append hkeys hall
    _ = .ok () := rfl

theorem checkKeys_of_same (hn : n.key r.anchors = .ok k) (hsame : ∃ l ∈ seen, k.same l = true) :
    r.checkKeys seen (n :: ns) = .error k.fault := by
  obtain ⟨l, hl, hsame⟩ := hsame
  rw [checkKeys, hn, ok_bind, if_pos (any_same_of_mem hl hsame), Key.fault]
  cases k.value.shown with
  | ok s => rfl
  | error e => rfl

/-- Either all keys can be constructed and are different, or there is a fault: a plain one, or
the first key that is the same as one before it. -/
theorem checkKeys_ends (r : Reading) (ns : List Node) (hseen : seen.Pairwise Key.Differs) :
    Ends (fun fault => fault.Plain ∨ ∃ before n after front k, ns = before ++ n :: after ∧
        before.mapM (key r.anchors) = .ok front ∧ n.key r.anchors = .ok k ∧
        (seen ++ front).Pairwise Key.Differs ∧ (∃ l ∈ seen ++ front, k.same l = true) ∧
        fault = k.fault)
      (fun _ => ∃ keys, ns.mapM (key r.anchors) = .ok keys ∧ (seen ++ keys).Pairwise Key.Differs)
      (r.checkKeys seen ns) := by
  induction ns generalizing seen with
  | nil => exact .ok ⟨[], List.mapM_nil, by rwa [List.append_nil]⟩
  | cons n ns ih =>
    cases hn : n.key r.anchors with
    | error fault =>
      have hcheck : r.checkKeys seen (n :: ns) = .error fault := by
        rw [checkKeys, hn]
        rfl
      rw [hcheck]
      exact .error (Or.inl ((n.key_plain r.anchors).error_of hn))
    | ok k =>
      by_cases hsame : ∃ l ∈ seen, k.same l = true
      · rw [checkKeys_of_same hn hsame]
        refine .error (Or.inr ⟨[], n, ns, [], k, rfl, List.mapM_nil, hn, ?_, ?_, rfl⟩)
        · rwa [List.append_nil]
        · rwa [List.append_nil]
      · have hnew : (seen ++ [k]).Pairwise Key.Differs := by
          refine List.pairwise_append.mpr
            ⟨hseen, List.pairwise_singleton _ _, fun l hl k' hk' => ?_⟩
          rw [List.mem_singleton.mp hk', Key.Differs, Key.same_comm]
          exact Bool.eq_false_iff.mpr fun h => hsame ⟨l, hl, h⟩
        have hfirst : [n].mapM (key r.anchors) = .ok [k] :=
          mapM_cons_eq_ok_iff.mpr ⟨k, [], hn, List.mapM_nil, rfl⟩
        have hcheck : r.checkKeys seen (n :: ns) = r.checkKeys (seen ++ [k]) ns :=
          r.checkKeys_append hfirst hnew
        rw [hcheck]
        have hrest := ih hnew
        constructor
        · intro fault hfault
          rcases hrest.error_of hfault with
            hplain | ⟨before, m, after, front, l, rfl, hfront, hm, h⟩
          · exact Or.inl hplain
          · rw [List.append_assoc] at h
            refine Or.inr ⟨n :: before, m, after, k :: front, l, rfl, ?_, hm, h⟩
            exact mapM_cons_eq_ok_iff.mpr ⟨k, front, hn, hfront, rfl⟩
        · intro _ hok
          obtain ⟨keys, hkeys, hdiffer⟩ := hrest.ok_of hok
          rw [List.append_assoc] at hdiffer
          exact ⟨k :: keys, mapM_cons_eq_ok_iff.mpr ⟨k, keys, hn, hkeys, rfl⟩, hdiffer⟩

/-! ### Visiting one collection -/

theorem visit_mapping (r : Reading) {place : Nat} {tag : Tag} {entries : List (Node × Node)}
    (htag : tag = .mapping ∨ tag = .set) :
    r.visit (.mapping place tag entries) = (r.checkKeys [] (entries.map Prod.fst) >>= fun _ =>
      r.meetAll (entries.map Prod.snd)) := by
  rcases htag with rfl | rfl
  · rfl
  · rfl

/-- Without keys only plain faults are met. -/
theorem visit_plain (r : Reading) (h : ¬ n.IsKeyed) : Plain (r.visit n) := by
  have hmapping : n.tag = .mapping ∨ n.tag = .set → Plain (r.visitMapping n) := by
    intro htag
    unfold visitMapping
    split
    · exact absurd htag h
    · exact .ite (.error trivial) (.error rfl)
    · exact .ite (.error trivial) (.error rfl)
    · exact .error trivial
  unfold visit
  split
  · exact hmapping (Or.inl ‹_›)
  · exact hmapping (Or.inr ‹_›)
  · split
    · exact r.meetAll_plain _
    · exact .error trivial
  · split
    · exact r.visitPairs_plain _
    · exact .error trivial
  · exact .ok _

/-- **What can be wrong with a collection.** Its keys are different, or there is a fault: a plain
one, or the first key that is the same as one before it. -/
theorem visit_ends (r : Reading) (n : Node) :
    Ends (fun fault => fault.Plain ∨ ∃ k, RepeatsFirst r.anchors n k ∧ fault = k.fault)
      (fun _ => Distinguishes r.anchors n) (r.visit n) := by
  by_cases hkeyed : n.IsKeyed
  · cases n with
    | scalar | sequence | anchored | «alias» => cases hkeyed
    | mapping place tag entries =>
      have hnodes : keyNodes (.mapping place tag entries) = entries.map Prod.fst := if_pos hkeyed
      have hcheck := r.checkKeys_ends (entries.map Prod.fst) List.Pairwise.nil
      rw [visit_mapping r hkeyed]
      constructor
      · intro fault hfault
        rcases bind_eq_error_iff.mp hfault with hfault | ⟨_, -, hfault⟩
        · refine (hcheck.error_of hfault).imp id ?_
          rintro ⟨before, m, after, front, k, hsplit, hfront, hm, hdiffer, hsame, rfl⟩
          refine ⟨k, ⟨front, ⟨before, m, after, ?_, hfront, hm⟩, hdiffer, hsame⟩, rfl⟩
          rw [hnodes, hsplit]
        · exact Or.inl ((r.meetAll_plain _).error_of hfault)
      · intro _ hok
        obtain ⟨_, hkeys, -⟩ := bind_eq_ok_iff.mp hok
        obtain ⟨keys, hkeys, hdiffer⟩ := hcheck.ok_of hkeys
        exact ⟨keys, by rwa [hnodes], hdiffer⟩
  · have hplain := visit_plain r hkeyed
    refine ⟨fun hfault => Or.inl (hplain.error_of hfault), fun _ => ⟨[], ?_, List.Pairwise.nil⟩⟩
    rw [keyNodes_of_not_isKeyed hkeyed, List.mapM_nil]
    rfl

theorem exists_meetAll (h : ∀ m ∈ ns, m.valued r.anchors = .ok ()) :
    ∃ r', r.meetAll ns = .ok r' := by
  induction ns generalizing r with
  | nil => exact ⟨r, rfl⟩
  | cons n ns ih =>
    obtain ⟨hn, hns⟩ := List.forall_mem_cons.mp h
    rw [meetAll, meet_eq, hn]
    exact ih hns

theorem exists_visitPairs (hitems : ∀ i ∈ ns, ∃ place tag k v,
      i.resolve r.anchors = .mapping place tag [(k, v)])
    (hvalues : ∀ m ∈ ns.flatMap (pairParts r.anchors), m.valued r.anchors = .ok ()) :
    ∃ r', r.visitPairs ns = .ok r' := by
  induction ns generalizing r with
  | nil => exact ⟨r, rfl⟩
  | cons n ns ih =>
    obtain ⟨⟨place, tag, k, v, hn⟩, hns⟩ := List.forall_mem_cons.mp hitems
    have hparts : pairParts r.anchors n = [k, v] := by
      rw [pairParts, hn]
    rw [List.flatMap_cons, hparts] at hvalues
    obtain ⟨hk, hvalues⟩ := List.forall_mem_cons.mp hvalues
    obtain ⟨hv, hvalues⟩ := List.forall_mem_cons.mp hvalues
    have hmet : r.visitPairs (n :: ns) =
        ((r.absorb (parts r.anchors [k])).absorb (parts r.anchors [v])).visitPairs ns := by
      have hv' : v.valued (r.absorb (parts r.anchors [k])).anchors = .ok () := hv
      have hk' : r.meet k = .ok (r.absorb (parts r.anchors [k])) := by
        rw [meet_eq, hk]
        rfl
      simp only [visitPairs, hn]
      rw [hk', ok_bind, meet_eq, hv']
      rfl
    rw [hmet]
    exact ih hns hvalues

end Reading

namespace Node

variable {anchors : Anchors} {root n : Node} {k : Key} {keys : List Key} {text : String}

theorem inspect_ends (anchors : Anchors) (n : Node) :
    Ends (fun fault => fault.Plain ∨ ∃ k, RepeatsFirst anchors n k ∧ fault = k.fault)
      (fun _ => Distinguishes anchors n) (n.inspect anchors) := by
  have hvisit := Reading.visit_ends ⟨anchors, [], []⟩ n
  unfold inspect
  cases hr : Reading.visit ⟨anchors, [], []⟩ n with
  | error fault => exact .error (hvisit.error_of hr)
  | ok r => exact .ok (hvisit.ok_of hr)

theorem isKeyed_of_repeats (h : Repeats anchors n k) : n.IsKeyed := by
  by_contra hkeyed
  obtain ⟨front, ⟨before, m, rest, hnodes, -⟩, -⟩ := h
  rw [keyNodes_of_not_isKeyed hkeyed] at hnodes
  cases before <;> cases hnodes

/-- The first repeated key of a mapping is what is wrong with it, whatever comes after. -/
theorem inspect_of_repeatsFirst (h : RepeatsFirst anchors n k) :
    n.inspect anchors = .error k.fault := by
  have hkeyed := isKeyed_of_repeats h.repeats
  obtain ⟨front, ⟨before, m, rest, hnodes, hfront, hm⟩, hdiffer, hsame⟩ := h
  cases n with
  | scalar | sequence | anchored | «alias» => cases hkeyed
  | mapping place tag entries =>
    have hentries : keyNodes (.mapping place tag entries) = entries.map Prod.fst := if_pos hkeyed
    have hcheck : Reading.checkKeys ⟨anchors, [], []⟩ [] (entries.map Prod.fst) =
        .error k.fault := by
      have hnone : ([] ++ front).Pairwise Key.Differs := hdiffer
      rw [← hentries, hnodes, Reading.checkKeys_append ⟨anchors, [], []⟩ hfront hnone]
      exact Reading.checkKeys_of_same hm hsame
    rw [inspect, Reading.visit_mapping _ hkeyed, hcheck]
    rfl

/-! ### Collections with which nothing else is wrong -/

/-- The collection is of the kind that its tag asks for. -/
def Fits (anchors : Anchors) : Node → Prop
  | .mapping _ tag _ => tag = .mapping ∨ tag = .set
  | .sequence _ tag items => tag = .sequence ∨ tag = .pairs ∧
      ∀ i ∈ items, ∃ place tag k v, i.resolve anchors = .mapping place tag [(k, v)]
  | _ => False

/-- Nothing is wrong with the collection unless it repeats a key: it can be constructed, all of
its keys can, and what it holds has a value. -/
structure Whole (anchors : Anchors) (n : Node) : Prop where
  fits : n.Fits anchors
  keys : ∃ keys, n.keyNodes.mapM (key anchors) = .ok keys
  values : ∀ m ∈ n.held anchors, m.valued anchors = .ok ()

/-- Items that are not all related have a first one to which an earlier one is not. -/
theorem exists_of_not_pairwise {α : Type} {R : α → α → Prop} {xs : List α}
    (h : ¬ xs.Pairwise R) :
    ∃ front x rest, xs = front ++ x :: rest ∧ front.Pairwise R ∧ ∃ y ∈ front, ¬ R y x := by
  induction xs using List.reverseRecOn with
  | nil => exact absurd List.Pairwise.nil h
  | append_singleton xs x ih =>
    by_cases hxs : xs.Pairwise R
    · refine ⟨xs, x, [], rfl, hxs, ?_⟩
      by_contra hall
      simp only [not_exists, not_and, not_not] at hall
      refine h (List.pairwise_append.mpr ⟨hxs, List.pairwise_singleton _ _, fun y hy z hz => ?_⟩)
      rw [List.mem_singleton.mp hz]
      exact hall y hy
    · obtain ⟨front, z, rest, rfl, hfront, hz⟩ := ih hxs
      exact ⟨front, z, rest ++ [x], by simp, hfront, hz⟩

/-- If all keys can be constructed and are not all different, one of them is the first that is
repeated. -/
theorem exists_repeatsFirst (hkeys : n.keyNodes.mapM (key anchors) = .ok keys)
    (h : ¬ keys.Pairwise Key.Differs) : ∃ k, RepeatsFirst anchors n k := by
  obtain ⟨front, k, rest, rfl, hfront, l, hl, hsame⟩ := exists_of_not_pairwise h
  obtain ⟨before, after, hnodes, hbefore, hafter⟩ := mapM_eq_ok_append_iff.mp hkeys
  rw [Key.Differs, Bool.not_eq_false, Key.same_comm] at hsame
  cases after with
  | nil =>
    rw [List.mapM_nil] at hafter
    cases hafter
  | cons m after =>
    obtain ⟨k', rest', hm, -, hcons⟩ := mapM_cons_eq_ok_iff.mp hafter
    cases hcons
    exact ⟨k, front, ⟨before, m, after, hnodes, hbefore, hm⟩, hfront, l, hl, hsame⟩

/-- A whole collection with different keys is in order. -/
theorem Whole.inspect_of_differs (h : Whole anchors n)
    (hkeys : n.keyNodes.mapM (key anchors) = .ok keys) (hdiffer : keys.Pairwise Key.Differs) :
    n.inspect anchors = .ok () := by
  have hfits := h.fits
  have hvalues := h.values
  have hok : ∃ r, Reading.visit ⟨anchors, [], []⟩ n = .ok r := by
    cases n with
    | scalar | anchored | «alias» => cases hfits
    | mapping place tag entries =>
      have hentries : keyNodes (.mapping place tag entries) = entries.map Prod.fst := if_pos hfits
      have hheld : held anchors (.mapping place tag entries) = entries.map Prod.snd := if_pos hfits
      rw [hentries] at hkeys
      rw [hheld] at hvalues
      rw [Reading.visit_mapping _ hfits,
        Reading.checkKeys_of_differs ⟨anchors, [], []⟩ hkeys hdiffer]
      exact Reading.exists_meetAll hvalues
    | sequence place tag items =>
      rcases hfits with rfl | ⟨rfl, hitems⟩
      · exact Reading.exists_meetAll hvalues
      · exact Reading.exists_visitPairs hitems hvalues
  obtain ⟨r, hr⟩ := hok
  rw [Node.inspect, hr]
  rfl

/-- **A whole collection is in order, or it repeats a key.** -/
theorem Whole.inspect (h : Whole anchors n) :
    n.inspect anchors = .ok () ∨ ∃ k, RepeatsFirst anchors n k := by
  obtain ⟨keys, hkeys⟩ := h.keys
  by_cases hdiffer : keys.Pairwise Key.Differs
  · exact Or.inl (h.inspect_of_differs hkeys hdiffer)
  · exact Or.inr (exists_repeatsFirst hkeys hdiffer)

/-! ### The value of a mapping -/

theorem value_of_key {m : Node} (h : m.key anchors = .ok k) : m.value anchors = k.value := by
  obtain ⟨hcontent, h⟩ := refuse_eq_ok_iff.mp h
  obtain ⟨v, hv, h⟩ := bind_eq_ok_iff.mp h
  cases h
  rw [value]
  dsimp only
  rw [if_neg hcontent, hv]

mutual

theorem exists_place : ∀ {n m : Node}, m ∈ n.collections → ∃ p, m.place? = some p
  | .scalar _ _, _, hm | .alias _, _, hm => absurd hm List.not_mem_nil
  | .sequence p _ items, m, hm => by
    rcases List.mem_cons.mp hm with rfl | hm
    · exact ⟨p, rfl⟩
    · exact exists_place_among hm
  | .mapping p _ entries, m, hm => by
    rcases List.mem_cons.mp hm with rfl | hm
    · exact ⟨p, rfl⟩
    · exact exists_place_entry hm
  | .anchored _ n, _, hm => exists_place (n := n) hm

theorem exists_place_among : ∀ {ns : List Node} {m : Node},
    m ∈ collectionsAmong ns → ∃ p, m.place? = some p
  | [], _, hm => absurd hm List.not_mem_nil
  | n :: ns, _, hm => by
    rcases List.mem_append.mp hm with hm | hm
    · exact exists_place hm
    · exact exists_place_among hm

theorem exists_place_entry : ∀ {es : List (Node × Node)} {m : Node},
    m ∈ entryCollections es → ∃ p, m.place? = some p
  | [], _, hm => absurd hm List.not_mem_nil
  | (k, v) :: es, _, hm => by
    rcases List.mem_append.mp hm with hm | hm
    · rcases List.mem_append.mp hm with hm | hm
      · exact exists_place hm
      · exact exists_place hm
    · exact exists_place_entry hm

end

/-- Where places tell collections apart, each is found in the pool. -/
theorem lookup_pool (hroot : root.places.Pairwise (· < ·)) {p : Nat} (hn : n ∈ root.collections)
    (hp : n.place? = some p) :
    (root.pool root.anchors).lookup p = some (n.contents root.anchors) := by
  have hmem : (p, n.contents root.anchors) ∈ root.pool root.anchors :=
    List.mem_map.mpr ⟨n, hn, by rw [hp]; rfl⟩
  cases hlookup : (root.pool root.anchors).lookup p with
  | none =>
    have habsent := List.lookup_eq_none_iff.mp hlookup _ hmem
    simp at habsent
  | some c =>
    obtain ⟨front, rest, hpool, -⟩ := List.lookup_eq_some_iff.mp hlookup
    have hc : (p, c) ∈ root.pool root.anchors := by
      rw [hpool]
      exact List.mem_append_right _ List.mem_cons_self
    obtain ⟨m, hm, hmc⟩ := List.mem_map.mp hc
    obtain ⟨q, hq⟩ := exists_place hm
    rw [hq] at hmc
    cases hmc
    rw [eq_of_place?_eq hroot hm hn hq hp]

/-! ### The whole document -/

/-- The characters of the text are permitted, and the node of its document is the root. -/
structure Composes (text : String) (root : Node) : Prop where
  permitted : text.toList.all isPermitted = true
  composed : ofTokens (tokens text.toList).1 (tokens text.toList).2 = .ok root

theorem Composes.read (h : Composes text root) :
    Yaml.read text = root.check.map fun _ => root.data := by
  have hcomposed := h.composed
  rw [Yaml.read, readChars, h.permitted, Bool.not_true, if_neg Bool.false_ne_true]
  cases htokens : tokens text.toList with
  | mk ts fault? =>
    rw [htokens] at hcomposed
    dsimp only at hcomposed ⊢
    rw [hcomposed, ok_bind]
    cases root.check with
    | error fault => rfl
    | ok _ => rfl

theorem Composes.read_eq_ok_iff {data : Data} (h : Composes text root) :
    Yaml.read text = .ok data ↔ root.check = .ok () ∧ root.data = data := by
  rw [h.read]
  cases root.check with
  | error fault => simp [Except.map]
  | ok _ => simp [Except.map]

theorem Composes.read_eq_error_iff {fault : Fault} (h : Composes text root) :
    Yaml.read text = .error fault ↔ root.check = .error fault := by
  rw [h.read]
  cases root.check with
  | error fault => simp [Except.map]
  | ok _ => simp [Except.map]

theorem Composes.increasing (h : Composes text root) : root.places.Pairwise (· < ·) :=
  increasing_of_ofTokens h.composed

/-- In a document that is read, nothing is wrong with any collection that is constructed. -/
theorem Composes.inspect {data : Data} (h : Composes text root) (hread : Yaml.read text = .ok data)
    (hn : Constructed root n) : n.inspect root.anchors = .ok () := by
  obtain ⟨depth, hn⟩ := (constructed_iff_within h.increasing).mp hn
  exact (check_eq_ok_iff.mp (h.read_eq_ok_iff.mp hread).1).2 depth n hn

theorem exists_mapping_of_inspect (htag : n.tag = .mapping) (h : n.inspect anchors = .ok ()) :
    ∃ place entries, n = .mapping place .mapping entries := by
  cases n with
  | mapping place tag entries =>
    cases htag
    exact ⟨place, entries, rfl⟩
  | scalar | sequence =>
    cases htag
    simp only [Node.inspect, Reading.visit, Node.tag, Reading.visitMapping] at h
    split at h
    · cases h
    · cases h
  | anchored | «alias» => cases htag

/-- The mapping stands in the pool with an entry for each pair of its node, in order, and the
keys of the entries are those of the node, all of them different. -/
def KeepsEntries (root : Node) (pool : Pool) (n : Node) : Prop :=
  ∃ place entries keys kept, n = .mapping place .mapping entries ∧
    (entries.map Prod.fst).mapM (key root.anchors) = .ok keys ∧
    (keys.map Key.value).Pairwise Value.Differs ∧ pool.lookup place = some (.map kept) ∧
    kept.map Prod.fst = keys.map Key.value ∧ kept.length = entries.length

/-- **Keys are unique at any depth.** In a document that is read every mapping keeps its
entries. -/
theorem keepsEntries_of_read {data : Data} (hcomposes : Composes text root)
    (hread : Yaml.read text = .ok data) (hn : Constructed root n) (htag : n.tag = .mapping) :
    KeepsEntries root data.pool n := by
  have hinspect := hcomposes.inspect hread hn
  obtain ⟨place, entries, rfl⟩ := exists_mapping_of_inspect htag hinspect
  obtain ⟨keys, hkeys, hdiffer⟩ := (inspect_ends _ _).ok_of hinspect
  have hvalues : (keys.map Key.value).Pairwise Value.Differs :=
    List.pairwise_map.mpr (hdiffer.imp Key.Differs.value)
  have hkept : (entries.map fun e => (e.1.value root.anchors, e.2.value root.anchors)).map
      Prod.fst = keys.map Key.value := by
    have hnodes : keyNodes (.mapping place .mapping entries) = entries.map Prod.fst := rfl
    rw [hnodes] at hkeys
    have hall : (entries.map Prod.fst).map (value root.anchors) = keys.map Key.value :=
      map_eq_of_mapM (fun m k => value_of_key) hkeys
    rw [← hall, List.map_map, List.map_map]
    rfl
  obtain ⟨depth, hwithin⟩ := (constructed_iff_within hcomposes.increasing).mp hn
  have hlookup := lookup_pool hcomposes.increasing
    (mem_collections_of_inside (of_mem_within hwithin).1 rfl) rfl
  rw [← hkept] at hvalues
  refine ⟨place, entries, keys, _, rfl, hkeys, hkept ▸ hvalues, ?_, hkept, List.length_map _⟩
  rw [← (hcomposes.read_eq_ok_iff.mp hread).2, ← Value.mapOf_eq hvalues]
  exact hlookup

/-- Nothing is wrong with the document unless it repeats keys: it has a value, and so has all
that is constructed. -/
structure Constructible (root : Node) : Prop where
  valued : root.valued root.anchors = .ok ()
  whole : ∀ n, Constructed root n → Whole root.anchors n

/-- This key is repeated, and no key is that comes before it, where collections are visited
breadth first. -/
def FirstRepeated (root n : Node) (k : Key) : Prop :=
  ∃ depth done rest, within root depth = done ++ n :: rest ∧
    (∀ m ∈ done, ∀ l, ¬ Repeats root.anchors m l) ∧ RepeatsFirst root.anchors n k

/-- **The first repeated key is the fault** of a document that has no other. -/
theorem exists_firstRepeated (hcomposes : Composes text root) (h : Constructible root)
    (hrepeats : ∃ n k, Constructed root n ∧ Repeats root.anchors n k) :
    ∃ n k, FirstRepeated root n k ∧ Yaml.read text = .error k.fault := by
  have hwithin : ∀ {depth n}, n ∈ within root depth → Constructed root n := fun hn =>
    (constructed_iff_within hcomposes.increasing).mpr ⟨_, hn⟩
  cases hcheck : root.check with
  | ok _ =>
    obtain ⟨n, k, hn, hrepeats⟩ := hrepeats
    obtain ⟨depth, hn⟩ := (constructed_iff_within hcomposes.increasing).mp hn
    have hinspect := (check_eq_ok_iff.mp hcheck).2 depth n hn
    exact absurd hrepeats ((inspect_ends _ _).ok_of hinspect).not_repeats
  | error fault =>
    rcases of_check_eq_error hcheck with hvalued | ⟨-, depth, n, hreach, hfault⟩
    · cases h.valued.symm.trans hvalued
    · obtain ⟨done, rest, hsplit, hdone⟩ := hreach
      have hn : n ∈ within root depth := by
        rw [hsplit]
        exact List.mem_append_right _ List.mem_cons_self
      rcases (h.whole n (hwithin hn)).inspect with hok | ⟨k, hk⟩
      · cases hok.symm.trans hfault
      · cases (inspect_of_repeatsFirst hk).symm.trans hfault
        refine ⟨n, k, ⟨depth, done, rest, hsplit, fun m hm l => ?_, hk⟩, ?_⟩
        · obtain ⟨_, hok⟩ := hdone m hm
          exact ((inspect_ends _ _).ok_of hok).not_repeats
        · exact hcomposes.read_eq_error_iff.mpr hcheck

/-- **Only a repeated key is refused as one.** -/
theorem exists_of_repeatedKey {s : String} (hcomposes : Composes text root)
    (h : Yaml.read text = .error (.repeatedKey s)) :
    ∃ n k, Constructed root n ∧ Repeats root.anchors n k ∧ k.value.shown = .ok s := by
  have hcheck := hcomposes.read_eq_error_iff.mp h
  rcases of_check_eq_error hcheck with hvalued | ⟨-, depth, n, hreach, hfault⟩
  · have hplain : Plain (root.valued root.anchors) := (Reading.meet_plain _ root).map _
    cases hplain.error_of hvalued
  · rcases (inspect_ends _ _).error_of hfault with hplain | ⟨k, hk, hfault⟩
    · cases hplain
    · refine ⟨n, k, (constructed_iff_within hcomposes.increasing).mpr ⟨depth, hreach.mem⟩,
        hk.repeats, ?_⟩
      unfold Key.fault at hfault
      split at hfault
      · rename_i hshown
        cases hfault
        exact hshown
      · cases hfault

end Node

end SchemaDepot.Yaml
