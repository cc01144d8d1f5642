/-
# Places of collections

The place of a collection is the number of tokens before its start. A collection comes before
those it holds, and what it holds lies before its end, so the places of the collections of a
document increase, and no two collections have the same (`Yaml.Node.increasing_of_ofTokens`).
A collection can be told by its place. What is inside a collection, by itself or under a name,
is inside the document.

As in the proofs on how building fails, what is proved of all operations for less fuel is
proved of each for more.

Key definitions: `Yaml.Spans`, `Yaml.Builder.Lays`.
Key theorems: `Yaml.Node.subset_of_mem_anchors`, `Yaml.Builder.lays`,
`Yaml.Node.increasing_of_ofTokens`, `Yaml.Node.eq_of_place?_eq`.
-/
import Mathlib.Data.List.Basic
import Mathlib.Data.List.Pairwise
import SchemaDepot.Proofs.Outcome
import SchemaDepot.Proofs.Outcome.Ends
import SchemaDepot.Yaml.Node

namespace SchemaDepot.Yaml

open Outcome

namespace Node

/-! ### Collections inside one another -/

mutual

/-- The collections in a node with a name are collections of the node it stands in. -/
theorem subset_of_mem_anchors : ∀ (n : Node) {name : String} {c : Node},
    (name, c) ∈ n.anchors → c.collections ⊆ n.collections
  | .scalar _ _, _, c, hc | .alias _, _, c, hc => absurd hc List.not_mem_nil
  | .sequence _ _ items, _, c, hc =>
    List.subset_cons_of_subset _ (subset_of_mem_anchorsAmong items hc)
  | .mapping _ _ entries, _, c, hc =>
    List.subset_cons_of_subset _ (subset_of_mem_entryAnchors entries hc)
  | .anchored _ n, _, c, hc => by
    rcases List.mem_append.mp hc with hc | hc
    · exact subset_of_mem_anchors n hc
    · cases List.mem_singleton.mp hc
      exact List.Subset.refl _

theorem subset_of_mem_anchorsAmong : ∀ (ns : List Node) {name : String} {c : Node},
    (name, c) ∈ anchorsAmong ns → c.collections ⊆ collectionsAmong ns
  | [], _, c, hc => absurd hc List.not_mem_nil
  | n :: ns, _, c, hc => by
    rcases List.mem_append.mp hc with hc | hc
    · exact List.subset_append_of_subset_left _ (subset_of_mem_anchors n hc)
    · exact List.subset_append_of_subset_right _ (subset_of_mem_anchorsAmong ns hc)

theorem subset_of_mem_entryAnchors : ∀ (es : List (Node × Node)) {name : String} {c : Node},
    (name, c) ∈ entryAnchors es → c.collections ⊆ entryCollections es
  | [], _, c, hc => absurd hc List.not_mem_nil
  | (k, v) :: es, _, c, hc => by
    rcases List.mem_append.mp hc with hc | hc
    · refine List.subset_append_of_subset_left _ ?_
      rcases List.mem_append.mp hc with hc | hc
      · exact List.subset_append_of_subset_left _ (subset_of_mem_anchors k hc)
      · exact List.subset_append_of_subset_right _ (subset_of_mem_anchors v hc)
    · exact List.subset_append_of_subset_right _ (subset_of_mem_entryAnchors es hc)

end

mutual

theorem length_collections_le : ∀ n : Node, n.collections.length ≤ n.size
  | .scalar _ _ | .alias _ => Nat.zero_le _
  | .sequence _ _ items => by
    have hitems := length_collectionsAmong_le items
    simp only [collections, size, List.length_cons]
    omega
  | .mapping _ _ entries => by
    have hentries := length_entryCollections_le entries
    simp only [collections, size, List.length_cons]
    omega
  | .anchored _ n => by
    have hn := length_collections_le n
    simp only [collections, size]
    omega

theorem length_collectionsAmong_le : ∀ ns : List Node, (collectionsAmong ns).length ≤ sizes ns
  | [] => Nat.zero_le _
  | n :: ns => by
    have hn := length_collections_le n
    have hns := length_collectionsAmong_le ns
    simp only [collectionsAmong, sizes, List.length_append]
    omega

theorem length_entryCollections_le :
    ∀ es : List (Node × Node), (entryCollections es).length ≤ entrySizes es
  | [] => Nat.zero_le _
  | (k, v) :: es => by
    have hk := length_collections_le k
    have hv := length_collections_le v
    have hes := length_entryCollections_le es
    simp only [entryCollections, entrySizes, List.length_append]
    omega

end

variable {anchors : Anchors} {n k v : Node} {tag : Tag} {place p : Nat}

theorem mem_collections_self (h : n.place? = some p) : n ∈ n.collections := by
  cases n with
  | sequence place tag items => exact List.mem_cons_self
  | mapping place tag entries => exact List.mem_cons_self
  | scalar | anchored | «alias» => cases h

theorem subset_of_mem {ns : List Node} (h : n ∈ ns) : n.collections ⊆ collectionsAmong ns := by
  induction ns with
  | nil => cases h
  | cons m ns ih =>
    rcases List.mem_cons.mp h with rfl | h
    · exact List.subset_append_left _ _
    · exact List.subset_append_of_subset_right _ (ih h)

theorem subset_of_mem_entries {es : List (Node × Node)} (h : (k, v) ∈ es) :
    k.collections ⊆ entryCollections es ∧ v.collections ⊆ entryCollections es := by
  induction es with
  | nil => cases h
  | cons e es ih =>
    obtain ⟨k', v'⟩ := e
    rcases List.mem_cons.mp h with h | h
    · cases h
      exact ⟨List.subset_append_of_subset_left _ (List.subset_append_left _ _),
        List.subset_append_of_subset_left _ (List.subset_append_right _ _)⟩
    · obtain ⟨hk, hv⟩ := ih h
      exact ⟨List.subset_append_of_subset_right _ hk, List.subset_append_of_subset_right _ hv⟩

end Node

/-! ### Stretches of places -/

/-- The places increase, and lie between two numbers, the first one included. -/
structure Spans (first : Nat) (ps : List Nat) (last : Nat) : Prop where
  le : first ≤ last
  increasing : ps.Pairwise (· < ·)
  between : ∀ p ∈ ps, first ≤ p ∧ p < last

namespace Spans

variable {first middle last p : Nat} {ps qs : List Nat}

theorem nil (h : first ≤ last) : Spans first [] last :=
  ⟨h, List.Pairwise.nil, fun _ hp => absurd hp List.not_mem_nil⟩

theorem append (hps : Spans first ps middle) (hqs : Spans middle qs last) :
    Spans first (ps ++ qs) last where
  le := Nat.le_trans hps.le hqs.le
  increasing := by
    refine List.pairwise_append.mpr ⟨hps.increasing, hqs.increasing, fun p hp q hq => ?_⟩
    have hbefore := (hps.between p hp).2
    have hafter := (hqs.between q hq).1
    omega
  between q hq := by
    rcases List.mem_append.mp hq with hq | hq
    · have hbefore := hps.between q hq
      have hle := hqs.le
      omega
    · have hafter := hqs.between q hq
      have hle := hps.le
      omega

/-- A place comes before those after it. -/
theorem cons (h : Spans (p + 1) ps last) : Spans p (p :: ps) last where
  le := Nat.le_trans (Nat.le_succ p) h.le
  increasing := List.pairwise_cons.mpr ⟨fun q hq => (h.between q hq).1, h.increasing⟩
  between q hq := by
    rcases List.mem_cons.mp hq with rfl | hq
    · exact ⟨Nat.le_refl q, h.le⟩
    · have hbetween := h.between q hq
      omega

theorem of_le (h : Spans middle ps last) (hle : first ≤ middle) : Spans first ps last where
  le := Nat.le_trans hle h.le
  increasing := h.increasing
  between q hq := ⟨Nat.le_trans hle (h.between q hq).1, (h.between q hq).2⟩

end Spans

namespace Node

/-- The places of the collections in a node. -/
def places (n : Node) : List Nat := n.collections.filterMap place?

/-- The places of the collections in several nodes. -/
def placesAmong (ns : List Node) : List Nat := (collectionsAmong ns).filterMap place?

/-- The places of the collections in keys and values. -/
def entryPlaces (es : List (Node × Node)) : List Nat := (entryCollections es).filterMap place?

variable {place : Nat} {tag : Tag} {n k v : Node} {ns : List Node} {es : List (Node × Node)}

@[simp] theorem places_missing : missing.places = [] := rfl

@[simp] theorem places_sequence : (sequence place tag ns).places = place :: placesAmong ns := by
  simp [places, placesAmong, collections, place?]

@[simp] theorem places_mapping : (mapping place tag es).places = place :: entryPlaces es := by
  simp [places, entryPlaces, collections, place?]

@[simp] theorem places_withName {anchor? : Option String} :
    (Builder.withName anchor? n).places = n.places := by
  cases anchor? with
  | none => rfl
  | some name => simp [Builder.withName, places, collections]

@[simp] theorem placesAmong_cons : placesAmong (n :: ns) = n.places ++ placesAmong ns := by
  simp [placesAmong, places, collectionsAmong]

@[simp] theorem entryPlaces_nil : entryPlaces [] = [] := rfl

@[simp] theorem entryPlaces_cons :
    entryPlaces ((k, v) :: es) = k.places ++ v.places ++ entryPlaces es := by
  simp [entryPlaces, places, entryCollections]

end Node

/-! ### Building -/

namespace Builder

open Node

variable {b : Builder}

/-- What is taken from the tokens has its places among them. -/
def Lays {α : Type} (places : α → List Nat) (b : Builder) (x : Except Fault (α × Builder)) : Prop :=
  Ends (fun _ => True) (fun r => Spans b.taken (places r.1) r.2.taken) x

/-- A step to a later builder, or a fault. -/
def Passes (b : Builder) (x : Except Fault Builder) : Prop :=
  Ends (fun _ => True) (fun after => b.taken ≤ after.taken) x

theorem advance_taken : b.advance.taken = b.taken + 1 := rfl

theorem refuse_fails {α : Type} {Q : α → Prop} :
    Ends (fun _ => True) Q (b.refuse : Except Fault α) :=
  .ite (fun _ => .error trivial) fun _ => .error trivial

theorem expectMore_fails : Ends (fun _ => True) (fun _ => True) b.expectMore :=
  .ite (fun _ => refuse_fails) fun _ => .ok trivial

theorem take_passes (t : Token) : b.Passes (b.take t) :=
  .ite (fun _ => .ok (Nat.le_succ _)) fun _ => refuse_fails

theorem give_passes (name : String) : b.Passes (b.give name) :=
  .ite (fun _ => .error trivial) fun _ => .ok (Nat.le_refl _)

theorem taken_le_properties : b.taken ≤ b.properties.2.taken := by
  unfold properties
  split
  all_goals
    simp only [advance_taken]
    omega

/-- Everything that is built with some fuel has its places among its tokens. A sequence that is
not indented has none before its first mark, which comes where the sequence has an entry. -/
structure LaysAll (fuel : Nat) : Prop where
  node : ∀ setting (b : Builder), b.Lays places (node setting fuel b)
  content : ∀ setting props tag? (b : Builder), b.Lays places (content setting props tag? fuel b)
  nodeUnless : ∀ ends setting (b : Builder), b.Lays places (nodeUnless ends setting fuel b)
  blockSequence : ∀ b : Builder, b.Lays placesAmong (blockSequence fuel b)
  plainSequence : ∀ b : Builder, b.Lays placesAmong (plainSequence fuel b)
  marked : ∀ b : Builder, b.comes [.blockEntry] = true →
    b.advance.Lays placesAmong (Builder.plainSequence fuel b)
  entryValue : ∀ ends setting (b : Builder), b.Lays places (entryValue ends setting fuel b)
  blockMapping : ∀ b : Builder, b.Lays entryPlaces (blockMapping fuel b)
  flowSequence : ∀ first (b : Builder), b.Lays placesAmong (flowSequence first fuel b)
  flowMapping : ∀ first (b : Builder), b.Lays entryPlaces (flowMapping first fuel b)

section

variable {fuel : Nat} (ih : LaysAll fuel)
include ih

theorem node_lays (setting : Setting) : b.Lays places (node setting (fuel + 1) b) := by
  unfold node
  split
  · exact .ite (fun _ => .ok (.nil (Nat.le_succ _))) fun _ => .error trivial
  · refine .ite (fun _ => .error trivial) fun _ => ?_
    have hproperties := b.taken_le_properties
    generalize b.properties = r at hproperties ⊢
    obtain ⟨⟨anchor?, given?⟩, b'⟩ := r
    refine .check expectMore_fails ?_
    -- what comes after the tag; `x` is the builder that holds the name, if there is one
    have hafter : ∀ {x : Except Fault Builder}, b'.Passes x → ∀ tag? : Option String,
        b.Lays places (do
          b'.expectMore
          let b ← x
          let taken ← content setting ⟨anchor?, given?⟩ tag? fuel { b with depth := b.depth + 1 }
          .ok (withName anchor? taken.1, { taken.2 with depth := b.depth })) := by
      intro x hx tag?
      refine Ends.bind expectMore_fails fun _ _ => hx.bind fun b'' hb'' => ?_
      refine (ih.content _ _ _ { b'' with depth := b''.depth + 1 }).bind fun taken htaken => ?_
      refine .ok ?_
      rw [places_withName]
      exact htaken.of_le (Nat.le_trans hproperties hb'')
    have htag : ∀ (handle? : Option String) (suffix : String),
        Ends (fun _ => True) (fun _ => True) (b'.tagName? handle? suffix) := fun handle? suffix =>
      ⟨fun _ => trivial, fun _ => trivial⟩
    cases anchor? with
    | none =>
      have hrest := hafter (.ok (Nat.le_refl _))
      cases given? with
      | none => exact hrest none
      | some tag => exact (htag _ _).bind fun tag? _ => hrest tag?
    | some name =>
      have hrest := hafter (give_passes name)
      cases given? with
      | none => exact hrest none
      | some tag => exact (htag _ _).bind fun tag? _ => hrest tag?

theorem content_lays (setting : Setting) (props : Properties) (tag? : Option String) :
    b.Lays places (content setting props tag? (fuel + 1) b) := by
  have hsequence : ∀ {after : Builder} {items : List Node} {tag : Tag},
      Spans b.advance.taken (placesAmong items) after.taken →
        Spans b.taken (Node.sequence b.taken tag items).places after.taken := by
    intro after items tag h
    rw [places_sequence]
    exact h.cons
  have hmapping : ∀ {after : Builder} {entries : List (Node × Node)} {tag : Tag},
      Spans b.advance.taken (entryPlaces entries) after.taken →
        Spans b.taken (Node.mapping b.taken tag entries).places after.taken := by
    intro after entries tag h
    rw [places_mapping]
    exact h.cons
  unfold content
  split
  · exact .ok (.nil (Nat.le_succ _))
  · exact (ih.flowSequence _ b.advance).bind fun _ h => .ok (hsequence h)
  · exact (ih.flowMapping _ b.advance).bind fun _ h => .ok (hmapping h)
  · rename_i t rest htokens
    refine .ite (fun hmark => ?_) fun _ => .ite (fun _ => ?_) fun _ =>
      .ite (fun _ => ?_) fun _ => ?_
    · have hcomes : b.comes [.blockEntry] = true := by
        rw [Bool.and_eq_true, decide_eq_true_eq] at hmark
        simp [comes, htokens, hmark.1]
      exact (ih.marked b hcomes).bind fun _ h => .ok (hsequence h)
    · exact (ih.blockSequence b.advance).bind fun _ h => .ok (hsequence h)
    · exact (ih.blockMapping b.advance).bind fun _ h => .ok (hmapping h)
    · exact .ite (fun _ => .ok (.nil (Nat.le_refl _))) fun _ => .error trivial
  · exact refuse_fails

theorem nodeUnless_lays (ends : List Token) (setting : Setting) :
    b.Lays places (nodeUnless ends setting (fuel + 1) b) := by
  unfold nodeUnless
  exact .ite (fun _ => .ok (.nil (Nat.le_refl _))) fun _ => ih.node _ _

theorem blockSequence_lays : b.Lays placesAmong (blockSequence (fuel + 1) b) := by
  unfold blockSequence
  refine .ite (fun _ => ?_) fun _ => (take_passes _).bind fun _ h => .ok (.nil h)
  refine (ih.nodeUnless _ _ b.advance).bind fun _ hitem => ?_
  refine (ih.blockSequence _).bind fun _ hitems => .ok ?_
  rw [placesAmong_cons]
  exact (hitem.append hitems).of_le (Nat.le_succ _)

/-- A sequence that is not indented begins with its mark. -/
theorem plainSequence_marked (h : b.comes [.blockEntry] = true) :
    b.advance.Lays placesAmong (plainSequence (fuel + 1) b) := by
  unfold plainSequence
  rw [if_pos h]
  refine (ih.nodeUnless _ _ b.advance).bind fun _ hitem => ?_
  refine (ih.plainSequence _).bind fun _ hitems => .ok ?_
  rw [placesAmong_cons]
  exact hitem.append hitems

theorem plainSequence_lays : b.Lays placesAmong (plainSequence (fuel + 1) b) := by
  by_cases h : b.comes [.blockEntry] = true
  · exact (plainSequence_marked ih h).mono fun _ hspans => hspans.of_le (Nat.le_succ _)
  · unfold plainSequence
    rw [if_neg h]
    exact .ite (fun _ => refuse_fails) fun _ => .ok (.nil (Nat.le_refl _))

theorem entryValue_lays (ends : List Token) (setting : Setting) :
    b.Lays places (entryValue ends setting (fuel + 1) b) := by
  unfold entryValue
  refine .ite (fun _ => ?_) fun _ =>
    .ite (fun _ => refuse_fails) fun _ => .ok (.nil (Nat.le_refl _))
  exact (ih.nodeUnless _ _ b.advance).mono fun _ h => h.of_le (Nat.le_succ _)

theorem blockMapping_lays : b.Lays entryPlaces (blockMapping (fuel + 1) b) := by
  unfold blockMapping
  refine .ite (fun _ => ?_) fun _ => (take_passes _).bind fun _ h => .ok (.nil h)
  refine (ih.nodeUnless _ _ b.advance).bind fun _ hkey => ?_
  refine (ih.entryValue _ _ _).bind fun _ hvalue => ?_
  refine (ih.blockMapping _).bind fun _ hentries => .ok ?_
  rw [entryPlaces_cons]
  exact ((hkey.append hvalue).append hentries).of_le (Nat.le_succ _)

theorem flowSequence_lays (first : Bool) :
    b.Lays placesAmong (flowSequence first (fuel + 1) b) := by
  unfold flowSequence
  refine .ite (fun _ => .ok (.nil (Nat.le_succ _))) fun _ => ?_
  refine .ite_bind (Q := fun after : Builder => b.taken ≤ after.taken)
    (fun _ => .ok (Nat.le_refl _)) (fun _ => take_passes _) fun b' hb' => ?_
  refine .ite (fun _ => ?_) fun _ =>
    .ite (fun _ => .ok (.nil (Nat.le_trans hb' (Nat.le_succ _)))) fun _ => ?_
  · refine (ih.nodeUnless _ _ b'.advance).bind fun _ hkey => ?_
    refine (ih.entryValue _ _ _).bind fun _ hvalue => ?_
    refine (ih.flowSequence _ _).bind fun _ hitems => .ok ?_
    rw [placesAmong_cons, places_mapping, entryPlaces_cons, entryPlaces_nil, List.append_nil]
    exact ((hkey.append hvalue).cons.append hitems).of_le hb'
  · refine (ih.node _ b').bind fun _ hitem => ?_
    refine (ih.flowSequence _ _).bind fun _ hitems => .ok ?_
    rw [placesAmong_cons]
    exact (hitem.append hitems).of_le hb'

theorem flowMapping_lays (first : Bool) :
    b.Lays entryPlaces (flowMapping first (fuel + 1) b) := by
  unfold flowMapping
  refine .ite (fun _ => .ok (.nil (Nat.le_succ _))) fun _ => ?_
  refine .ite_bind (Q := fun after : Builder => b.taken ≤ after.taken)
    (fun _ => .ok (Nat.le_refl _)) (fun _ => take_passes _) fun b' hb' => ?_
  refine .ite (fun _ => ?_) fun _ =>
    .ite (fun _ => .ok (.nil (Nat.le_trans hb' (Nat.le_succ _)))) fun _ => ?_
  · refine (ih.nodeUnless _ _ b'.advance).bind fun _ hkey => ?_
    refine (ih.entryValue _ _ _).bind fun _ hvalue => ?_
    refine (ih.flowMapping _ _).bind fun _ hentries => .ok ?_
    rw [entryPlaces_cons]
    exact ((hkey.append hvalue).append hentries).of_le (Nat.le_trans hb' (Nat.le_succ _))
  · refine (ih.node _ b').bind fun _ hkey => ?_
    refine (ih.flowMapping _ _).bind fun _ hentries => .ok ?_
    rw [entryPlaces_cons, places_missing, List.append_nil]
    exact (hkey.append hentries).of_le hb'

end

/-- Whatever fuel there is, what is built has its places among its tokens. -/
theorem lays (fuel : Nat) : LaysAll fuel := by
  induction fuel with
  | zero =>
    constructor
    all_goals
      intros
      exact Ends.error trivial
  | succ fuel ih =>
    constructor
    case node => exact fun setting _ => node_lays ih setting
    case content => exact fun setting props tag? _ => content_lays ih setting props tag?
    case nodeUnless => exact fun ends setting _ => nodeUnless_lays ih ends setting
    case blockSequence => exact fun _ => blockSequence_lays ih
    case plainSequence => exact fun _ => plainSequence_lays ih
    case marked => exact fun _ h => plainSequence_marked ih h
    case entryValue => exact fun ends setting _ => entryValue_lays ih ends setting
    case blockMapping => exact fun _ => blockMapping_lays ih
    case flowSequence => exact fun first _ => flowSequence_lays ih first
    case flowMapping => exact fun first _ => flowMapping_lays ih first

/-- The places in the node of a document increase. -/
theorem document_increasing :
    Ends (fun _ => True) (fun r => r.1.places.Pairwise (· < ·)) b.document := by
  have hnode : ∀ fuel (b : Builder),
      Ends (fun _ => True) (fun r => r.1.places.Pairwise (· < ·)) (node .block fuel b) :=
    fun fuel b => ((lays fuel).node .block b).mono fun _ h => h.increasing
  have hmissing : ∀ b : Builder, Ends (fun _ : Fault => True)
      (fun r : Node × Builder => r.1.places.Pairwise (· < ·)) (.ok (missing, b)) :=
    fun _ => .ok List.Pairwise.nil
  -- the directives and the boundary only move on
  have hmarked : ∀ (fuel : Nat) {f : Builder → Except Fault (Node × Builder)},
      (∀ b, Ends (fun _ => True) (fun r => r.1.places.Pairwise (· < ·)) (f b)) →
        Ends (fun _ => True) (fun r => r.1.places.Pairwise (· < ·)) (do
          let b ← directives fuel false [] b
          let b ← b.take .documentStart
          f b) := by
    intro fuel f hf
    have hdirectives : Ends (fun _ => True) (fun _ => True) (directives fuel false [] b) :=
      ⟨fun _ => trivial, fun _ => trivial⟩
    exact hdirectives.bind fun b _ => (take_passes _).bind fun b _ => hf b
  unfold document
  dsimp only
  split
  case h_1 | h_2 =>
    refine hmarked _ fun b => ?_
    split
    case h_5 => exact hnode _ b
    all_goals exact hmissing b
  case h_3 => exact hmissing b
  case h_4 => exact hnode _ _

end Builder

namespace Node

variable {root m n : Node} {p : Nat}

/-- **Places increase.** In a document each collection comes before those it holds. -/
theorem increasing_of_ofTokens {ts : List Token} {fault? : Option Fault}
    (h : ofTokens ts fault? = .ok root) : root.places.Pairwise (· < ·) := by
  obtain ⟨⟨root', b⟩, hdocument, h⟩ := bind_eq_ok_iff.mp h
  obtain ⟨_, -, h⟩ := bind_eq_ok_iff.mp h
  cases h
  exact Builder.document_increasing.ok_of hdocument

/-- Two nodes do not start at one place. -/
def Apart (m n : Node) : Prop := ∀ p, m.place? = some p → n.place? ≠ some p

theorem Apart.symm (h : Apart m n) : Apart n m := fun p hn hm => h p hm hn

/-- So a collection of a document is told by its place. -/
theorem eq_of_place?_eq (hroot : root.places.Pairwise (· < ·)) (hm : m ∈ root.collections)
    (hn : n ∈ root.collections) (hpm : m.place? = some p) (hpn : n.place? = some p) : m = n := by
  have hapart : root.collections.Pairwise Apart := by
    refine (List.pairwise_filterMap.mp hroot).imp ?_
    intro m n hlt p hpm hpn
    exact Nat.lt_irrefl p (hlt p hpm p hpn)
  have hsymm : Std.Symm Apart := ⟨fun _ _ => Apart.symm⟩
  by_contra hne
  exact hapart.forall hm hn hne p hpm hpn

end Node

end SchemaDepot.Yaml
