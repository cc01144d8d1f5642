/-
# Repeated keys in manifests

A manifest whose document repeats a key is refused, and the error names the key that is
repeated first. To name a key its text is needed. The keys of a document are scalars, and each
of them has a text but for an integer of more digits than can be written; then it is that which
the loading fails with (`Manifest.keys_unique`).

Key definition: `Value.IsOverlong`.
Key theorems: `Yaml.Node.isScalar_of_key`, `Manifest.keys_unique`.
-/
import SchemaDepot.Proofs.Host
import SchemaDepot.Proofs.Manifest
import SchemaDepot.Proofs.Yaml.Hexadecimal

namespace SchemaDepot

open Outcome

/-! ### The text of a key -/

namespace Value

/-- The value holds no others. -/
def IsScalar : Value → Prop
  | .list _ | .tuple _ | .set _ | .map _ | .shared _ => False
  | _ => True

/-- The value is an integer of more digits than can be written. -/
def IsOverlong (v : Value) : Prop := ∃ z : Int, v = .int z ∧ tenTo Decimal.digitLimit ≤ z.natAbs

theorem shown_of_isOverlong {v : Value} (h : v.IsOverlong) :
    v.shown = .error (.value (.numberTooLong Decimal.digitLimit)) := by
  obtain ⟨z, rfl, hz⟩ := h
  exact shown_of_not_isWritable (mt isWritable_int_iff.mp (Nat.not_lt.mpr hz))

theorem exists_shown_of_isScalar {v : Value} (hv : v.IsScalar) (h : ¬ v.IsOverlong) :
    ∃ s, v.shown = .ok s := by
  refine exists_shown_iff.mpr ?_
  cases v with
  | int z => exact isWritable_int_iff.mpr (Nat.lt_of_not_le fun hle => h ⟨z, rfl, hle⟩)
  | null | bool | float | text | bytes | date | moment => exact trivial
  | list | tuple | set | map | shared => cases hv

end Value

namespace Yaml

theorem readMoment_ends (text : String) :
    Ends (fun _ => True) Value.IsScalar (readMoment text) := by
  have hcalendar : ∀ {α : Type} (x : Except CalendarFault α) {f : α → Value},
      (∀ a, (f a).IsScalar) → Ends (fun _ => True) Value.IsScalar ((ofCalendar x).map f) := by
    intro α x f hf
    cases x with
    | ok a => exact .ok (hf a)
    | error e => exact .error trivial
  unfold readMoment
  dsimp only
  split
  · exact .error trivial
  · refine .ite (fun _ => hcalendar _ fun _ => trivial) fun _ => ?_
    split
    · exact .error trivial
    · split
      · exact .error trivial
      · exact .ite (fun _ => .error trivial) fun _ => hcalendar _ fun _ => trivial

/-- What is read of a scalar holds no other value. -/
theorem scalarValue_ends (tag : Tag) (text : String) :
    Ends (fun _ => True) Value.IsScalar (scalarValue tag text) := by
  have hmap : ∀ {α : Type} (x : Except Fault α) {f : α → Value},
      (∀ a, (f a).IsScalar) → Ends (fun _ => True) Value.IsScalar (x.map f) := by
    intro α x f hf
    cases x with
    | ok a => exact .ok (hf a)
    | error e => exact .error trivial
  cases tag with
  | text | nothing => exact .ok trivial
  | integer | decimal | truth => exact hmap _ fun _ => trivial
  | moment => exact readMoment_ends text
  | bytes =>
    refine .ite (fun _ => .error trivial) fun _ => ?_
    split
    · exact .ok trivial
    · exact .error trivial
  | mapping | sequence | set | pairs | default | unknown => exact .error trivial

namespace Node

variable {anchors : Anchors} {n : Node} {k : Key}

theorem isScalar_of_key (h : n.key anchors = .ok k) : k.value.IsScalar := by
  obtain ⟨-, h⟩ := refuse_eq_ok_iff.mp h
  obtain ⟨v, hv, h⟩ := bind_eq_ok_iff.mp h
  obtain ⟨-, hv⟩ := refuse_eq_ok_iff.mp hv
  obtain ⟨s, -, hv⟩ := bind_eq_ok_iff.mp hv
  obtain ⟨-, hv⟩ := refuse_eq_ok_iff.mp hv
  cases h
  exact (scalarValue_ends _ _).ok_of hv

/-- **A repeated key can be named** unless it has too many digits. -/
theorem fault_of_repeats (h : Repeats anchors n k) :
    (¬ k.value.IsOverlong → ∃ s, k.value.shown = .ok s ∧ k.fault = .repeatedKey s) ∧
    (k.value.IsOverlong →
      k.fault = .unsuitable (.value (.numberTooLong Decimal.digitLimit))) := by
  obtain ⟨front, ⟨before, m, rest, -, -, hm⟩, -⟩ := h
  constructor
  · intro hshort
    obtain ⟨s, hs⟩ := Value.exists_shown_of_isScalar (isScalar_of_key hm) hshort
    refine ⟨s, hs, ?_⟩
    rw [Key.fault, hs]
  · intro hlong
    rw [Key.fault, Value.shown_of_isOverlong hlong]

end Node

end Yaml

namespace Manifest

open Yaml (Node)
open Yaml.Node (Composes Constructed Constructible FirstRepeated KeepsEntries Repeats Whole)

variable {h : Host} {path : Path} {text : String} {root : Node}

/-! ### Loading a manifest -/

theorem load_of_read_eq_error {fault : Yaml.Fault}
    (htext : h.read path (.resource (.manifestAbsent path.text)) = .ok text)
    (hread : Yaml.read text = .error fault) :
    (load h path).outcome = .error (documentError path fault) := by
  rw [load_outcome_eq_error_iff, read, htext, ok_bind, hread]

/-- **Keys are unique.** If the document is read, then at any depth the keys of each mapping that
is constructed are different, and the mapping keeps an entry for each of its pairs. If nothing is
wrong but that keys are repeated, loading fails: the error names the key that is repeated first,
outer mappings before inner ones, unless that is an integer of too many digits to be named. And
only where a mapping repeats a key is the document refused as one that does. -/
theorem keys_unique (hcomposes : Composes text root) :
    (∀ data, Yaml.read text = .ok data → ∀ n, Constructed root n → n.tag = .mapping →
      KeepsEntries root data.pool n) ∧
    (Constructible root → (∃ n k, Constructed root n ∧ Repeats root.anchors n k) →
      ∃ n k, FirstRepeated root n k ∧ ∀ (h : Host) (path : Path),
        h.read path (.resource (.manifestAbsent path.text)) = .ok text →
        (¬ k.value.IsOverlong → ∃ shown, k.value.shown = .ok shown ∧
          (load h path).outcome = .error (.resource (.manifestKeyRepeated path.text shown))) ∧
        (k.value.IsOverlong →
          (load h path).outcome = .error (.value (.numberTooLong Decimal.digitLimit)))) ∧
    (∀ shown, Yaml.read text = .error (.repeatedKey shown) →
      ∃ n k, Constructed root n ∧ Repeats root.anchors n k ∧ k.value.shown = .ok shown) := by
  refine ⟨fun data hread n hn htag => Node.keepsEntries_of_read hcomposes hread hn htag, ?_,
    fun shown hread => Node.exists_of_repeatedKey hcomposes hread⟩
  intro hconstructible hrepeats
  obtain ⟨n, k, hfirst, hread⟩ := Node.exists_firstRepeated hcomposes hconstructible hrepeats
  refine ⟨n, k, hfirst, fun h path htext => ?_⟩
  obtain ⟨depth, done, rest, -, -, hk⟩ := hfirst
  have hfault := Node.fault_of_repeats hk.repeats
  have hload := load_of_read_eq_error htext hread
  constructor
  · intro hshort
    obtain ⟨shown, hshown, hnamed⟩ := hfault.1 hshort
    rw [hnamed] at hload
    exact ⟨shown, hshown, hload⟩
  · intro hlong
    rw [hfault.2 hlong] at hload
    exact hload

/-! ### Two documents that repeat keys -/

/-- The surroundings in which a text is the manifest. -/
def hostOf (text : String) : Host where
  tree := ⟨[(["r", "testdbs.yaml"], text.toUTF8)], [["r"]]⟩
  workingFolder := []
  home := ⟨.top, []⟩
  bundled := ⟨.top, ["r"]⟩
  environment := []

/-- The path of that manifest. -/
abbrev hostPath : Path := ⟨.top, ["r", "testdbs.yaml"]⟩

theorem read_hostOf {absent : Error} (h : '\r' ∉ text.toList) :
    (hostOf text).read hostPath absent = .ok text :=
  Host.read_of_find rfl h

/-- A mapping inside a sequence that repeats the key 1. -/
def innerSample : Node :=
  .mapping 5 .mapping [(.scalar .integer "1", .scalar .text "x"),
    (.scalar .integer "0x1", .scalar .text "y")]

/-- A mapping that repeats a key and comes later, but is less deep. -/
def outerSample : Node :=
  .mapping 18 .mapping [(.scalar .text "c", .scalar .integer "1"),
    (.scalar .text "c", .scalar .integer "2")]

/-- The document with both. -/
def rootSample : Node :=
  .mapping 0 .mapping [(.scalar .text "a", .sequence 4 .sequence [innerSample]),
    (.scalar .text "b", outerSample)]

/-- Its text. -/
def textSample : String := "a:\n- 1: x\n  0x1: y\nb:\n  c: 1\n  c: 2\n"

open Yaml.Builder in
theorem composes_sample : Composes textSample rootSample where
  permitted := by decide
  composed := by
    have htokens : Yaml.tokens textSample.toList = ([.blockMappingStart, .key, .scalar "a" true,
        .value, .blockEntry, .blockMappingStart, .key, .scalar "1" true, .value, .scalar "x" true,
        .key, .scalar "0x1" true, .value, .scalar "y" true, .blockEnd, .key, .scalar "b" true,
        .value, .blockMappingStart, .key, .scalar "c" true, .value, .scalar "1" true, .key,
        .scalar "c" true, .value, .scalar "2" true, .blockEnd, .blockEnd, .streamEnd], none) := by
      decide
    have htags : ["a", "1", "x", "0x1", "y", "b", "c", "2"].map Yaml.Tag.ofPlain =
        [.text, .integer, .text, .integer, .text, .text, .text, .integer] := by
      decide
    simp only [List.map_cons, List.cons.injEq] at htags
    rw [htokens]
    simp [Node.ofTokens, document, node, content, properties, Properties.areComplete, expectMore,
      bind, Except.bind, blockMapping, plainSequence, comes, nodeUnless, entryValue, advance,
      take, finish, withName, collectionTag, depthLimit, callLimit, htags, rootSample, innerSample,
      outerSample]

theorem whole_of_isOk {anchors : Yaml.Anchors} {n : Node} (hfits : n.Fits anchors)
    (hkeys : (n.keyNodes.mapM (Node.key anchors)).isOk = true)
    (hvalues : ((n.held anchors).all fun m => (m.valued anchors).isOk) = true) :
    Whole anchors n where
  fits := hfits
  keys := exists_of_isOk hkeys
  values m hm := (exists_of_isOk (List.all_eq_true.mp hvalues m hm)).elim fun _ hok => hok

theorem of_constructed_sample {n : Node} (hn : Constructed rootSample n) :
    n = rootSample ∨ n = .sequence 4 .sequence [innerSample] ∨ n = outerSample ∨
      n = innerSample := by
  have hdocument : Node.parts rootSample.anchors [rootSample] = [rootSample] := rfl
  have hroot : rootSample.inner rootSample.anchors =
    [.sequence 4 .sequence [innerSample], outerSample] := rfl
  have hsequence : Node.inner rootSample.anchors (.sequence 4 .sequence [innerSample]) =
    [innerSample] := rfl
  have houter : outerSample.inner rootSample.anchors = [] := rfl
  have hinner : innerSample.inner rootSample.anchors = [] := rfl
  induction hn with
  | document hn =>
    rw [hdocument] at hn
    exact Or.inl (List.mem_singleton.mp hn)
  | held _ hm ih =>
    rcases ih with rfl | rfl | rfl | rfl
    · rw [hroot] at hm
      rcases List.mem_pair.mp hm with rfl | rfl
      · exact Or.inr (Or.inl rfl)
      · exact Or.inr (Or.inr (Or.inl rfl))
    · rw [hsequence] at hm
      exact Or.inr (Or.inr (Or.inr (List.mem_singleton.mp hm)))
    · rw [houter] at hm
      cases hm
    · rw [hinner] at hm
      cases hm

theorem constructible_sample : Constructible rootSample where
  valued := rfl
  whole n hn := by
    rcases of_constructed_sample hn with rfl | rfl | rfl | rfl
    · exact whole_of_isOk (Or.inl rfl) (by decide) (by decide)
    · exact whole_of_isOk (Or.inl rfl) (by decide) (by decide)
    · exact whole_of_isOk (Or.inl rfl) (by decide) (by decide)
    · exact whole_of_isOk (Or.inl rfl) (by decide) (by decide)

/-- A document in order, with a mapping in another. -/
def rootInOrder : Node :=
  .mapping 0 .mapping [(.scalar .text "b",
    .mapping 4 .mapping [(.scalar .integer "1", .scalar .text "x")])]

open Yaml.Builder in
theorem composes_inOrder : Composes "b:\n  1: x\n" rootInOrder where
  permitted := by decide
  composed := by
    have htokens : Yaml.tokens "b:\n  1: x\n".toList = ([.blockMappingStart, .key,
        .scalar "b" true, .value, .blockMappingStart, .key, .scalar "1" true, .value,
        .scalar "x" true, .blockEnd, .blockEnd, .streamEnd], none) := by
      decide
    have htags : ["b", "1", "x"].map Yaml.Tag.ofPlain = [.text, .integer, .text] := by
      decide
    simp only [List.map_cons, List.cons.injEq] at htags
    rw [htokens]
    simp [Node.ofTokens, document, node, content, properties, Properties.areComplete, expectMore,
      bind, Except.bind, blockMapping, comes, nodeUnless, entryValue, advance, take, finish,
      withName, collectionTag, depthLimit, callLimit, htags, rootInOrder]

set_option maxRecDepth 100000 in
/-- Of the two repeated keys the outer one is named, though it comes later in the text. A
document in order is read, and the inner mapping keeps its entry. -/
theorem keys_unique_sample :
    (Composes textSample rootSample ∧ Constructible rootSample ∧
      ∃ n k, FirstRepeated rootSample n k ∧ k.value.shown = .ok "c" ∧
        (load (hostOf textSample) hostPath).outcome =
          .error (.resource (.manifestKeyRepeated "/r/testdbs.yaml" "c"))) ∧
    Composes "b:\n  1: x\n" rootInOrder ∧ ∃ data, Yaml.read "b:\n  1: x\n" = .ok data ∧
      KeepsEntries rootInOrder data.pool
        (.mapping 4 .mapping [(.scalar .integer "1", .scalar .text "x")]) := by
  constructor
  · have hread : Yaml.read textSample = .error (.repeatedKey "c") :=
      eq_error_of_error? (by decide +kernel)
    have hhost : (hostOf textSample).read hostPath (.resource (.manifestAbsent hostPath.text)) =
        .ok textSample := read_hostOf (by decide +kernel)
    have hpath : hostPath.text = "/r/testdbs.yaml" := by decide +kernel
    have hnamed := load_of_read_eq_error hhost hread
    obtain ⟨-, hfirst, hrepeats⟩ := keys_unique composes_sample
    obtain ⟨n, k, hn, hk, -⟩ := hrepeats "c" hread
    obtain ⟨n, k, hfirst, hload⟩ := hfirst constructible_sample ⟨n, k, hn, hk⟩
    obtain ⟨hshort, hlong⟩ := hload (hostOf textSample) hostPath hhost
    refine ⟨composes_sample, constructible_sample, n, k, hfirst, ?_, ?_⟩
    · have hnot : ¬ k.value.IsOverlong := fun h => by cases hnamed.symm.trans (hlong h)
      obtain ⟨shown, hshown, hfails⟩ := hshort hnot
      cases hnamed.symm.trans hfails
      exact hshown
    · rw [← hpath]
      exact hnamed
  · have hread : (Yaml.read "b:\n  1: x\n").isOk = true := by decide +kernel
    obtain ⟨data, hread⟩ := exists_of_isOk hread
    obtain ⟨hkeeps, -, -⟩ := keys_unique composes_inOrder
    refine ⟨composes_inOrder, data, hread, hkeeps data hread _ ?_ rfl⟩
    exact .held (.document List.mem_cons_self) List.mem_cons_self

/-- The digits of a hexadecimal integer that has too many decimal ones. -/
def overlongDigits : List Char := '1' :: List.replicate 3600 '0'

theorem overlongDigits_subset : ∀ c ∈ overlongDigits, c ∈ Yaml.hexDigits := by
  intro c hc
  rcases List.mem_cons.mp hc with rfl | hc
  · decide
  · rw [List.eq_of_mem_replicate hc]
    decide

theorem isOverlong_overlongDigits : (Yaml.twiceKey overlongDigits).value.IsOverlong := by
  refine ⟨_, rfl, ?_⟩
  rw [overlongDigits, Yaml.valueIn_powerDigits, Int.natAbs_natCast]
  decide +kernel

/-- A key of too many digits that comes twice is not named: though nothing else is wrong with the
document, the error is not about the resource. -/
theorem overlong_key_unnamed :
    Composes (String.ofList (Yaml.twiceChars overlongDigits)) (Yaml.twiceRoot overlongDigits) ∧
    Constructible (Yaml.twiceRoot overlongDigits) ∧
    (∃ n k, Constructed (Yaml.twiceRoot overlongDigits) n ∧
      Repeats (Yaml.twiceRoot overlongDigits).anchors n k) ∧
    (load (hostOf (String.ofList (Yaml.twiceChars overlongDigits))) hostPath).outcome =
      .error (.value (.numberTooLong Decimal.digitLimit)) ∧
    Error.isResource (.value (.numberTooLong Decimal.digitLimit)) = false := by
  have hne : overlongDigits ≠ [] := List.cons_ne_nil _ _
  have hds := overlongDigits_subset
  have hrepeats := (Yaml.repeatsFirst_twice hne hds).repeats
  have hreturn : '\r' ∉ (String.ofList (Yaml.twiceChars overlongDigits)).toList := by
    have hchars : '\r' ∉ Yaml.hexChars overlongDigits :=
      Yaml.not_mem_hexChars hds (by decide)
    rw [String.toList_ofList, Yaml.twiceChars]
    simp [hchars]
  have hload := load_of_read_eq_error (read_hostOf hreturn) (Yaml.read_twice hne hds)
  rw [(Node.fault_of_repeats hrepeats).2 isOverlong_overlongDigits] at hload
  refine ⟨Yaml.composes_twice hne hds, Yaml.constructible_twice hne hds, ?_, hload, rfl⟩
  exact ⟨_, _, .document List.mem_cons_self, hrepeats⟩

end Manifest

end SchemaDepot
