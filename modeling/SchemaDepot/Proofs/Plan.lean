/-
# What a plan holds

A request is taken as a set of identifiers: the trimmed texts of its members, the blank
ones left out, or everything that can be provided where nothing is given. If one of
them cannot be provided the least such one is named and nothing else is done. Else a
plan holds each identifier but the sentinel once, in order, with its schema, and the
sentinel after all of them.

So the order of a request, what comes twice in it, blanks around its members and the
sentinel itself make no difference, and a plan for more holds the plan for less
(`build_of_asks`).

Key definitions: `Plan.Asks`, `Plan.Answers`.
Key theorems: `Plan.requested_eq_ok_iff`, `Plan.provision_outcome_eq_ok_iff`,
`Plan.exists_provisions_of_sublist`, `Plan.ofSet_outcome_eq_ok_iff`,
`Plan.exists_ofSet_iff`, `Plan.build_of_asks`.
-/
import SchemaDepot.Plan
import SchemaDepot.Proofs.Outcome
import SchemaDepot.Proofs.TextSet

namespace SchemaDepot

namespace Provision

theorem make_eq_ok_iff {identifier schema : String} {isSentinel : Bool} {p : Provision} :
    make identifier schema isSentinel = .ok p ↔
      Text.isBlank identifier = false ∧ Text.isBlank schema = false ∧
        p = ⟨identifier, schema, isSentinel⟩ := by
  unfold make
  simp only [Outcome.refuse_eq_ok_iff, Except.ok.injEq, Bool.not_eq_true, eq_comm (a := p)]

end Provision

namespace Plan

variable {r : Registry}

/-! ### Requests -/

/-- The value asks a registry for the identifiers of a set. -/
inductive Asks (r : Registry) : Value → TextSet → Prop
  /-- Nothing asks for everything. -/
  | everything : Asks r .null r.provisionable
  /-- A value asks for the trimmed texts of its members that are not blank. -/
  | members {v : Value} {items : List Value} {wanted : TextSet} (hitems : v.members = .ok items)
      (hshown : ∀ i ∈ items, ∃ s, i.shown = .ok s)
      (hwanted : ∀ x, x ∈ wanted ↔
        ∃ i ∈ items, ∃ s, i.shown = .ok s ∧ Text.isBlank s = false ∧ x = Text.trim s) :
      Asks r v wanted

/-- What is requested, member by member. -/
theorem requested_eq_ok_iff {v : Value} {wanted : TextSet} :
    requested v = .ok wanted ↔
      ∃ items, v.members = .ok items ∧ (∀ i ∈ items, ∃ s, i.shown = .ok s) ∧
        ∀ x, x ∈ wanted ↔
          ∃ i ∈ items, ∃ s, i.shown = .ok s ∧ Text.isBlank s = false ∧ x = Text.trim s := by
  have hmem : ∀ {items : List Value} {texts : List String}, items.mapM Value.shown = .ok texts →
      ∀ x, x ∈ TextSet.ofList ((texts.filter fun x => !Text.isBlank x).map Text.trim) ↔
        ∃ i ∈ items, ∃ s, i.shown = .ok s ∧ Text.isBlank s = false ∧ x = Text.trim s := by
    intro items texts htexts x
    simp only [TextSet.mem_ofList, List.mem_map, List.mem_filter, Bool.not_eq_true']
    constructor
    · rintro ⟨s, ⟨hs, hb⟩, rfl⟩
      obtain ⟨i, hi, his⟩ := Outcome.exists_of_mem_mapM htexts s hs
      exact ⟨i, hi, s, his, hb, rfl⟩
    · rintro ⟨i, hi, s, his, hb, rfl⟩
      obtain ⟨s', hs', his'⟩ := Outcome.exists_mem_of_mapM htexts i hi
      cases his.symm.trans his'
      exact ⟨s, ⟨hs', hb⟩, rfl⟩
  unfold requested
  rw [Outcome.bind_eq_ok_iff]
  refine exists_congr fun items => and_congr_right fun _ => ?_
  rw [Outcome.bind_eq_ok_iff, ← Outcome.exists_mapM_iff]
  constructor
  · rintro ⟨texts, htexts, h⟩
    cases h
    exact ⟨⟨texts, htexts⟩, hmem htexts⟩
  · rintro ⟨⟨texts, htexts⟩, hwanted⟩
    refine ⟨texts, htexts, congrArg Except.ok (TextSet.ext_mem fun x => ?_)⟩
    rw [hmem htexts, hwanted]

theorem asks_of_requested {v : Value} {wanted : TextSet} (h : requested v = .ok wanted) :
    Asks r v wanted := by
  obtain ⟨items, hitems, hshown, hwanted⟩ := requested_eq_ok_iff.mp h
  exact .members hitems hshown hwanted

/-- A value that asks for no set fails, and nothing is logged. -/
theorem asks_or_fail (r : Registry) (v : Value) :
    (∃ wanted, Asks r v wanted) ∨ ∃ e, build r v = .fail e := by
  cases hv : requested v with
  | ok wanted => exact Or.inl ⟨wanted, asks_of_requested hv⟩
  | error e =>
    unfold build
    split
    · exact Or.inl ⟨r.provisionable, .everything⟩
    · exact Or.inr ⟨e, by rw [hv]⟩

theorem build_eq_ofSet {v : Value} {wanted : TextSet} (h : Asks r v wanted) :
    build r v = ofSet r wanted := by
  cases h with
  | everything => rfl
  | members hitems hshown hwanted =>
    have hrequested := requested_eq_ok_iff.mpr ⟨_, hitems, hshown, hwanted⟩
    unfold build
    split
    · cases hitems
    · rw [hrequested]

/-! ### Single provisions -/

/-- A database is provided exactly when it has a schema, and neither its identifier nor
the schema is blank. -/
theorem provision_outcome_eq_ok_iff {x : String} {p : Provision} :
    (provision r x).outcome = .ok p ↔
      (Scheme.schemaNamed r x).outcome = .ok p.schema ∧ Text.isBlank x = false ∧
        Text.isBlank p.schema = false ∧ p.identifier = x ∧ p.isSentinel = false := by
  unfold provision
  rw [Run.bind_outcome_eq_ok_iff]
  constructor
  · rintro ⟨schema, hschema, hmake⟩
    obtain ⟨hx, hs, rfl⟩ := Provision.make_eq_ok_iff.mp hmake
    exact ⟨hschema, hx, hs, rfl, rfl⟩
  · rintro ⟨hschema, hx, hs, rfl, hsentinel⟩
    refine ⟨p.schema, hschema, Provision.make_eq_ok_iff.mpr ⟨hx, hs, ?_⟩⟩
    rw [← hsentinel]

theorem sentinelProvision_eq_ok_iff {p : Provision} :
    sentinelProvision r = .ok p ↔
      r.catalogue.schema r.catalogue.sentinel = .ok p.schema ∧
        Text.isBlank r.catalogue.sentinel = false ∧ Text.isBlank p.schema = false ∧
        p.identifier = r.catalogue.sentinel ∧ p.isSentinel = true := by
  unfold sentinelProvision
  rw [Outcome.bind_eq_ok_iff]
  constructor
  · rintro ⟨schema, hschema, hmake⟩
    obtain ⟨hx, hs, rfl⟩ := Provision.make_eq_ok_iff.mp hmake
    exact ⟨hschema, hx, hs, rfl, rfl⟩
  · rintro ⟨hschema, hx, hs, hidentifier, hsentinel⟩
    refine ⟨p.schema, hschema, Provision.make_eq_ok_iff.mpr ⟨hx, hs, ?_⟩⟩
    rw [← hidentifier, ← hsentinel]

/-! ### Provisions in order -/

theorem provisions_cons_eq_ok_iff {x : String} {xs : List String} {ps : List Provision} :
    (provisions r (x :: xs)).outcome = .ok ps ↔
      ∃ p rest, (provision r x).outcome = .ok p ∧ (provisions r xs).outcome = .ok rest ∧
        ps = p :: rest := by
  rw [provisions]
  simp only [Run.bind_outcome_eq_ok_iff]
  constructor
  · rintro ⟨p, hp, rest, hrest, h⟩
    cases h
    exact ⟨p, rest, hp, hrest, rfl⟩
  · rintro ⟨p, rest, hp, hrest, rfl⟩
    exact ⟨p, hp, rest, hrest, rfl⟩

theorem of_provisions_eq_ok {xs : List String} {ps : List Provision}
    (h : (provisions r xs).outcome = .ok ps) :
    ps.map Provision.identifier = xs ∧
      ∀ p ∈ ps, (provision r p.identifier).outcome = .ok p := by
  induction xs generalizing ps with
  | nil =>
    cases h
    exact ⟨rfl, fun p hp => absurd hp List.not_mem_nil⟩
  | cons x xs ih =>
    obtain ⟨p, rest, hp, hrest, rfl⟩ := provisions_cons_eq_ok_iff.mp h
    obtain ⟨hids, hall⟩ := ih hrest
    obtain ⟨-, -, -, rfl, -⟩ := provision_outcome_eq_ok_iff.mp hp
    refine ⟨by rw [List.map_cons, hids], fun q hq => ?_⟩
    rcases List.mem_cons.mp hq with rfl | hq
    · exact hp
    · exact hall q hq

theorem exists_provisions_iff {xs : List String} :
    (∃ ps, (provisions r xs).outcome = .ok ps) ↔
      ∀ x ∈ xs, ∃ p, (provision r x).outcome = .ok p := by
  induction xs with
  | nil => exact ⟨fun _ x hx => absurd hx List.not_mem_nil, fun _ => ⟨[], rfl⟩⟩
  | cons x xs ih =>
    simp only [provisions_cons_eq_ok_iff, List.forall_mem_cons, ← ih]
    constructor
    · rintro ⟨ps, p, rest, hp, hrest, -⟩
      exact ⟨⟨p, hp⟩, ⟨rest, hrest⟩⟩
    · rintro ⟨⟨p, hp⟩, ⟨rest, hrest⟩⟩
      exact ⟨p :: rest, p, rest, hp, hrest, rfl⟩

/-- What is provided for a part of several databases is a part of what is provided for
them all. -/
theorem exists_provisions_of_sublist {xs ys : List String} (h : xs.Sublist ys)
    {ps : List Provision} (hps : (provisions r ys).outcome = .ok ps) :
    ∃ qs, (provisions r xs).outcome = .ok qs ∧ qs.Sublist ps := by
  induction h generalizing ps with
  | slnil => exact ⟨ps, hps, List.Sublist.refl ps⟩
  | cons y _ ih =>
    obtain ⟨p, rest, -, hrest, rfl⟩ := provisions_cons_eq_ok_iff.mp hps
    obtain ⟨qs, hqs, hsub⟩ := ih hrest
    exact ⟨qs, hqs, hsub.cons p⟩
  | cons_cons y _ ih =>
    obtain ⟨p, rest, hp, hrest, rfl⟩ := provisions_cons_eq_ok_iff.mp hps
    obtain ⟨qs, hqs, hsub⟩ := ih hrest
    exact ⟨p :: qs, provisions_cons_eq_ok_iff.mpr ⟨p, qs, hp, hqs, rfl⟩, hsub.cons_cons p⟩

/-! ### Plans for sets -/

/-- The identifiers of a set other than the sentinel. -/
def others (r : Registry) (wanted : TextSet) : TextSet :=
  wanted.difference (TextSet.ofList [r.catalogue.sentinel])

@[simp] theorem mem_others {wanted : TextSet} {x : String} :
    x ∈ others r wanted ↔ x ∈ wanted ∧ x ≠ r.catalogue.sentinel := by
  simp [others]

/-- What is named as unknown is the least identifier that is. -/
theorem firstUnknown?_eq_some_iff {known wanted : TextSet} {x : String} :
    firstUnknown? known wanted = some x ↔
      x ∈ wanted ∧ x ∉ known ∧ ∀ y ∈ wanted, y ∉ known → y = x ∨ Text.Before x y := by
  unfold firstUnknown?
  rw [TextSet.find?_toList_eq_some_iff]
  simp only [decide_eq_true_eq]

theorem firstUnknown?_eq_none_iff {known wanted : TextSet} :
    firstUnknown? known wanted = none ↔ ∀ x ∈ wanted, x ∈ known := by
  unfold firstUnknown?
  simp [TextSet.mem_def]

theorem ofSet_of_unknown {wanted : TextSet} {x : String}
    (h : firstUnknown? r.provisionable wanted = some x) :
    ofSet r wanted = .fail (.unknownIdentifier x) := by
  unfold ofSet
  rw [h]

/-- For known identifiers the others are provided, and then the sentinel. -/
theorem ofSet_of_known {wanted : TextSet} (h : firstUnknown? r.provisionable wanted = none) :
    ofSet r wanted = (do
      let ps ← provisions r (others r wanted).toList
      let last ← Run.ofExcept (sentinelProvision r)
      Run.emit (record r (ps ++ [last]))
      pure (ps ++ [last])) := by
  unfold ofSet
  rw [h]
  rfl

/-- A plan is made exactly of known identifiers, each of which is provided, with the
sentinel after the others. -/
theorem ofSet_outcome_eq_ok_iff {wanted : TextSet} {p : Plan} :
    (ofSet r wanted).outcome = .ok p ↔
      (∀ x ∈ wanted, x ∈ r.provisionable) ∧
        ∃ ps last, (provisions r (others r wanted).toList).outcome = .ok ps ∧
          sentinelProvision r = .ok last ∧ p = ps ++ [last] := by
  rw [← firstUnknown?_eq_none_iff]
  cases hu : firstUnknown? r.provisionable wanted with
  | some x =>
    rw [ofSet_of_unknown hu]
    constructor
    · intro h
      cases h
    · rintro ⟨h, -⟩
      cases h
  | none =>
    simp only [ofSet_of_known hu, Run.bind_outcome_eq_ok_iff, true_and]
    constructor
    · rintro ⟨ps, hps, last, hlast, -, -, h⟩
      cases h
      exact ⟨ps, last, hps, hlast, rfl⟩
    · rintro ⟨ps, last, hps, hlast, rfl⟩
      exact ⟨ps, hps, last, hlast, (), rfl, rfl⟩

/-- A plan for a set can be made exactly when all its identifiers are known and each of
them and the sentinel are provided. -/
theorem exists_ofSet_iff {wanted : TextSet} :
    (∃ p, (ofSet r wanted).outcome = .ok p) ↔
      (∀ x ∈ wanted, x ∈ r.provisionable) ∧
        (∀ x ∈ wanted, x ≠ r.catalogue.sentinel → ∃ p, (provision r x).outcome = .ok p) ∧
        ∃ last, sentinelProvision r = .ok last := by
  have hothers : (∃ ps, (provisions r (others r wanted).toList).outcome = .ok ps) ↔
      ∀ x ∈ wanted, x ≠ r.catalogue.sentinel → ∃ p, (provision r x).outcome = .ok p := by
    rw [exists_provisions_iff]
    simp only [← TextSet.mem_def, mem_others, and_imp]
  rw [← hothers]
  simp only [ofSet_outcome_eq_ok_iff]
  constructor
  · rintro ⟨p, hknown, ps, last, hps, hlast, -⟩
    exact ⟨hknown, ⟨ps, hps⟩, ⟨last, hlast⟩⟩
  · rintro ⟨hknown, ⟨ps, hps⟩, ⟨last, hlast⟩⟩
    exact ⟨ps ++ [last], hknown, ps, last, hps, hlast, rfl⟩

/-- What the plan for a set of identifiers is like. -/
structure Answers (r : Registry) (wanted : TextSet) (p : Plan) : Prop where
  known : ∀ x ∈ wanted, x ∈ r.provisionable
  increasing : (p.dropLast.map Provision.identifier).Pairwise Text.Before
  identifiers : ∀ x, x ∈ p.dropLast.map Provision.identifier ↔
    x ∈ wanted ∧ x ≠ r.catalogue.sentinel
  schemas : ∀ q ∈ p.dropLast, q.isSentinel = false ∧
    (Scheme.schemaOf r (.text q.identifier)).outcome = .ok q.schema
  last : ∃ schema, r.catalogue.schema r.catalogue.sentinel = .ok schema ∧
    p.getLast? = some ⟨r.catalogue.sentinel, schema, true⟩

theorem answers_of_ofSet {wanted : TextSet} {p : Plan} (h : (ofSet r wanted).outcome = .ok p) :
    Answers r wanted p := by
  obtain ⟨hknown, ps, last, hps, hlast, rfl⟩ := ofSet_outcome_eq_ok_iff.mp h
  obtain ⟨hids, hall⟩ := of_provisions_eq_ok hps
  obtain ⟨hschema, -, -, hidentifier, hsentinel⟩ := sentinelProvision_eq_ok_iff.mp hlast
  have hdrop : (ps ++ [last]).dropLast = ps := List.dropLast_concat
  constructor
  case known => exact hknown
  case increasing =>
    rw [hdrop, hids]
    exact (others r wanted).increasing
  case identifiers =>
    intro x
    rw [hdrop, hids, ← TextSet.mem_def, mem_others]
  case schemas =>
    intro q hq
    rw [hdrop] at hq
    obtain ⟨hq, -, -, -, hflag⟩ := provision_outcome_eq_ok_iff.mp (hall q hq)
    exact ⟨hflag, hq⟩
  case last =>
    refine ⟨last.schema, hschema, ?_⟩
    rw [List.getLast?_concat, ← hidentifier, ← hsentinel]

/-- A plan for more holds the plan for less. -/
theorem exists_ofSet_of_subset {wanted more : TextSet} (hsub : ∀ x ∈ wanted, x ∈ more) {q : Plan}
    (hq : (ofSet r more).outcome = .ok q) :
    ∃ p, (ofSet r wanted).outcome = .ok p ∧ p.Sublist q := by
  obtain ⟨hknown, qs, last, hqs, hlast, rfl⟩ := ofSet_outcome_eq_ok_iff.mp hq
  have hothers : ∀ x ∈ others r wanted, x ∈ others r more := by
    intro x hx
    rw [mem_others] at hx ⊢
    exact ⟨hsub x hx.1, hx.2⟩
  obtain ⟨ps, hps, hpq⟩ := exists_provisions_of_sublist (TextSet.sublist_toList hothers) hqs
  refine ⟨ps ++ [last], ofSet_outcome_eq_ok_iff.mpr ⟨fun x hx => hknown x (hsub x hx), ps, last,
    hps, hlast, rfl⟩, hpq.append_right [last]⟩

/-- **What a plan is.** A value asks for a set of identifiers, or it fails. Where one
of them cannot be provided, the least such one is named and nothing is rendered or
logged. Else a plan that is made answers the set that was asked for. All that counts is
this set, and a plan for more holds the plan for less. -/
theorem build_of_asks (r : Registry) (v : Value) :
    ((∃ wanted, Asks r v wanted) ∨ ∃ e, build r v = .fail e) ∧
    ∀ wanted, Asks r v wanted →
      ((∃ x ∈ wanted, x ∉ r.provisionable) → ∃ least ∈ wanted, least ∉ r.provisionable ∧
        (∀ y ∈ wanted, y ∉ r.provisionable → y = least ∨ Text.Before least y) ∧
        build r v = .fail (.unknownIdentifier least)) ∧
      (∀ p, (build r v).outcome = .ok p → Answers r wanted p) ∧
      (∀ w, Asks r w wanted → build r w = build r v) ∧
      ∀ w more q, Asks r w more → (∀ x ∈ wanted, x ∈ more) → (build r w).outcome = .ok q →
        ∃ p, (build r v).outcome = .ok p ∧ p.Sublist q := by
  refine ⟨asks_or_fail r v, fun wanted h => ?_⟩
  rw [build_eq_ofSet h]
  refine ⟨?_, fun p => answers_of_ofSet, fun w hw => build_eq_ofSet hw, ?_⟩
  · rintro ⟨x, hx, hunknown⟩
    cases hleast : firstUnknown? r.provisionable wanted with
    | none => exact absurd (firstUnknown?_eq_none_iff.mp hleast x hx) hunknown
    | some least =>
      obtain ⟨hmem, hnot, hmin⟩ := firstUnknown?_eq_some_iff.mp hleast
      exact ⟨least, hmem, hnot, hmin, ofSet_of_unknown hleast⟩
  · intro w more q hw hsub hq
    rw [build_eq_ofSet hw] at hq
    exact exists_ofSet_of_subset hsub hq

/-- A registry whose sentinel is neither the first nor the last of its identifiers. -/
def sampleRegistry : Registry where
  catalogue := ⟨.ofList [("m", "M;"), ("z", "Z;"), ("a", "A;")], "m"⟩
  templates := ⟨.empty, true⟩
  textualDatabases := .empty
  textualTemplate := Manifest.defaultTextualTemplate
  settings := ⟨⟨.top, []⟩, true⟩

/-- A request with blanks around its members, one of them twice, and the sentinel. -/
def sampleRequest : Value :=
  .list [.text " z\n", .text "m", .text "\t", .text "a", .text "z"]

/-- The plan for that request ends with the sentinel and holds the plan for one of its
databases; of two identifiers that are unknown the one that comes first is named. -/
theorem build_of_asks_sample :
    Asks sampleRegistry sampleRequest (.ofList ["a", "m", "z"]) ∧
    (build sampleRegistry sampleRequest).outcome =
      .ok [⟨"a", "A;", false⟩, ⟨"z", "Z;", false⟩, ⟨"m", "M;", true⟩] ∧
    Answers sampleRegistry (.ofList ["a", "m", "z"])
      [⟨"a", "A;", false⟩, ⟨"z", "Z;", false⟩, ⟨"m", "M;", true⟩] ∧
    Asks sampleRegistry (.text "z") (.ofList ["z"]) ∧
    (∃ p, (build sampleRegistry (.text "z")).outcome = .ok p ∧
      p.Sublist [⟨"a", "A;", false⟩, ⟨"z", "Z;", false⟩, ⟨"m", "M;", true⟩]) ∧
    Asks sampleRegistry (.tuple [.text "zz", .bool true]) (.ofList ["True", "zz"]) ∧
    ∃ least ∈ TextSet.ofList ["True", "zz"],
      build sampleRegistry (.tuple [.text "zz", .bool true]) =
        .fail (.unknownIdentifier least) := by
  have hall : Asks sampleRegistry sampleRequest (.ofList ["a", "m", "z"]) :=
    asks_of_requested (Outcome.eq_ok_of_toOption (by decide))
  have hone : Asks sampleRegistry (.text "z") (.ofList ["z"]) :=
    asks_of_requested (Outcome.eq_ok_of_toOption (by decide))
  have hunknown : Asks sampleRegistry (.tuple [.text "zz", .bool true]) (.ofList ["True", "zz"]) :=
    asks_of_requested (Outcome.eq_ok_of_toOption (by decide))
  have hplan : (build sampleRegistry sampleRequest).outcome =
      .ok [⟨"a", "A;", false⟩, ⟨"z", "Z;", false⟩, ⟨"m", "M;", true⟩] :=
    Outcome.eq_ok_of_toOption (by decide)
  obtain ⟨-, hanswers, -, -⟩ := (build_of_asks sampleRegistry sampleRequest).2 _ hall
  obtain ⟨-, -, -, hpart⟩ := (build_of_asks sampleRegistry (.text "z")).2 _ hone
  obtain ⟨hfail, -, -, -⟩ :=
    (build_of_asks sampleRegistry (.tuple [.text "zz", .bool true])).2 _ hunknown
  obtain ⟨least, hleast, -, -, hnamed⟩ := hfail ⟨"zz", by decide, by decide⟩
  exact ⟨hall, hplan, hanswers _ hplan, hone, hpart _ _ _ hall (by decide) hplan, hunknown, least,
    hleast, hnamed⟩

end Plan

end SchemaDepot
