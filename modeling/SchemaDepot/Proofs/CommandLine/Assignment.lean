/-
# Assignments as they are written

An assignment is a token and a value with an equals sign between them; blanks may stand around
the token (`CommandLine.Spells`). Any map whose tokens have no blank at either end and no equals
sign in them is read back from its assignments, in whatever order they come
(`CommandLine.readAssignments_of_spells`). Of several assignments of one token the last counts,
so a list of assignments overrides the one before it.

Nothing is read if one of the assignments is malformed, and the first such one is named.

Key definitions: `CommandLine.Assigns`, `CommandLine.Malformed`, `CommandLine.IsToken`,
`CommandLine.Spells`.
Key theorems: `CommandLine.readAssignment_eq_ok_iff`, `CommandLine.readAssignment_eq_error_iff`,
`CommandLine.assignments_read_exactly`.
-/
import SchemaDepot.CommandLine.Assignment
import SchemaDepot.Proofs.Listing
import SchemaDepot.Proofs.Outcome
import SchemaDepot.Proofs.Text.Trim

namespace SchemaDepot

namespace CommandLine

open Text Outcome

variable {raw token value x : String} {raws xs ys : List String} {e : Error}

/-! ### One assignment -/

/-- The text gives a value to a token: what stands before the first equals sign is trimmed,
what stands behind it is the value. -/
def Assigns (raw token value : String) : Prop :=
  ∃ before, raw.toList = before ++ '=' :: value.toList ∧ '=' ∉ before ∧
    String.ofList (trimList before) = token ∧ token ≠ ""

/-- The text has no equals sign, or nothing but blanks before the first one. -/
def Malformed (raw : String) : Prop :=
  '=' ∉ raw.toList ∨
    ∃ before after, raw.toList = before ++ '=' :: after ∧ ∀ c ∈ before, isBlankChar c = true

theorem not_mem_of_blank {before : List Char} (h : ∀ c ∈ before, isBlankChar c = true) :
    '=' ∉ before := by
  intro hsign
  have hblank := h _ hsign
  revert hblank
  decide

theorem readAssignment_of_not_mem (h : '=' ∉ raw.toList) :
    readAssignment raw = .error (.value (.notAssignment raw)) := by
  have hcut : cut? '=' raw.toList = none := by
    refine Option.eq_none_iff_forall_ne_some.mpr fun parts hparts => h ?_
    rw [(cut?_eq_some_iff.mp hparts).1]
    exact List.mem_append_right _ List.mem_cons_self
  rw [readAssignment, hcut]

/-- What stands before the first equals sign decides. -/
theorem readAssignment_of_cut {before after : List Char} (hraw : raw.toList = before ++ '=' :: after)
    (hsign : '=' ∉ before) : readAssignment raw =
      if (trimList before).isEmpty then .error (.value (.notAssignment raw))
      else .ok (String.ofList (trimList before), String.ofList after) := by
  have hcut : cut? '=' raw.toList = some (before, after) := cut?_eq_some_iff.mpr ⟨hraw, hsign⟩
  rw [readAssignment, hcut]

theorem isEmpty_trimList_iff {cs : List Char} :
    (trimList cs).isEmpty = true ↔ ∀ c ∈ cs, isBlankChar c = true := by
  rw [List.isEmpty_iff, trimList_eq_nil_iff, List.all_eq_true]

theorem ofList_ne_empty_iff {cs : List Char} : String.ofList cs ≠ "" ↔ ¬ cs.isEmpty = true := by
  rw [List.isEmpty_iff, ne_eq, String.ofList_eq_empty_iff]

theorem readAssignment_eq_ok_iff :
    readAssignment raw = .ok (token, value) ↔ Assigns raw token value := by
  constructor
  · intro h
    by_cases hsign : '=' ∈ raw.toList
    · obtain ⟨before, after, hraw, hnot⟩ := List.eq_append_cons_of_mem hsign
      rw [readAssignment_of_cut hraw hnot] at h
      obtain ⟨hne, h⟩ := refuse_eq_ok_iff.mp h
      cases h
      exact ⟨before, by rw [hraw, String.toList_ofList], hnot, rfl, ofList_ne_empty_iff.mpr hne⟩
    · rw [readAssignment_of_not_mem hsign] at h
      cases h
  · rintro ⟨before, hraw, hnot, rfl, hne⟩
    rw [readAssignment_of_cut hraw hnot, if_neg (ofList_ne_empty_iff.mp hne), String.ofList_toList]

/-- An assignment is refused exactly when it is malformed, and is then named. -/
theorem readAssignment_eq_error_iff :
    readAssignment raw = .error e ↔ Malformed raw ∧ .value (.notAssignment raw) = e := by
  by_cases hsign : '=' ∈ raw.toList
  · obtain ⟨before, after, hraw, hnot⟩ := List.eq_append_cons_of_mem hsign
    have hblank : Malformed raw ↔ (trimList before).isEmpty = true := by
      rw [isEmpty_trimList_iff]
      constructor
      · rintro (habsent | ⟨before', after', hraw', hblank⟩)
        · exact absurd hsign habsent
        · have hcut := cut?_eq_some_iff.mpr ⟨hraw, hnot⟩
          have hcut' := cut?_eq_some_iff.mpr ⟨hraw', not_mem_of_blank hblank⟩
          rw [hcut] at hcut'
          cases hcut'
          exact hblank
      · exact fun hblank => Or.inr ⟨before, after, hraw, hblank⟩
    rw [readAssignment_of_cut hraw hnot, refuse_eq_error_iff, hblank]
    simp
  · rw [readAssignment_of_not_mem hsign, Except.error.injEq]
    exact ⟨fun h => ⟨Or.inl hsign, h⟩, fun h => h.2⟩

theorem malformed_iff : Malformed raw ↔ ∀ token value, ¬ Assigns raw token value := by
  simp only [← readAssignment_eq_ok_iff]
  constructor
  · intro h token value hread
    rw [readAssignment_eq_error_iff.mpr ⟨h, rfl⟩] at hread
    cases hread
  · intro h
    cases hread : readAssignment raw with
    | error e => exact (readAssignment_eq_error_iff.mp hread).1
    | ok assignment => exact absurd hread (h assignment.1 assignment.2)

/-! ### Writing a map -/

/-- The name can stand before an equals sign: it is not empty, has no blank at either end and no
equals sign in it. -/
structure IsToken (x : String) : Prop where
  not_empty : x ≠ ""
  trimmed : trim x = x
  no_sign : '=' ∉ x.toList

/-- The text is a token with its value, with blanks around the token. -/
def Spells (raw : String) (e : String × String) : Prop :=
  ∃ front back : List Char, (∀ c ∈ front, isBlankChar c = true) ∧
    (∀ c ∈ back, isBlankChar c = true) ∧
    raw.toList = front ++ (e.1.toList ++ back) ++ '=' :: e.2.toList

theorem Spells.assigns (h : Spells raw (token, value)) (htoken : IsToken token) :
    Assigns raw token value := by
  obtain ⟨front, back, hfront, hback, hraw⟩ := h
  have htrim : String.ofList (trimList token.toList) = token := htoken.trimmed
  refine ⟨front ++ (token.toList ++ back), hraw, ?_, ?_, htoken.not_empty⟩
  · simp only [List.mem_append, not_or]
    exact ⟨not_mem_of_blank hfront, htoken.no_sign, not_mem_of_blank hback⟩
  · rw [trimList_append_append hfront hback, htrim]

/-- What is written for tokens and values is read as them, in order. -/
theorem mapM_readAssignment_of_spells {es : List (String × String)}
    (htokens : ∀ e ∈ es, IsToken e.1) (h : List.Forall₂ Spells raws es) :
    raws.mapM readAssignment = .ok es := by
  induction h with
  | nil => rfl
  | cons hraw _ ih =>
    obtain ⟨htoken, htokens⟩ := List.forall_mem_cons.mp htokens
    exact mapM_cons_eq_ok_iff.mpr
      ⟨_, _, readAssignment_eq_ok_iff.mpr (hraw.assigns htoken), ih htokens, rfl⟩

/-! ### Lists of assignments -/

theorem readAssignments_eq_ok_iff {l : Listing String} : readAssignments raws = .ok l ↔
    ∃ es, raws.mapM readAssignment = .ok es ∧ Listing.ofList es = l := by
  rw [readAssignments, bind_eq_ok_iff]
  simp only [Except.ok.injEq]

/-- A map is read back from assignments for its entries, in whatever order they come. -/
theorem readAssignments_of_spells (m : Listing String) (htokens : ∀ x ∈ m.keys, IsToken x)
    {es : List (String × String)} (hperm : es.Perm m.entries) (h : List.Forall₂ Spells raws es) :
    ∃ l, readAssignments raws = .ok l ∧ l.entries = es ∧ ∀ x, l.get? x = m.get? x := by
  have hnodup : (es.map Prod.fst).Nodup := (hperm.map Prod.fst).nodup_iff.mpr m.distinct
  have hentries : (Listing.ofList es).entries = es := Listing.entries_ofList hnodup
  refine ⟨.ofList es, readAssignments_eq_ok_iff.mpr ⟨es, ?_, rfl⟩, hentries, fun x => ?_⟩
  · refine mapM_readAssignment_of_spells (fun e he => htokens _ ?_) h
    exact List.mem_map_of_mem (hperm.mem_iff.mp he)
  · exact Listing.get?_eq_of_perm (by rwa [hentries]) x

/-- A list of assignments overrides the one before it. -/
theorem readAssignments_append {l l' : Listing String} (h : readAssignments xs = .ok l)
    (h' : readAssignments ys = .ok l') :
    ∃ l'', readAssignments (xs ++ ys) = .ok l'' ∧ ∀ x, l''.get? x = (l'.get? x).or (l.get? x) := by
  obtain ⟨front, hfront, rfl⟩ := readAssignments_eq_ok_iff.mp h
  obtain ⟨back, hback, rfl⟩ := readAssignments_eq_ok_iff.mp h'
  refine ⟨.ofList (front ++ back), readAssignments_eq_ok_iff.mpr ⟨_, ?_, rfl⟩, fun x => ?_⟩
  · exact mapM_append_eq_ok_iff.mpr ⟨front, back, hfront, hback, rfl⟩
  · rw [Listing.get?_ofList, Listing.get?_ofList, Listing.get?_ofList, List.reverse_append,
      List.lookup_append]

/-- The value of a token is the one in the last of its assignments. -/
theorem get?_eq_some_iff_of_readAssignments {l : Listing String} (h : readAssignments raws = .ok l) :
    l.get? x = some value ↔ ∃ front raw rest, raws = front ++ raw :: rest ∧
      Assigns raw x value ∧ ∀ later ∈ rest, ∀ w, ¬ Assigns later x w := by
  obtain ⟨es, hes, rfl⟩ := readAssignments_eq_ok_iff.mp h
  rw [Listing.get?_ofList_eq_some_iff]
  simp only [← readAssignment_eq_ok_iff]
  constructor
  · rintro ⟨before, after, rfl, hlast⟩
    obtain ⟨front, others, rfl, -, hothers⟩ := mapM_eq_ok_append_iff.mp hes
    cases others with
    | nil => cases hothers
    | cons raw rest =>
      obtain ⟨e, after', hraw, hrest, hsplit⟩ := mapM_cons_eq_ok_iff.mp hothers
      cases hsplit
      refine ⟨front, raw, rest, rfl, hraw, fun later hlater w hw => hlast ?_⟩
      obtain ⟨e, he, hread⟩ := exists_mem_of_mapM hrest later hlater
      rw [hw] at hread
      cases hread
      exact List.mem_map_of_mem he
  · rintro ⟨front, raw, rest, rfl, hraw, hlast⟩
    obtain ⟨before, others, -, hothers, rfl⟩ := mapM_append_eq_ok_iff.mp hes
    obtain ⟨e, after, hread, hrest, rfl⟩ := mapM_cons_eq_ok_iff.mp hothers
    rw [hraw] at hread
    cases hread
    refine ⟨before, after, rfl, fun hmem => ?_⟩
    obtain ⟨e, he, rfl⟩ := List.mem_map.mp hmem
    obtain ⟨later, hlater, hw⟩ := exists_of_mem_mapM hrest e he
    exact hlast later hlater e.2 hw

/-- A list fails as its first malformed element does. -/
theorem readAssignments_eq_error_iff : readAssignments raws = .error e ↔
    ∃ front raw rest, raws = front ++ raw :: rest ∧ (∀ earlier ∈ front, ¬ Malformed earlier) ∧
      Malformed raw ∧ .value (.notAssignment raw) = e := by
  have hread : ∀ earlier, (∃ a, readAssignment earlier = .ok a) ↔ ¬ Malformed earlier := by
    intro earlier
    simp only [Prod.exists, readAssignment_eq_ok_iff, malformed_iff, not_forall, not_not]
  rw [readAssignments, bind_eq_error_iff]
  simp only [reduceCtorEq, and_false, exists_false, or_false, mapM_eq_error_iff, Reaches, hread,
    readAssignment_eq_error_iff]
  constructor
  · rintro ⟨raw, ⟨front, rest, hraws, hfront⟩, hraw⟩
    exact ⟨front, raw, rest, hraws, hfront, hraw⟩
  · rintro ⟨front, raw, rest, hraws, hfront, hraw⟩
    exact ⟨raw, ⟨front, rest, hraws, hfront⟩, hraw⟩

theorem exists_readAssignments_eq_error_iff :
    (∃ e, readAssignments raws = .error e) ↔ ∃ raw ∈ raws, Malformed raw := by
  constructor
  · rintro ⟨e, h⟩
    obtain ⟨front, raw, rest, rfl, -, hraw, -⟩ := readAssignments_eq_error_iff.mp h
    exact ⟨raw, List.mem_append_right _ List.mem_cons_self, hraw⟩
  · rintro ⟨raw, hmem, hraw⟩
    cases hread : readAssignments raws with
    | error e => exact ⟨e, rfl⟩
    | ok l =>
      obtain ⟨es, hes, -⟩ := readAssignments_eq_ok_iff.mp hread
      obtain ⟨a, -, ha⟩ := exists_mem_of_mapM hes raw hmem
      rw [readAssignment_eq_error_iff.mpr ⟨hraw, rfl⟩] at ha
      cases ha

/-- **Assignments are read exactly.** A map whose tokens can stand before an equals sign is read
back from assignments for its entries, in any order and with blanks around the tokens. Of two
lists in order the second overrides the first, and of the assignments of one token the last
counts. A list fails exactly when an element has no equals sign or only blanks before it, and
the first such element is quoted. -/
theorem assignments_read_exactly :
    (∀ m : Listing String, (∀ x ∈ m.keys, IsToken x) → ∀ es raws, es.Perm m.entries →
      List.Forall₂ Spells raws es →
      ∃ l, readAssignments raws = .ok l ∧ l.entries = es ∧ ∀ x, l.get? x = m.get? x) ∧
    (∀ xs ys l l', readAssignments xs = .ok l → readAssignments ys = .ok l' →
      ∃ l'', readAssignments (xs ++ ys) = .ok l'' ∧ ∀ x, l''.get? x = (l'.get? x).or (l.get? x)) ∧
    (∀ raws l, readAssignments raws = .ok l → ∀ x value, l.get? x = some value ↔
      ∃ front raw rest, raws = front ++ raw :: rest ∧ Assigns raw x value ∧
        ∀ later ∈ rest, ∀ w, ¬ Assigns later x w) ∧
    (∀ raws, (∃ e, readAssignments raws = .error e) ↔ ∃ raw ∈ raws, Malformed raw) ∧
    ∀ raws e, readAssignments raws = .error e → ∃ front raw rest, raws = front ++ raw :: rest ∧
      (∀ earlier ∈ front, ¬ Malformed earlier) ∧ Malformed raw ∧ e = .value (.notAssignment raw) ∧
      e.message = "--set expects TOKEN=value, got '" ++ raw ++ "'" := by
  refine ⟨fun m htokens es raws hperm h => readAssignments_of_spells m htokens hperm h,
    fun xs ys l l' h h' => readAssignments_append h h',
    fun raws l h x value => get?_eq_some_iff_of_readAssignments h,
    fun raws => exists_readAssignments_eq_error_iff, fun raws e h => ?_⟩
  obtain ⟨front, raw, rest, hraws, hfront, hraw, rfl⟩ := readAssignments_eq_error_iff.mp h
  exact ⟨front, raw, rest, hraws, hfront, hraw, rfl, rfl⟩

/-- A value may hold an equals sign and blanks; a later assignment of its token overrides it, and
one without a token discards all. -/
theorem assignments_read_exactly_overridden :
    (∃ l, readAssignments [" b\t= x=1 ", "a="] = .ok l ∧ l.entries = [("b", " x=1 "), ("a", "")]) ∧
    (∃ l, readAssignments ([" b\t= x=1 ", "a="] ++ ["b=2"]) = .ok l ∧ l.get? "b" = some "2" ∧
      l.get? "a" = some "") ∧
    readAssignments ["a=", " =x", "c"] = .error (.value (.notAssignment " =x")) ∧
    (Error.value (.notAssignment " =x")).message = "--set expects TOKEN=value, got ' =x'" := by
  obtain ⟨hback, hoverride, -, -, -⟩ := assignments_read_exactly
  have htokens : ∀ x ∈ ["a", "b"], IsToken x := by
    have hall : ∀ x ∈ ["a", "b"], x ≠ "" ∧ trim x = x ∧ '=' ∉ x.toList := by decide
    exact fun x hx => ⟨(hall x hx).1, (hall x hx).2.1, (hall x hx).2.2⟩
  have hnone : ∀ c ∈ ([] : List Char), isBlankChar c = true := List.forall_mem_nil _
  have hblank : ∀ c, isBlankChar c = true → ∀ d ∈ [c], isBlankChar d = true :=
    fun c hc => List.forall_mem_singleton.mpr hc
  obtain ⟨l, hl, hentries, hget⟩ :=
    hback (.ofList [("a", ""), ("b", " x=1 ")]) htokens [("b", " x=1 "), ("a", "")]
      [" b\t= x=1 ", "a="] (.swap _ _ _)
      (.cons ⟨[' '], ['\t'], hblank ' ' (by decide), hblank '\t' (by decide), by decide⟩
        (.cons ⟨[], [], hnone, hnone, by decide⟩ .nil))
  obtain ⟨l', hl', -, hget'⟩ :=
    hback (.ofList [("b", "2")]) (fun x hx => htokens x (List.mem_cons_of_mem _ hx)) [("b", "2")]
      ["b=2"] (.refl _) (.cons ⟨[], [], hnone, hnone, by decide⟩ .nil)
  obtain ⟨l'', hl'', hget''⟩ := hoverride _ _ _ _ hl hl'
  have hfails : readAssignments ["a=", " =x", "c"] = .error (.value (.notAssignment " =x")) :=
    eq_error_of_error? (by decide)
  refine ⟨⟨l, hl, hentries⟩, ⟨l'', hl'', ?_, ?_⟩, hfails, by decide⟩
  · rw [hget'', hget', hget]
    decide
  · rw [hget'', hget', hget]
    decide

end CommandLine

end SchemaDepot
