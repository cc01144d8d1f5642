/-
# Where paths lead

A path is followed by its text alone, in two steps. The names in a text are its
stretches between slashes; empty ones and single dots do not count (`Path.Spells`).
Then each pair of dots goes together with the name before it, or alone at the top, until
none is left (`Path.Settles`). In whatever order this is done, the same names are left:
those that `Path.follow` gives (`Path.settles_iff`).

So the place that a text leads to from a folder (`Path.Leads`) is that of the joined path,
and it stays the same when the folder is settled before the text is joined to it
(`Path.leads_iff`, `Path.settle_join_settled`).

Key definitions: `Path.Spells`, `Path.Climbs`, `Path.Settles`, `Path.Leads`, `Path.Below`.
Key theorems: `Path.spells_iff`, `Path.settles_iff`, `Path.leads_iff`,
`Path.resolve_eq_ok_iff`, `Path.resolve_eq_error_iff`, `Path.isBelow_iff`.
-/
import Mathlib.Logic.Relation
import SchemaDepot.Path
import SchemaDepot.Proofs.Outcome

namespace SchemaDepot

namespace Text

/-! ### Stretches between separators -/

theorem splitAll_of_not_mem {sep : Char} {cs : List Char} (h : sep ∉ cs) :
    splitAll sep cs = [cs] := by
  induction cs with
  | nil => rfl
  | cons c cs ih =>
    simp only [List.mem_cons, not_or] at h
    rw [splitAll, if_neg (Ne.symm h.1), ih h.2]

theorem splitAll_append {sep : Char} {front : List Char} (h : sep ∉ front) (rest : List Char) :
    splitAll sep (front ++ sep :: rest) = front :: splitAll sep rest := by
  induction front with
  | nil => simp [splitAll]
  | cons c front ih =>
    simp only [List.mem_cons, not_or] at h
    rw [List.cons_append, splitAll, if_neg (Ne.symm h.1), ih h.2]

end Text

namespace Path

/-! ### The names in a text -/

/-- The name that a stretch between slashes gives: none if it is empty or a single dot. -/
def nameIn (stretch : List Char) : List String :=
  if stretch = [] ∨ stretch = ['.'] then [] else [String.ofList stretch]

/-- Characters and the names in them, stretch by stretch. -/
inductive Spells : List Char → List String → Prop
  | last {stretch : List Char} (h : '/' ∉ stretch) : Spells stretch (nameIn stretch)
  | more {stretch cs : List Char} {names : List String} (h : '/' ∉ stretch)
      (rest : Spells cs names) : Spells (stretch ++ '/' :: cs) (nameIn stretch ++ names)

/-- The names in characters. -/
def names (cs : List Char) : List String :=
  (Text.splitAll '/' cs).flatMap nameIn

theorem parts_ofText (s : String) : (ofText s).parts = names s.toList := by
  have hkeep : ∀ stretch : List Char,
      nameIn stretch = [String.ofList stretch].filter fun c => c ≠ "" ∧ c ≠ "." := by
    intro stretch
    have hempty : String.ofList stretch = "" ↔ stretch = [] := by
      rw [← String.toList_inj, String.toList_ofList]
      rfl
    have hdot : String.ofList stretch = "." ↔ stretch = ['.'] := by
      rw [← String.toList_inj, String.toList_ofList]
      rfl
    unfold nameIn
    by_cases h : stretch = [] ∨ stretch = ['.']
    · rw [if_pos h]
      simp only [List.filter_cons, hempty, hdot, ne_eq]
      rcases h with rfl | rfl <;> simp
    · rw [if_neg h]
      rw [not_or] at h
      simp [hempty, hdot, h]
  simp only [ofText, names]
  induction Text.splitAll '/' s.toList with
  | nil => rfl
  | cons stretch rest ih =>
    rw [List.flatMap_cons, hkeep, ← ih, List.map_cons, ← List.singleton_append, List.filter_append]

theorem names_of_not_mem {cs : List Char} (h : '/' ∉ cs) : names cs = nameIn cs := by
  simp [names, Text.splitAll_of_not_mem h]

theorem names_append {front : List Char} (h : '/' ∉ front) (rest : List Char) :
    names (front ++ '/' :: rest) = nameIn front ++ names rest := by
  simp [names, Text.splitAll_append h]

theorem Spells.names_eq {cs : List Char} {parts : List String} (h : Spells cs parts) :
    names cs = parts := by
  induction h with
  | last h => exact names_of_not_mem h
  | more h _ ih => rw [names_append h, ih]

theorem spells_names (cs : List Char) : Spells cs (names cs) := by
  by_cases h : '/' ∈ cs
  · obtain ⟨front, rest, hcs, hfront⟩ := List.eq_append_cons_of_mem h
    have hlt : rest.length < cs.length := by
      rw [hcs, List.length_append, List.length_cons]
      omega
    rw [hcs, names_append hfront]
    exact .more hfront (spells_names rest)
  · rw [names_of_not_mem h]
    exact .last h
termination_by cs.length

/-- The names of a path read from a text are those the text spells. -/
theorem spells_iff {s : String} {parts : List String} :
    Spells s.toList parts ↔ (ofText s).parts = parts := by
  rw [parts_ofText]
  constructor
  · exact Spells.names_eq
  · rintro rfl
    exact spells_names s.toList

theorem anchor_ofText_eq_here_iff {s : String} :
    (ofText s).anchor = .here ↔ s.toList.head? ≠ some '/' := by
  have hanchor : ∀ n, anchorOf n = .here ↔ n = 0 := by
    intro n
    unfold anchorOf
    split <;> simp_all
  simp only [ofText, hanchor, List.length_eq_zero_iff]
  cases s.toList with
  | nil => simp
  | cons c cs => by_cases h : c = '/' <;> simp [h]

/-- A name in a text is not a single dot, and its characters are in the text. -/
theorem of_mem_names {cs : List Char} {parts : List String} (h : Spells cs parts) {c : String}
    (hc : c ∈ parts) : c ≠ "." ∧ ∀ x ∈ c.toList, x ∈ cs := by
  have hname : ∀ {stretch : List Char}, c ∈ nameIn stretch →
      c ≠ "." ∧ ∀ x ∈ c.toList, x ∈ stretch := by
    intro stretch hmem
    unfold nameIn at hmem
    split at hmem
    · cases hmem
    · rename_i hkept
      obtain rfl := List.mem_singleton.mp hmem
      rw [String.toList_ofList]
      refine ⟨fun hdot => hkept (Or.inr ?_), fun x hx => hx⟩
      rw [← String.toList_ofList (l := stretch), hdot]
      rfl
  induction h with
  | last _ => exact hname hc
  | more _ _ ih =>
    rcases List.mem_append.mp hc with hc | hc
    · obtain ⟨hdot, hchars⟩ := hname hc
      exact ⟨hdot, fun x hx => List.mem_append_left _ (hchars x hx)⟩
    · obtain ⟨hdot, hchars⟩ := ih hc
      exact ⟨hdot, fun x hx => List.mem_append_right _ (List.mem_cons_of_mem _ (hchars x hx))⟩

/-! ### Pairs of dots -/

/-- One pair of dots is followed: it goes together with the name before it, or alone at
the top. -/
inductive Climbs : List String → List String → Prop
  | back {c : String} (hc : c ≠ up) (front rest : List String) :
      Climbs (front ++ c :: up :: rest) (front ++ rest)
  | atTop (rest : List String) : Climbs (up :: rest) rest

/-- All pairs of dots are followed. -/
def Settles (parts place : List String) : Prop :=
  Relation.ReflTransGen Climbs parts place ∧ up ∉ place

theorem follow_append (start front rest : List String) :
    follow start (front ++ rest) = follow (follow start front) rest :=
  List.foldl_append

theorem follow_cons (start : List String) (c : String) (rest : List String) :
    follow start (c :: rest) = follow (if c = up then start.dropLast else start ++ [c]) rest :=
  rfl

theorem follow_of_not_mem {parts : List String} (h : up ∉ parts) (start : List String) :
    follow start parts = start ++ parts := by
  induction parts generalizing start with
  | nil => exact (List.append_nil start).symm
  | cons c parts ih =>
    simp only [List.mem_cons, not_or] at h
    rw [follow_cons, if_neg (Ne.symm h.1), ih h.2, List.append_assoc, List.singleton_append]

/-- Following one pair of dots does not change where the names lead. -/
theorem Climbs.follow_eq {parts parts' : List String} (h : Climbs parts parts') :
    follow [] parts = follow [] parts' := by
  cases h with
  | back hc front rest =>
    rw [follow_append, follow_append, follow_cons, if_neg hc, follow_cons, if_pos rfl,
      List.dropLast_concat]
  | atTop rest => rfl

theorem not_mem_follow {start : List String} (h : up ∉ start) (parts : List String) :
    up ∉ follow start parts := by
  induction parts generalizing start with
  | nil => exact h
  | cons c parts ih =>
    rw [follow_cons]
    apply ih
    by_cases hc : c = up
    · rw [if_pos hc]
      exact fun hmem => h (List.dropLast_subset _ hmem)
    · rw [if_neg hc]
      simp only [List.mem_append, List.mem_singleton, not_or]
      exact ⟨h, Ne.symm hc⟩

/-- Following names is a matter of following pairs of dots one by one: behind the names
that stand already, the first pair takes the last of them away. -/
theorem climbs_follow {start : List String} (h : up ∉ start) (parts : List String) :
    Relation.ReflTransGen Climbs (start ++ parts) (follow start parts) := by
  induction parts generalizing start with
  | nil =>
    rw [List.append_nil]
    exact .refl
  | cons c parts ih =>
    rw [follow_cons]
    by_cases hc : c = up
    · subst hc
      rw [if_pos rfl]
      have hdrop : up ∉ start.dropLast := fun hmem => h (List.dropLast_subset _ hmem)
      have hstep : Climbs (start ++ up :: parts) (start.dropLast ++ parts) := by
        rcases List.eq_nil_or_concat' start with rfl | ⟨front, x, rfl⟩
        · exact .atTop parts
        · have hx : x ≠ up := fun e => h (e ▸ List.mem_append_right _ List.mem_cons_self)
          rw [List.dropLast_concat, List.append_assoc, List.singleton_append]
          exact .back hx front parts
      exact .head hstep (ih hdrop)
    · rw [if_neg hc]
      have hnext : up ∉ start ++ [c] := by
        simp only [List.mem_append, List.mem_singleton, not_or]
        exact ⟨h, Ne.symm hc⟩
      have hrest := ih hnext
      rwa [List.append_assoc, List.singleton_append] at hrest

theorem follow_eq_of_climbs {parts parts' : List String}
    (h : Relation.ReflTransGen Climbs parts parts') : follow [] parts = follow [] parts' := by
  induction h with
  | refl => rfl
  | tail _ hstep ih => rw [ih, hstep.follow_eq]

/-- **Names settle in one way.** In whatever order the pairs of dots are followed, what
is left is what following the names from the top gives. -/
theorem settles_iff {parts place : List String} :
    Settles parts place ↔ follow [] parts = place := by
  constructor
  · rintro ⟨hclimbs, hplace⟩
    rw [follow_eq_of_climbs hclimbs, follow_of_not_mem hplace, List.nil_append]
  · rintro rfl
    exact ⟨climbs_follow List.not_mem_nil parts, not_mem_follow List.not_mem_nil parts⟩

theorem mem_of_mem_follow {start parts : List String} {c : String} (h : c ∈ follow start parts) :
    c ∈ start ∨ c ∈ parts := by
  induction parts generalizing start with
  | nil => exact Or.inl h
  | cons d parts ih =>
    rw [follow_cons] at h
    rcases ih h with hstart | hparts
    · split at hstart
      · exact Or.inl (List.dropLast_subset _ hstart)
      · rcases List.mem_append.mp hstart with hc | hc
        · exact Or.inl hc
        · rw [List.mem_singleton.mp hc]
          exact Or.inr List.mem_cons_self
    · exact Or.inr (List.mem_cons_of_mem _ hparts)

/-! ### Places -/

variable {workingFolder : List String} {folder p q : Path}

theorem parent_child (folder : Path) (name : String) : (folder.child name).parent = folder := by
  unfold parent child
  rw [List.dropLast_concat]

/-- From a folder a text leads to a place: its names are followed from the folder, or from
the top if it starts with a slash. -/
def Leads (workingFolder : List String) (folder : Path) (s : String) (place : List String) :
    Prop :=
  ∃ parts, Spells s.toList parts ∧
    Settles ((if s.toList.head? = some '/' then [] else folder.absoluteParts workingFolder) ++ parts)
      place

theorem absoluteParts_join (s : String) : (folder.join (ofText s)).absoluteParts workingFolder =
    (if s.toList.head? = some '/' then [] else folder.absoluteParts workingFolder) ++
      (ofText s).parts := by
  have hhere := anchor_ofText_eq_here_iff (s := s)
  by_cases hs : s.toList.head? = some '/'
  · rw [if_pos hs, List.nil_append]
    have hne : (ofText s).anchor ≠ .here := fun e => hhere.mp e hs
    unfold join absoluteParts
    split <;> simp_all
  · rw [if_neg hs]
    have heq : (ofText s).anchor = .here := hhere.mpr hs
    unfold join absoluteParts
    rw [heq]
    cases folder.anchor <;> simp

/-- A text leads from a folder to the place of the joined path. -/
theorem leads_iff {s : String} {place : List String} :
    Leads workingFolder folder s place ↔
      (folder.join (ofText s)).settle workingFolder = place := by
  simp only [Leads, spells_iff, settles_iff, settle, absoluteParts_join]
  constructor
  · rintro ⟨_, rfl, h⟩
    exact h
  · exact fun h => ⟨_, rfl, h⟩

/-- It makes no difference whether the folder is settled before a path is joined to it. -/
theorem settle_join_settled (q : Path) :
    ((⟨.top, folder.settle workingFolder⟩ : Path).join q).settle workingFolder =
      (folder.join q).settle workingFolder := by
  have hup : up ∉ folder.settle workingFolder := not_mem_follow List.not_mem_nil _
  cases hq : q.anchor with
  | here =>
    have hjoined : (folder.join q).absoluteParts workingFolder =
        folder.absoluteParts workingFolder ++ q.parts := by
      simp only [join, hq, absoluteParts]
      cases folder.anchor <;> simp
    calc ((⟨.top, folder.settle workingFolder⟩ : Path).join q).settle workingFolder
        = follow [] (folder.settle workingFolder ++ q.parts) := by
          simp [join, hq, settle, absoluteParts]
      _ = follow (folder.settle workingFolder) q.parts := by
          rw [follow_append, follow_of_not_mem hup, List.nil_append]
      _ = (folder.join q).settle workingFolder := by
          rw [settle, settle, hjoined, follow_append]
  | top => simp [join, hq]
  | doubleTop => simp [join, hq]

theorem partFault?_eq_none_iff {c : String} :
    partFault? c = none ↔ ∀ x ∈ c.toList, Text.hasNoBytes x = false ∧ x ≠ '\x00' := by
  unfold partFault?
  by_cases hbytes : c.toList.any Text.hasNoBytes = true
  · rw [if_pos hbytes]
    obtain ⟨x, hx, hno⟩ := List.any_eq_true.mp hbytes
    constructor
    · intro h
      cases h
    · intro h
      rw [(h x hx).1] at hno
      cases hno
  · have hall : ∀ x ∈ c.toList, Text.hasNoBytes x = false := by
      intro x hx
      have hnot := fun h => hbytes (List.any_eq_true.mpr ⟨x, hx, h⟩)
      simpa using hnot
    rw [if_neg hbytes]
    by_cases hnul : '\x00' ∈ c.toList
    · simp only [List.contains_eq_mem, hnul, decide_true, if_true]
      constructor
      · intro h
        cases h
      · intro h
        exact absurd rfl (h _ hnul).2
    · simp only [List.contains_eq_mem, hnul, decide_false]
      exact ⟨fun _ x hx => ⟨hall x hx, fun e => hnul (e ▸ hx)⟩, fun _ => rfl⟩

theorem resolve_eq_ok_iff : p.resolve workingFolder = .ok q ↔
    (∀ c ∈ p.absoluteParts workingFolder, partFault? c = none) ∧
      q.anchor = .top ∧ q.parts = p.settle workingFolder := by
  rw [← List.findSome?_eq_none_iff]
  obtain ⟨anchor, parts⟩ := q
  unfold resolve
  cases (p.absoluteParts workingFolder).findSome? partFault? with
  | none => simp [eq_comm]
  | some e => simp

theorem resolve_eq_error_iff {e : Error} : p.resolve workingFolder = .error e ↔
    (p.absoluteParts workingFolder).findSome? partFault? = some e := by
  unfold resolve
  cases (p.absoluteParts workingFolder).findSome? partFault? with
  | none => simp
  | some e' => simp

/-- A place is strictly below another: its names are those of the other and more. -/
def Below (place root : List String) : Prop := ∃ rest, rest ≠ [] ∧ place = root ++ rest

theorem isBelow_iff {root : List String} :
    p.isBelow ⟨.top, root⟩ = true ↔ p.anchor = .top ∧ Below p.parts root := by
  simp only [isBelow, Bool.and_eq_true, List.isPrefixOf_iff_prefix, decide_eq_true_eq, Below]
  constructor
  · rintro ⟨⟨hanchor, ⟨rest, hrest⟩⟩, hne⟩
    refine ⟨hanchor, rest, fun e => hne ?_, hrest.symm⟩
    rw [← hrest, e, List.append_nil]
  · rintro ⟨hanchor, rest, hne, hrest⟩
    refine ⟨⟨hanchor, rest, hrest.symm⟩, fun e => hne ?_⟩
    rw [← e] at hrest
    exact List.append_right_eq_self.mp hrest.symm

end Path

end SchemaDepot
