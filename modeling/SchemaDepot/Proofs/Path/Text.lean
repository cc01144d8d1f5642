/-
# Paths written as texts

A path at the usual top is written with a slash before each component, and the text is read
back to the path if its components are such as a text can name: not empty, no single dot, and
without a slash (`Path.ofText_text`). If none of them leads upwards and each can be a file name,
resolving changes nothing either, and the path is normal. What is resolved from components that a
text can name is normal.

The text of a path is trimmed before it is read. That changes nothing unless it ends in a blank;
then it no longer leads to the path, since characters of names are lost, and neither following
names nor reading them brings characters back (`Path.not_endsBlank_of_follow`).

Key definitions: `Path.IsPart`, `Path.IsNormal`, `Path.EndsBlank`, `Path.weight`.
Key theorems: `Path.ofText_text`, `Path.isNormal_of_resolve`, `Path.trim_text_of_not_endsBlank`,
`Path.not_endsBlank_of_follow`.
-/
import SchemaDepot.Proofs.Path
import SchemaDepot.Proofs.Text.Trim

namespace SchemaDepot

namespace Text

/-- A text that begins with no blank is trimmed at its end only. -/
theorem trimList_of_head {c : Char} {cs : List Char} (hc : isBlankChar c = false) :
    trimList (c :: cs) = (c :: cs).rdropWhile isBlankChar := by
  have hkept : (c :: cs).dropWhile isBlankChar = c :: cs :=
    List.dropWhile_cons_of_neg (by simp [hc])
  rw [trimList, hkept]
  rfl

end Text

namespace Path

variable {workingFolder : List String} {p q : Path} {c : String}

/-! ### Components of texts -/

/-- A component that a text can name: it is not empty, no single dot, and holds no slash. -/
def IsPart (c : String) : Prop := c ≠ "" ∧ c ≠ "." ∧ '/' ∉ c.toList

instance (c : String) : Decidable (IsPart c) := inferInstanceAs (Decidable (_ ∧ _))

/-- A component that a text can name is the only name in its characters. -/
theorem nameIn_toList (hc : IsPart c) : nameIn c.toList = [c] := by
  have hempty : c.toList ≠ [] := fun h => hc.1 (String.toList_eq_nil_iff.mp h)
  have hdot : c.toList ≠ ['.'] := by
    intro h
    apply hc.2.1
    rw [← String.ofList_toList (s := c), h]
  rw [nameIn, if_neg (by simp [hempty, hdot]), String.ofList_toList]

theorem isPart_of_mem_names {cs : List Char} {parts : List String} (h : Spells cs parts)
    (hc : c ∈ parts) : IsPart c := by
  have hname : ∀ {stretch : List Char}, '/' ∉ stretch → c ∈ nameIn stretch → IsPart c := by
    intro stretch hslash hmem
    unfold nameIn at hmem
    by_cases hdropped : stretch = [] ∨ stretch = ['.']
    · rw [if_pos hdropped] at hmem
      cases hmem
    · rw [if_neg hdropped, List.mem_singleton] at hmem
      have hlist : c.toList = stretch := by rw [hmem, String.toList_ofList]
      rw [not_or] at hdropped
      refine ⟨fun he => hdropped.1 ?_, fun he => hdropped.2 ?_, by rwa [hlist]⟩
      · rw [← hlist, he]
        rfl
      · rw [← hlist, he]
        rfl
  induction h with
  | last hslash => exact hname hslash hc
  | more hslash _ ih =>
    rcases List.mem_append.mp hc with hc | hc
    · exact hname hslash hc
    · exact ih hc

/-- Components with slashes between are read as the names they are. -/
theorem names_intercalate {parts : List String} (h : ∀ c ∈ parts, IsPart c) :
    names ("/".intercalate parts).toList = parts := by
  induction parts with
  | nil => rfl
  | cons c parts ih =>
    obtain ⟨hc, hparts⟩ := List.forall_mem_cons.mp h
    cases parts with
    | nil => rw [String.intercalate_singleton, names_of_not_mem hc.2.2, nameIn_toList hc]
    | cons d parts =>
      have hsplit : ("/".intercalate (c :: d :: parts)).toList =
          c.toList ++ '/' :: ("/".intercalate (d :: parts)).toList := by
        simp [String.intercalate_cons_cons]
      rw [hsplit, names_append hc.2.2, nameIn_toList hc, ih hparts, List.singleton_append]

/-! ### Paths at the usual top -/

theorem toList_text (hp : p.anchor = .top) :
    p.text.toList = '/' :: ("/".intercalate p.parts).toList := by
  obtain ⟨anchor, parts⟩ := p
  subst hp
  change ("/" ++ "/".intercalate parts).toList = _
  rw [String.toList_append]
  rfl

theorem ofText_text (hp : p.anchor = .top) (hparts : ∀ c ∈ p.parts, IsPart c) :
    ofText p.text = p := by
  have hnames : (ofText p.text).parts = p.parts := by
    have hfront : names ('/' :: ("/".intercalate p.parts).toList) =
        nameIn [] ++ names ("/".intercalate p.parts).toList :=
      @names_append [] List.not_mem_nil _
    rw [parts_ofText, toList_text hp, hfront, names_intercalate hparts]
    rfl
  have hslashes : (p.text.toList.takeWhile (· = '/')).length = 1 := by
    have hfirst : ("/".intercalate p.parts).toList.takeWhile (· = '/') = [] := by
      cases hp' : p.parts with
      | nil => rfl
      | cons c rest =>
        rw [hp'] at hparts
        obtain ⟨hempty, -, hslash⟩ := hparts c List.mem_cons_self
        obtain ⟨x, xs, hx⟩ := List.exists_cons_of_ne_nil
          fun h => hempty (String.toList_eq_nil_iff.mp h)
        have hne : x ≠ '/' := fun he => hslash (by simp [hx, he])
        cases rest with
        | nil => simp [hx, hne]
        | cons d rest => simp [String.intercalate_cons_cons, hx, hne]
    rw [toList_text hp, List.takeWhile_cons_of_pos (by decide), hfirst]
    rfl
  have hanchor : (ofText p.text).anchor = p.anchor := by
    change anchorOf _ = _
    rw [hslashes, hp]
    rfl
  calc ofText p.text = ⟨(ofText p.text).anchor, (ofText p.text).parts⟩ := rfl
    _ = ⟨p.anchor, p.parts⟩ := by rw [hanchor, hnames]

/-- The path is at the usual top, and its components are file names that a text can name. -/
structure IsNormal (p : Path) : Prop where
  anchor_top : p.anchor = .top
  named : ∀ c ∈ p.parts, IsPart c ∧ c ≠ up ∧ partFault? c = none

namespace IsNormal

variable (h : p.IsNormal)
include h

theorem ofText_text : ofText p.text = p :=
  Path.ofText_text h.anchor_top fun c hc => (h.named c hc).1

theorem resolve_eq : p.resolve workingFolder = .ok p := by
  have hparts : p.absoluteParts workingFolder = p.parts := by
    rw [absoluteParts, h.anchor_top]
  have hup : up ∉ p.parts := fun hmem => (h.named up hmem).2.1 rfl
  refine resolve_eq_ok_iff.mpr ⟨fun c hc => ?_, h.anchor_top, ?_⟩
  · exact (h.named c (hparts ▸ hc)).2.2
  · rw [settle, hparts, follow_of_not_mem hup, List.nil_append]

end IsNormal

/-- What is resolved from components that a text can name is normal. -/
theorem isNormal_of_resolve (hparts : ∀ c ∈ p.absoluteParts workingFolder, IsPart c)
    (h : p.resolve workingFolder = .ok q) : q.IsNormal := by
  obtain ⟨hfaults, hanchor, hplace⟩ := resolve_eq_ok_iff.mp h
  have hup : up ∉ q.parts := by
    rw [hplace]
    exact not_mem_follow List.not_mem_nil _
  refine ⟨hanchor, fun c hc => ?_⟩
  have hmem : c ∈ p.absoluteParts workingFolder := by
    rw [hplace] at hc
    rcases mem_of_mem_follow hc with hc | hc
    · cases hc
    · exact hc
  exact ⟨hparts c hmem, fun he => hup (he ▸ hc), hfaults c hmem⟩

/-! ### Blanks at the end -/

/-- The text of the path ends in a blank. -/
def EndsBlank (p : Path) : Prop := ∃ c, p.text.toList.getLast? = some c ∧ Text.isBlankChar c = true

instance (p : Path) : Decidable p.EndsBlank :=
  decidable_of_iff (p.text.toList.getLast?.any Text.isBlankChar = true) (by
    rw [Option.any_eq_true]
    rfl)

/-- The text of a path is not blank, and it is trimmed at its end only. -/
theorem trim_text (hp : p.anchor = .top) :
    (Text.trim p.text).toList = p.text.toList.rdropWhile Text.isBlankChar := by
  rw [Text.trim, String.toList_ofList, toList_text hp, Text.trimList_of_head (by decide)]

theorem isBlank_text (hp : p.anchor = .top) : Text.isBlank p.text = false := by
  rw [Text.isBlank, toList_text hp]
  rfl

theorem head?_trim_text (hp : p.anchor = .top) :
    (Text.trim p.text).toList.head? = some '/' := by
  rw [trim_text hp, toList_text hp]
  have hpre := List.rdropWhile_prefix Text.isBlankChar ('/' :: ("/".intercalate p.parts).toList)
  cases hkept : ('/' :: ("/".intercalate p.parts).toList).rdropWhile Text.isBlankChar with
  | nil =>
    have hblank := List.rdropWhile_eq_nil_iff.mp hkept '/' List.mem_cons_self
    exact absurd hblank (by decide)
  | cons c cs =>
    rw [hkept] at hpre
    rw [List.head?_cons, (List.cons_prefix_cons.mp hpre).1]

/-- The text of a path that does not end in a blank is trimmed already. -/
theorem trim_text_of_not_endsBlank (hp : p.anchor = .top) (h : ¬ p.EndsBlank) :
    Text.trim p.text = p.text := by
  apply String.toList_injective
  rw [trim_text hp, List.rdropWhile_eq_self_iff]
  intro hne hblank
  exact h ⟨_, List.getLast?_eq_some_getLast hne, hblank⟩

/-! ### What is lost with a blank -/

/-- The number of characters in components. -/
def weight : (parts : List String) → Nat
  | [] => 0
  | c :: parts => c.toList.length + weight parts

theorem weight_append (parts rest : List String) :
    weight (parts ++ rest) = weight parts + weight rest := by
  induction parts with
  | nil => exact (Nat.zero_add _).symm
  | cons c parts ih =>
    rw [List.cons_append, weight, weight, ih, Nat.add_assoc]

theorem weight_dropLast_le (parts : List String) : weight parts.dropLast ≤ weight parts := by
  rcases List.eq_nil_or_concat' parts with rfl | ⟨front, c, rfl⟩
  · exact Nat.le_refl _
  · rw [List.dropLast_concat, weight_append]
    omega

/-- Following components adds no characters to theirs. -/
theorem weight_follow_le (start parts : List String) :
    weight (follow start parts) ≤ weight start + weight parts := by
  induction parts generalizing start with
  | nil => exact Nat.le_add_right _ _
  | cons c parts ih =>
    have hsplit : weight (c :: parts) = weight [c] + weight parts := weight_append [c] parts
    have hrest := ih (if c = up then start.dropLast else start ++ [c])
    rw [follow_cons]
    by_cases hc : c = up
    · have hdrop := weight_dropLast_le start
      simp only [hc, if_true] at hrest hsplit ⊢
      omega
    · have hadd := weight_append start [c]
      simp only [hc, if_false] at hrest ⊢
      omega

theorem countP_of_not_mem {cs : List Char} (h : '/' ∉ cs) : cs.countP (· != '/') = cs.length := by
  rw [List.countP_eq_length]
  intro x hx
  exact bne_iff_ne.mpr fun he => h (he ▸ hx)

/-- The names in characters have no more characters than these, slashes apart. -/
theorem weight_names_le {cs : List Char} {parts : List String} (h : Spells cs parts) :
    weight parts ≤ cs.countP (· != '/') := by
  have hname : ∀ {stretch : List Char}, '/' ∉ stretch →
      weight (nameIn stretch) ≤ stretch.countP (· != '/') := by
    intro stretch hslash
    have hall := countP_of_not_mem hslash
    unfold nameIn
    by_cases hdropped : stretch = [] ∨ stretch = ['.']
    · simp [hdropped, weight]
    · simp [hdropped, weight, hall]
  induction h with
  | last hslash => exact hname hslash
  | more hslash _ ih =>
    rw [weight_append, List.countP_append, List.countP_cons_of_neg (by decide)]
    exact Nat.add_le_add (hname hslash) ih

theorem countP_text (hp : p.IsNormal) : p.text.toList.countP (· != '/') = weight p.parts := by
  have hwritten : ∀ {parts : List String}, (∀ c ∈ parts, IsPart c) →
      ("/".intercalate parts).toList.countP (· != '/') = weight parts := by
    intro parts hparts
    induction parts with
    | nil => rfl
    | cons c parts ih =>
      obtain ⟨hc, hrest⟩ := List.forall_mem_cons.mp hparts
      have hall : c.toList.countP (· != '/') = weight [c] := by
        simpa [weight] using countP_of_not_mem hc.2.2
      have hsplit : weight (c :: parts) = weight [c] + weight parts := weight_append [c] parts
      cases parts with
      | nil => rw [String.intercalate_singleton, hall]
      | cons d parts =>
        rw [hsplit, ← ih hrest, String.intercalate_cons_cons]
        simp [hall]
  rw [toList_text hp.anchor_top, List.countP_cons_of_neg (by decide),
    hwritten fun c hc => (hp.named c hc).1]

/-- Trimming a text that ends in a blank takes characters of names away. -/
theorem countP_trim_lt (hp : p.anchor = .top) (h : p.EndsBlank) :
    (Text.trim p.text).toList.countP (· != '/') < p.text.toList.countP (· != '/') := by
  obtain ⟨c, hlast, hblank⟩ := h
  obtain ⟨front, hfront⟩ := List.getLast?_eq_some_iff.mp hlast
  have hne : c ≠ '/' := by
    rintro rfl
    exact absurd hblank (by decide)
  have hdrop : (Text.trim p.text).toList = front.rdropWhile Text.isBlankChar := by
    rw [trim_text hp, hfront, List.rdropWhile_concat_pos _ _ _ hblank]
  calc (Text.trim p.text).toList.countP (· != '/')
      = (front.rdropWhile Text.isBlankChar).countP (· != '/') := by rw [hdrop]
    _ ≤ front.countP (· != '/') := (List.rdropWhile_prefix _ front).sublist.countP_le
    _ < p.text.toList.countP (· != '/') := by simp [hfront, hne]

/-- A normal path whose trimmed text leads to it does not end in a blank. -/
theorem not_endsBlank_of_follow (hp : p.IsNormal)
    (h : follow [] (names (Text.trim p.text).toList) = p.parts) : ¬ p.EndsBlank := by
  intro hblank
  have hfollowed := weight_follow_le [] (names (Text.trim p.text).toList)
  have hnames := weight_names_le (spells_names (Text.trim p.text).toList)
  have hlost := countP_trim_lt hp.anchor_top hblank
  have htext := countP_text hp
  have hnil : weight [] = 0 := rfl
  rw [h] at hfollowed
  omega

end Path

end SchemaDepot
