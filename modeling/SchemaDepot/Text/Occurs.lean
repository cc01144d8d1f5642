/-
# Occurrences in a text

A text occurs in another when it stands at one of its positions. The empty text
occurs everywhere.

A text is split at every occurrence of a character; between two neighbouring
occurrences stands the empty text. `cut?` splits at the first one only.

Key definitions: `Text.occurs`, `Text.contains`, `Text.splitAll`, `Text.cut?`.
Key theorems: `Text.occurs_iff_infix`, `Text.cut?_eq_some_iff`.
-/

namespace SchemaDepot.Text

/-! ### Of texts -/

/-- The characters `t` stand at some position. -/
def occurs (t : List Char) : List Char → Bool
  | [] => t.isEmpty
  | c :: cs => t.isPrefixOf (c :: cs) || occurs t cs

/-- The text `part` stands somewhere in `whole`. -/
def contains (whole part : String) : Bool := occurs part.toList whole.toList

/-- Occurring is being a part of consecutive characters. -/
theorem occurs_iff_infix {t : List Char} : ∀ {cs : List Char}, occurs t cs = true ↔ t <:+: cs
  | [] => by simp [occurs]
  | c :: cs => by
    rw [occurs, Bool.or_eq_true, occurs_iff_infix, List.isPrefixOf_iff_prefix, List.infix_cons_iff]

/-! ### Of a character -/

/-- The stretches between the occurrences of a character. -/
def splitAll (sep : Char) : List Char → List (List Char)
  | [] => [[]]
  | c :: cs =>
    if c = sep then [] :: splitAll sep cs
    else match splitAll sep cs with
      | [] => [[c]]
      | first :: rest => (c :: first) :: rest

/-- What stands before and after the first occurrence of a character. -/
def cut? (sep : Char) : List Char → Option (List Char × List Char)
  | [] => none
  | c :: cs => if c = sep then some ([], cs) else (cut? sep cs).map fun r => (c :: r.1, r.2)

/-- A cut splits the text at its first separator. -/
theorem cut?_eq_some_iff {sep : Char} : ∀ {cs before after : List Char},
    cut? sep cs = some (before, after) ↔ cs = before ++ sep :: after ∧ sep ∉ before
  | [], before, after => by simp [cut?]
  | c :: cs, before, after => by
    unfold cut?
    by_cases h : c = sep
    · subst h
      cases before with
      | nil => simp
      | cons b bs =>
        simp only [if_true, Option.some.injEq, Prod.mk.injEq, List.cons_append, List.cons.injEq,
          List.mem_cons, not_or, reduceCtorEq, false_and, false_iff, not_and]
        rintro ⟨rfl, _⟩ h
        exact absurd rfl h
    · simp only [h, if_false, Option.map_eq_some_iff, Prod.mk.injEq, Prod.exists]
      constructor
      · rintro ⟨b, a, hcut, rfl, rfl⟩
        obtain ⟨rfl, hb⟩ := cut?_eq_some_iff.mp hcut
        exact ⟨rfl, by simp [hb, Ne.symm h]⟩
      · rintro ⟨heq, hb⟩
        cases before with
        | nil =>
          simp only [List.nil_append, List.cons.injEq] at heq
          exact absurd heq.1 h
        | cons b bs =>
          simp only [List.cons_append, List.cons.injEq] at heq
          obtain ⟨rfl, rfl⟩ := heq
          simp only [List.mem_cons, not_or] at hb
          exact ⟨bs, after, cut?_eq_some_iff.mpr ⟨rfl, hb.2⟩, rfl, rfl⟩

end SchemaDepot.Text
