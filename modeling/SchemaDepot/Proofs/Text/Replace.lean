/-
# Replacing a text in another

Replacing goes through a text once, from left to right, and puts one text in the
place of another wherever it stands; what was put in is not looked at again. The
empty text stands before every character and at the end.

Key definition: `Text.replaceAll`.
Key theorems: `Text.replaceFrom_append`, `Text.replaceFrom_word`,
`Text.toList_replaceAll`.
-/
import SchemaDepot.Proofs.Text.Standing

namespace SchemaDepot.Text

/-- The characters with `new` wherever `old` stands; `skip` characters are still to be
passed over. -/
def replaceFrom (old new : List Char) : (skip : Nat) → List Char → List Char
  | _, [] => []
  | skip + 1, _ :: cs => replaceFrom old new skip cs
  | 0, c :: cs =>
    if old.isPrefixOf (c :: cs) then new ++ replaceFrom old new (old.length - 1) cs
    else c :: replaceFrom old new 0 cs

/-- The text with `new` wherever `old` stands. -/
def replaceAll (s old new : String) : String :=
  if old.isEmpty then String.ofList (new.toList ++ s.toList.flatMap fun c => c :: new.toList)
  else String.ofList (replaceFrom old.toList new.toList 0 s.toList)

theorem toList_replaceAll {s old new : String} (h : old.toList ≠ []) :
    (replaceAll s old new).toList = replaceFrom old.toList new.toList 0 s.toList := by
  have hne : old.isEmpty = false := by
    rw [Bool.eq_false_iff, ne_eq, String.isEmpty_iff]
    rintro rfl
    exact h rfl
  rw [replaceAll, hne]
  simp

theorem replaceFrom_skip (old new : List Char) : ∀ (n : Nat) (cs : List Char),
    replaceFrom old new n cs = replaceFrom old new 0 (cs.drop n)
  | 0, _ => by rw [List.drop_zero]
  | n + 1, [] => rfl
  | n + 1, c :: cs => by rw [replaceFrom, replaceFrom_skip old new n cs, List.drop_succ_cons]

/-- Where the text to be replaced stands, the new one is put. -/
theorem replaceFrom_word {old : List Char} (h : old ≠ []) (new cs : List Char) :
    replaceFrom old new 0 (old ++ cs) = new ++ replaceFrom old new 0 cs := by
  obtain ⟨c, old', rfl⟩ := List.exists_cons_of_ne_nil h
  have hpre : (c :: old').isPrefixOf (c :: (old' ++ cs)) = true :=
    List.isPrefixOf_iff_prefix.mpr (List.prefix_append (c :: old') cs)
  rw [List.cons_append, replaceFrom, if_pos hpre, replaceFrom_skip, List.length_cons,
    Nat.add_sub_cancel, List.drop_left]

/-- Characters at which the text to be replaced does not stand are kept. -/
theorem replaceFrom_append {old : List Char} (new : List Char) : ∀ {xs ys : List Char},
    (∀ n, n < xs.length → ¬ StandsAt (xs ++ ys) old n) →
      replaceFrom old new 0 (xs ++ ys) = xs ++ replaceFrom old new 0 ys
  | [], _, _ => rfl
  | x :: xs, ys, h => by
    have h0 : ¬ old.isPrefixOf (x :: (xs ++ ys)) = true := fun hp =>
      h 0 (Nat.zero_lt_succ _) (List.isPrefixOf_iff_prefix.mp hp)
    rw [List.cons_append, replaceFrom, if_neg h0, replaceFrom_append new fun n hn hs =>
      h (n + 1) (Nat.succ_lt_succ hn) hs]
    rfl

theorem replaceFrom_of_not_infix {old : List Char} (new : List Char) {cs : List Char}
    (h : ¬ old <:+: cs) : replaceFrom old new 0 cs = cs := by
  have hout : ∀ n, n < cs.length → ¬ StandsAt (cs ++ []) old n := fun n _ hs =>
    h (by simpa using hs.isInfix)
  calc replaceFrom old new 0 cs
      = replaceFrom old new 0 (cs ++ []) := by rw [List.append_nil]
    _ = cs ++ replaceFrom old new 0 [] := replaceFrom_append new hout
    _ = cs := by rw [replaceFrom, List.append_nil]

end SchemaDepot.Text
