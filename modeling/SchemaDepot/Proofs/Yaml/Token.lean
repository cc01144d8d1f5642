/-
# How finding tokens can fail

Whatever the characters of a document are, tokens are found to its end or to a fault.
A fault is one of the document, or it says that a value is unsuitable: a number that is
too long, or an escape for what is no code point. It is never an error of another kind
(`Yaml.proper_of_tokens`).

Key definitions: `Yaml.Fault.Proper`, `Yaml.Sound`.
Key theorems: `Yaml.Lexer.next_sound`, `Yaml.proper_of_tokens`.
-/
import SchemaDepot.Proofs.Value
import SchemaDepot.Yaml.Token.Lexer

namespace SchemaDepot

open Outcome

namespace Yaml

/-- If the fault is an error, it says that a value is unsuitable. -/
def Fault.Proper : Fault → Prop
  | .unsuitable e => e.isUnsuitable = true
  | _ => True

/-- Reading fails with proper faults only. -/
abbrev Sound {α : Type} (x : Except Fault α) : Prop := FailsOnly Fault.Proper x

theorem demand_sound (condition : Bool) : Sound (demand condition) :=
  .ite (.ok _) (.error trivial)

/-! ### Names, tags and directives -/

theorem readName_sound (c : Cursor) : Sound (readName c) :=
  (demand_sound _).bind fun _ => .ok _

theorem readAnchor_sound (c : Cursor) : Sound (readAnchor c) :=
  (readName_sound _).bind fun _ => (demand_sound _).bind fun _ => .ok _

theorem readHandle_sound (c : Cursor) : Sound (readHandle c) :=
  (demand_sound _).bind fun _ => .ite (.ok _) ((demand_sound _).bind fun _ => .ok _)

theorem readEscapedBytes_sound (fuel : Nat) (c : Cursor) : Sound (readEscapedBytes fuel c) := by
  induction fuel generalizing c with
  | zero => exact .ok _
  | succ fuel ih =>
    exact .ite ((demand_sound _).bind fun _ => (ih _).bind fun _ => .ok _) (.ok _)

theorem readSuffixChars_sound (fuel : Nat) (c : Cursor) : Sound (readSuffixChars fuel c) := by
  induction fuel generalizing c with
  | zero => exact .ok _
  | succ fuel ih =>
    refine .ite (.ok _) (.ite ((readEscapedBytes_sound _ _).bind fun a => ?_) ?_)
    · dsimp only
      split
      · exact .error trivial
      · exact (ih _).bind fun _ => .ok _
    · exact (ih _).bind fun _ => .ok _

theorem readSuffix_sound (c : Cursor) : Sound (readSuffix c) :=
  (demand_sound _).bind fun _ => (readSuffixChars_sound _ _).bind fun _ => .ok _

theorem readTag_sound (c : Cursor) : Sound (readTag c) := by
  have hend : ∀ {x : Except Fault ((Option String × String) × Cursor)}, Sound x → Sound (do
      let read ← x
      demand (isSpaceOrEnd read.2.peek)
      .ok (read.1, read.2)) := fun hx => hx.bind fun _ => (demand_sound _).bind fun _ => .ok _
  unfold readTag
  refine .ite ?_ (.ite ?_ (.ite ?_ ?_))
  · refine (readSuffix_sound _).bind fun _ => ?_
    exact (demand_sound _).bind fun _ => hend (.ok _)
  · exact hend (.ok _)
  · refine (readHandle_sound _).bind fun _ => ?_
    exact (readSuffix_sound _).bind fun _ => hend (.ok _)
  · refine (FailsOnly.ok _).bind fun _ => ?_
    exact (readSuffix_sound _).bind fun _ => hend (.ok _)

theorem readVersionNumber_sound (c : Cursor) : Sound (readVersionNumber c) := by
  unfold readVersionNumber
  refine (demand_sound _).bind fun _ => ?_
  split
  · exact .ok _
  · rename_i hread
    exact .error ((Decimal.read_suits _).error_of hread)

theorem readVersion_sound (c : Cursor) : Sound (readVersion c) := by
  refine (readVersionNumber_sound _).bind fun _ => ?_
  refine (demand_sound _).bind fun _ => ?_
  refine (readVersionNumber_sound _).bind fun _ => ?_
  exact (demand_sound _).bind fun _ => .ok _

theorem readHandleMeaning_sound (c : Cursor) : Sound (readHandleMeaning c) := by
  refine (readHandle_sound _).bind fun _ => ?_
  refine (demand_sound _).bind fun _ => ?_
  refine (readSuffix_sound _).bind fun _ => ?_
  exact (demand_sound _).bind fun _ => .ok _

theorem readDirective_sound (c : Cursor) : Sound (readDirective c) := by
  have hend : ∀ {x : Except Fault (Directive × Cursor)}, Sound x → Sound (do
      let read ← x
      demand (isBreakOrEnd read.2.skipComment.peek)
      .ok (read.1, read.2.skipComment.lineBreak.2)) :=
    fun hx => hx.bind fun _ => (demand_sound _).bind fun _ => .ok _
  unfold readDirective
  refine (readName_sound _).bind fun _ => ?_
  refine (demand_sound _).bind fun _ => ?_
  exact .ite (hend (readVersion_sound _)) (.ite (hend (readHandleMeaning_sound _)) (hend (.ok _)))

/-! ### Scalars -/

theorem charOf_sound (code : Nat) : Sound (charOf code) :=
  .ite (.error rfl) (.ite (.error rfl) (.ok _))

theorem quotedBreaks_sound (fuel : Nat) (c : Cursor) : Sound (quotedBreaks fuel c) := by
  induction fuel generalizing c with
  | zero => exact .ok _
  | succ fuel ih =>
    refine (demand_sound _).bind fun _ => ?_
    exact .ite ((ih _).bind fun _ => .ok _) (.ok _)

theorem readEscape_sound (c : Cursor) : Sound (readEscape c) := by
  unfold readEscape
  split
  · exact .ok _
  · split
    · refine (demand_sound _).bind fun _ => ?_
      exact (charOf_sound _).bind fun _ => .ok _
    · exact .ite (quotedBreaks_sound _ _) (.error trivial)

theorem quotedRun_sound (double : Bool) (fuel : Nat) (c : Cursor) :
    Sound (quotedRun double fuel c) := by
  induction fuel generalizing c with
  | zero => exact .ok _
  | succ fuel ih =>
    refine .ite ?_ (.ite ?_ (.ite ?_ (.ok _)))
    · exact (ih _).bind fun _ => .ok _
    · exact (ih _).bind fun _ => .ok _
    · refine (readEscape_sound _).bind fun _ => ?_
      exact (ih _).bind fun _ => .ok _

theorem quotedGap_sound (c : Cursor) : Sound (quotedGap c) := by
  refine (demand_sound _).bind fun _ => ?_
  exact .ite ((quotedBreaks_sound _ _).bind fun _ => .ok _) (.ok _)

theorem quotedRest_sound (double : Bool) (quote : Char) (fuel : Nat) (c : Cursor) :
    Sound (quotedRest double quote fuel c) := by
  induction fuel generalizing c with
  | zero => exact .error trivial
  | succ fuel ih =>
    refine .ite (.ok _) ?_
    refine (quotedGap_sound _).bind fun _ => ?_
    refine (quotedRun_sound _ _ _).bind fun _ => ?_
    exact (ih _).bind fun _ => .ok _

theorem readQuoted_sound (double : Bool) (c : Cursor) : Sound (readQuoted double c) := by
  refine (quotedRun_sound _ _ _).bind fun _ => ?_
  exact (quotedRest_sound _ _ _ _).bind fun _ => .ok _

theorem readBlockHeader_sound (c : Cursor) : Sound (readBlockHeader c) := by
  have hdigit : ∀ c, Sound (readIndentDigit c) := fun _ => .ite (.ite (.error trivial) (.ok _)) (.ok _)
  refine (hdigit _).bind fun _ => ?_
  exact (demand_sound _).bind fun _ => .ok _

theorem readBlock_sound (folded : Bool) (parent : Int) (c : Cursor) :
    Sound (readBlock folded parent c) := by
  refine (readBlockHeader_sound _).bind fun _ => ?_
  exact (demand_sound _).bind fun _ => .ok _

/-! ### Tokens -/

namespace Lexer

variable (l : Lexer)

theorem dropStale_sound : Sound l.dropStale := (demand_sound _).bind fun _ => .ok _

theorem dropKey_sound : Sound l.dropKey := (demand_sound _).bind fun _ => .ok _

theorem saveKey_sound : Sound l.saveKey := .ite ((dropKey_sound l).bind fun _ => .ok _) (.ok _)

theorem directive_sound : Sound l.directive := by
  refine (dropKey_sound _).bind fun _ => ?_
  exact (readDirective_sound _).bind fun _ => .ok _

theorem closeFlow_sound (t : Token) : Sound (l.closeFlow t) := by
  refine (dropKey_sound _).bind fun _ => ?_
  exact (demand_sound _).bind fun _ => .ok _

theorem blockEntry_sound : Sound l.blockEntry := by
  refine (demand_sound _).bind fun _ => ?_
  exact (dropKey_sound _).bind fun _ => .ok _

theorem key_sound : Sound l.key := by
  refine (demand_sound _).bind fun _ => ?_
  exact (dropKey_sound _).bind fun _ => .ok _

theorem value_sound : Sound l.value := by
  unfold value
  split
  · exact .ok _
  · refine (demand_sound _).bind fun _ => ?_
    exact (dropKey_sound _).bind fun _ => .ok _

theorem property_sound {read : Cursor → Except Fault (Token × Cursor)}
    (hread : ∀ c, Sound (read c)) : Sound (l.property read) := by
  refine (saveKey_sound _).bind fun _ => ?_
  exact (hread _).bind fun _ => .ok _

theorem block_sound (folded : Bool) : Sound (l.block folded) := by
  refine (dropKey_sound _).bind fun _ => ?_
  exact (readBlock_sound _ _ _).bind fun _ => .ok _

theorem plain_sound : Sound l.plain := (saveKey_sound _).bind fun _ => .ok _

/-- Each token is found or missed with a proper fault. -/
theorem next_sound : Sound l.next := by
  have hanchor : ∀ (t : String → Token) (c : Cursor), Sound (do
      let read ← readAnchor c
      Except.ok (t read.1, read.2)) := fun _ _ => (readAnchor_sound _).bind fun _ => .ok _
  have htag : ∀ c : Cursor, Sound (do
      let read ← readTag c
      Except.ok (Token.tag read.1.1 read.1.2, read.2)) := fun _ =>
    (readTag_sound _).bind fun _ => .ok _
  have hquoted : ∀ (double : Bool) (c : Cursor), Sound (do
      let read ← readQuoted double c
      Except.ok (Token.scalar read.1 false, read.2)) := fun _ _ =>
    (readQuoted_sound _ _).bind fun _ => .ok _
  have hdrop : ∀ (l : Lexer) (f : Lexer → Lexer), Sound (do let l ← l.dropKey; Except.ok (f l)) :=
    fun l _ => (dropKey_sound l).bind fun _ => .ok _
  have hsave : ∀ (l : Lexer) (f : Lexer → Lexer), Sound (do let l ← l.saveKey; Except.ok (f l)) :=
    fun l _ => (saveKey_sound l).bind fun _ => .ok _
  unfold next
  refine (dropStale_sound _).bind fun l => ?_
  refine .ite (hdrop _ _) (.ite (directive_sound _) ?_)
  refine .ite (hdrop _ _) (.ite (hdrop _ _) ?_)
  refine .ite (hsave _ _) (.ite (hsave _ _) ?_)
  refine .ite (closeFlow_sound _ _) (.ite (closeFlow_sound _ _) (.ite (hdrop _ _) ?_))
  refine .ite (blockEntry_sound _) (.ite (key_sound _) (.ite (value_sound _) ?_))
  refine .ite (property_sound _ (hanchor _)) (.ite (property_sound _ (hanchor _)) ?_)
  refine .ite (property_sound _ htag) ?_
  refine .ite (block_sound _ _) (.ite (block_sound _ _) ?_)
  exact .ite (property_sound _ (hquoted _)) (.ite (plain_sound _) (.error trivial))

-- the steps are kept shut: opening them here takes long and says nothing
seal next cut in
theorem run_zero : run 0 l = (l.cut, some .malformed) := by exact rfl

seal next cut in
theorem run_succ (fuel : Nat) : run (fuel + 1) l =
    if l.ended then (l, none)
    else match l.next with
      | .ok l => run fuel l
      | .error fault => (l.cut, some fault) := by exact rfl

/-- Tokens are found up to the end or to a proper fault. -/
theorem proper_of_run {fuel : Nat} {l l' : Lexer} {fault : Fault}
    (h : run fuel l = (l', some fault)) : fault.Proper := by
  induction fuel generalizing l with
  | zero =>
    rw [run_zero, Prod.mk.injEq, Option.some.injEq] at h
    rw [← h.2]
    trivial
  | succ fuel ih =>
    rw [run_succ] at h
    split at h
    · simp at h
    · split at h
      · exact ih h
      · rename_i hnext
        rw [Prod.mk.injEq, Option.some.injEq] at h
        rw [← h.2]
        exact (next_sound l).error_of hnext

end Lexer

/-- Whatever the characters are, a fault after their tokens is proper. -/
theorem proper_of_tokens {cs : List Char} {ts : List Token} {fault : Fault}
    (h : tokens cs = (ts, some fault)) : fault.Proper := by
  unfold tokens at h
  cases hrun : Lexer.run (cs.length + 2) (.start cs) with
  | mk l fault? =>
    rw [hrun] at h
    simp only [Prod.mk.injEq] at h
    obtain ⟨-, rfl⟩ := h
    exact Lexer.proper_of_run hrun

end Yaml

end SchemaDepot
