/-
# How reading a document can fail

Whatever the characters of a document are, it is read, or there is a fault: the document
is malformed, a key comes twice, or a value is unsuitable. There is no other way for
reading to fail (`Yaml.read_sound`).

The nodes are built by operations that call one another and hand on what comes behind
the last token. What is proved of all of them for less fuel is proved of each for more
(`Yaml.Builder.Builds`).

Key definitions: `Yaml.Plain`, `Yaml.Builder.Proper`, `Yaml.Builder.Builds`.
Key theorems: `Yaml.scalarValue_plain`, `Yaml.Builder.builds`, `Yaml.Reading.visit_sound`,
`Yaml.read_sound`.
-/
import SchemaDepot.Proofs.Yaml.Token
import SchemaDepot.Yaml.Document

namespace SchemaDepot.Yaml

open Outcome

/-! ### Scalars -/

/-- The fault is not that a key comes twice, and it is proper. -/
def Fault.Plain : Fault → Prop
  | .unsuitable e => e.isUnsuitable = true
  | .malformed => True
  | .repeatedKey _ => False

/-- Reading fails with plain faults only. -/
abbrev Plain {α : Type} (x : Except Fault α) : Prop := FailsOnly Fault.Plain x

theorem Plain.sound {α : Type} {x : Except Fault α} (hx : Plain x) : Sound x where
  error_of {fault} he := by
    have hplain := hx.error_of he
    cases fault with
    | unsuitable e => exact hplain
    | malformed | repeatedKey => trivial
  ok_of _ := trivial

theorem readNumeral_plain (base : Nat) (cs : List Char) : Plain (readNumeral base cs) := by
  have hsize : ∀ ds : List Char, Suits (if base = 10 then Decimal.read ds
      else .ok (Decimal.valueIn base ds)) := fun ds => .ite (Decimal.read_suits ds) (.ok _)
  unfold readNumeral
  dsimp only
  split
  · rename_i hread
    exact .error ((hsize _).error_of hread)
  · exact .ite (.error rfl) (.ok _)

theorem readInteger_plain (text : String) : Plain (readInteger text) := by
  unfold readInteger
  refine .ite (.error rfl) ?_
  dsimp only
  split
  · exact .error rfl
  · exact (readNumeral_plain _ _).map _
  · exact (readNumeral_plain _ _).map _
  · refine .ite (.ok _) (.ite ((readNumeral_plain _ _).map _) (.ite ?_ ?_))
    · exact (FailsOnly.mapM (readNumeral_plain 10) _).bind fun _ => .ok _
    · exact (readNumeral_plain _ _).map _

theorem readFloat_plain (cs : List Char) : Plain (readFloat cs) := by
  unfold readFloat
  split
  · exact .ok _
  · exact .error rfl

theorem sumSixties_plain (base : Nat) (sum : Binary64) (xs : List Binary64) :
    Plain (sumSixties base sum xs) := by
  induction xs generalizing base sum with
  | nil => exact .ok _
  | cons x xs ih =>
    unfold sumSixties
    split
    · exact .error rfl
    · exact ih _ _

theorem readDecimal_plain (text : String) : Plain (readDecimal text) := by
  unfold readDecimal
  refine .ite (.error rfl) (.ite (.ok _) (.ite (.ok _) (.ite ?_ ?_)))
  · refine (FailsOnly.mapM readFloat_plain _).bind fun _ => ?_
    exact (sumSixties_plain _ _ _).bind fun _ => .ok _
  · exact (readFloat_plain _).map _

theorem ofCalendar_plain {α : Type} (x : Except CalendarFault α) : Plain (ofCalendar x) := by
  cases x with
  | ok a => exact .ok _
  | error fault => exact .error rfl

theorem readMoment_plain (text : String) : Plain (readMoment text) := by
  unfold readMoment
  dsimp only
  split
  · exact .error rfl
  · refine .ite ((ofCalendar_plain _).map _) ?_
    split
    · exact .error rfl
    · split
      · exact .error rfl
      · exact .ite (.error rfl) ((ofCalendar_plain _).map _)

theorem scalarValue_plain (tag : Tag) (text : String) : Plain (scalarValue tag text) := by
  cases tag with
  | text | nothing => exact .ok _
  | integer => exact (readInteger_plain _).map _
  | decimal => exact (readDecimal_plain _).map _
  | truth =>
    have hread : Plain (readTruth text) := .ite (.ok _) (.ite (.ok _) (.error rfl))
    exact hread.map _
  | moment => exact readMoment_plain _
  | bytes =>
    refine .ite (.error trivial) ?_
    split
    · exact .ok _
    · exact .error trivial
  | mapping | sequence | set | pairs | default | unknown => exact .error trivial

/-! ### Nodes -/

namespace Builder

variable {b : Builder}

/-- The fault behind the tokens, if there is one, is proper. -/
def Proper (b : Builder) : Prop := ∀ fault, b.fault? = some fault → fault.Proper

/-- Something is taken from the tokens, and the fault behind them stays proper. -/
def Takes {α : Type} (x : Except Fault (α × Builder)) : Prop :=
  Ends Fault.Proper (fun r => r.2.Proper) x

theorem Takes.ok {α : Type} (a : α) (hb : b.Proper) : Takes (.ok (a, b)) := Ends.ok hb

theorem Takes.malformed {α : Type} : Takes (.error .malformed : Except Fault (α × Builder)) :=
  Ends.error trivial

theorem refuse_ends {α : Type} {Q : α → Prop} (hb : b.Proper) :
    Ends Fault.Proper Q (b.refuse : Except Fault α) := by
  unfold refuse
  refine .ite (fun _ => .error ?_) fun _ => .error trivial
  cases hfault : b.fault? with
  | none => trivial
  | some fault => exact hb fault hfault

theorem expectMore_sound (hb : b.Proper) : Sound b.expectMore :=
  .ite (refuse_ends hb) (.ok _)

theorem take_ends (hb : b.Proper) (t : Token) : Ends Fault.Proper Proper (b.take t) :=
  .ite (fun _ => .ok hb) fun _ => refuse_ends hb

theorem give_ends (hb : b.Proper) (name : String) : Ends Fault.Proper Proper (b.give name) :=
  .ite (fun _ => .error trivial) fun _ => .ok hb

theorem tagName?_sound (handle? : Option String) (suffix : String) :
    Sound (b.tagName? handle? suffix) := by
  unfold tagName?
  dsimp only
  split
  · exact .ok _
  · split
    · exact .ok _
    · exact .error trivial

theorem properties_proper (hb : b.Proper) : b.properties.2.Proper := by
  unfold properties
  split <;> exact hb

/-- Everything that is built with some fuel is taken. -/
structure Builds (fuel : Nat) : Prop where
  node : ∀ setting b, Proper b → Takes (node setting fuel b)
  content : ∀ setting props tag? b, Proper b → Takes (content setting props tag? fuel b)
  nodeUnless : ∀ ends setting b, Proper b → Takes (nodeUnless ends setting fuel b)
  blockSequence : ∀ b, Proper b → Takes (blockSequence fuel b)
  plainSequence : ∀ b, Proper b → Takes (plainSequence fuel b)
  entryValue : ∀ ends setting b, Proper b → Takes (entryValue ends setting fuel b)
  blockMapping : ∀ b, Proper b → Takes (blockMapping fuel b)
  flowSequence : ∀ first b, Proper b → Takes (flowSequence first fuel b)
  flowMapping : ∀ first b, Proper b → Takes (flowMapping first fuel b)

section

variable {fuel : Nat} (ih : Builds fuel) (hb : b.Proper)
include ih hb

theorem node_takes (setting : Setting) : Takes (node setting (fuel + 1) b) := by
  unfold node
  split
  · exact .ite (fun _ => .ok hb) fun _ => .error trivial
  · refine .ite (fun _ => .error rfl) fun _ => ?_
    have hproperties := properties_proper hb
    generalize b.properties = r at hproperties ⊢
    obtain ⟨⟨anchor?, given?⟩, b⟩ := r
    refine .check (expectMore_sound hproperties) ?_
    -- what comes after the tag; `x` is the builder that holds the name, if there is one
    have hafter : ∀ {x : Except Fault Builder}, Ends Fault.Proper Proper x →
        ∀ tag? : Option String, Takes (do
          b.expectMore
          let b ← x
          let taken ← content setting ⟨anchor?, given?⟩ tag? fuel { b with depth := b.depth + 1 }
          .ok (withName anchor? taken.1, { taken.2 with depth := b.depth })) := by
      intro x hx tag?
      refine Ends.bind (expectMore_sound hproperties) fun _ _ => hx.bind fun b hb => ?_
      exact (ih.content _ _ _ { b with depth := b.depth + 1 } hb).bind fun _ hb => .ok hb
    cases anchor? with
    | none =>
      have hrest := hafter (.ok hproperties)
      cases given? with
      | none => exact hrest none
      | some tag => exact Ends.bind (tagName?_sound _ _) fun tag? _ => hrest tag?
    | some name =>
      have hrest := hafter (give_ends hproperties name)
      cases given? with
      | none => exact hrest none
      | some tag => exact Ends.bind (tagName?_sound _ _) fun tag? _ => hrest tag?

theorem content_takes (setting : Setting) (props : Properties) (tag? : Option String) :
    Takes (content setting props tag? (fuel + 1) b) := by
  unfold content
  split
  · exact Takes.ok _ hb
  · exact (ih.flowSequence _ b.advance hb).bind fun _ hb => .ok hb
  · exact (ih.flowMapping _ b.advance hb).bind fun _ hb => .ok hb
  · refine .ite (fun _ => ?_) fun _ => .ite (fun _ => ?_) fun _ => .ite (fun _ => ?_) fun _ => ?_
    · exact (ih.plainSequence b hb).bind fun _ hb => .ok hb
    · exact (ih.blockSequence b.advance hb).bind fun _ hb => .ok hb
    · exact (ih.blockMapping b.advance hb).bind fun _ hb => .ok hb
    · exact .ite (fun _ => .ok hb) fun _ => .error trivial
  · exact refuse_ends hb

theorem nodeUnless_takes (ends : List Token) (setting : Setting) :
    Takes (nodeUnless ends setting (fuel + 1) b) := by
  unfold nodeUnless
  exact .ite (fun _ => .ok hb) fun _ => ih.node _ _ hb

theorem blockSequence_takes : Takes (blockSequence (fuel + 1) b) := by
  unfold blockSequence
  refine .ite (fun _ => ?_) fun _ => (take_ends hb _).bind fun b hb => .ok hb
  refine (ih.nodeUnless _ _ b.advance hb).bind fun _ hb => ?_
  exact (ih.blockSequence _ hb).bind fun _ hb => .ok hb

theorem plainSequence_takes : Takes (plainSequence (fuel + 1) b) := by
  unfold plainSequence
  refine .ite (fun _ => ?_) fun _ => .ite (fun _ => refuse_ends hb) fun _ => .ok hb
  refine (ih.nodeUnless _ _ b.advance hb).bind fun _ hb => ?_
  exact (ih.plainSequence _ hb).bind fun _ hb => .ok hb

theorem entryValue_takes (ends : List Token) (setting : Setting) :
    Takes (entryValue ends setting (fuel + 1) b) := by
  unfold entryValue
  exact .ite (fun _ => ih.nodeUnless _ _ b.advance hb) fun _ =>
    .ite (fun _ => refuse_ends hb) fun _ => .ok hb

theorem blockMapping_takes : Takes (blockMapping (fuel + 1) b) := by
  unfold blockMapping
  refine .ite (fun _ => ?_) fun _ => (take_ends hb _).bind fun b hb => .ok hb
  refine (ih.nodeUnless _ _ b.advance hb).bind fun _ hb => ?_
  refine (ih.entryValue _ _ _ hb).bind fun _ hb => ?_
  exact (ih.blockMapping _ hb).bind fun _ hb => .ok hb

theorem flowSequence_takes (first : Bool) : Takes (flowSequence first (fuel + 1) b) := by
  unfold flowSequence
  refine .ite (fun _ => .ok hb) fun _ => ?_
  refine .ite_bind (fun _ => .ok hb) (fun _ => take_ends hb _) fun b hb => ?_
  refine .ite (fun _ => ?_) fun _ => .ite (fun _ => .ok hb) fun _ => ?_
  · refine (ih.nodeUnless _ _ b.advance hb).bind fun _ hb => ?_
    refine (ih.entryValue _ _ _ hb).bind fun _ hb => ?_
    exact (ih.flowSequence _ _ hb).bind fun _ hb => .ok hb
  · refine (ih.node _ b hb).bind fun _ hb => ?_
    exact (ih.flowSequence _ _ hb).bind fun _ hb => .ok hb

theorem flowMapping_takes (first : Bool) : Takes (flowMapping first (fuel + 1) b) := by
  unfold flowMapping
  refine .ite (fun _ => .ok hb) fun _ => ?_
  refine .ite_bind (fun _ => .ok hb) (fun _ => take_ends hb _) fun b hb => ?_
  refine .ite (fun _ => ?_) fun _ => .ite (fun _ => .ok hb) fun _ => ?_
  · refine (ih.nodeUnless _ _ b.advance hb).bind fun _ hb => ?_
    refine (ih.entryValue _ _ _ hb).bind fun _ hb => ?_
    exact (ih.flowMapping _ _ hb).bind fun _ hb => .ok hb
  · refine (ih.node _ b hb).bind fun _ hb => ?_
    exact (ih.flowMapping _ _ hb).bind fun _ hb => .ok hb

end

/-- Whatever fuel there is, what is built is taken. -/
theorem builds (fuel : Nat) : Builds fuel := by
  induction fuel with
  | zero =>
    constructor
    all_goals
      intros
      exact Takes.malformed
  | succ fuel ih =>
    constructor
    case node => exact fun setting _ hb => node_takes ih hb setting
    case content => exact fun setting props tag? _ hb => content_takes ih hb setting props tag?
    case nodeUnless => exact fun ends setting _ hb => nodeUnless_takes ih hb ends setting
    case blockSequence => exact fun _ hb => blockSequence_takes ih hb
    case plainSequence => exact fun _ hb => plainSequence_takes ih hb
    case entryValue => exact fun ends setting _ hb => entryValue_takes ih hb ends setting
    case blockMapping => exact fun _ hb => blockMapping_takes ih hb
    case flowSequence => exact fun first _ hb => flowSequence_takes ih hb first
    case flowMapping => exact fun first _ hb => flowMapping_takes ih hb first

theorem directives_ends (fuel : Nat) (versioned : Bool) (handles : List (String × String))
    (hb : b.Proper) : Ends Fault.Proper Proper (directives fuel versioned handles b) := by
  induction fuel generalizing versioned handles b with
  | zero => exact .error trivial
  | succ fuel ih =>
    unfold directives
    split
    · split
      · exact .ite (fun _ => .error trivial) fun _ => ih _ _ hb
      · exact .ite (fun _ => .error trivial) fun _ => ih _ _ hb
      · exact ih _ _ hb
    · exact .ok hb

theorem document_takes (hb : b.Proper) : Takes b.document := by
  have hmarked : ∀ (fuel : Nat) {f : Builder → Except Fault (Node × Builder)},
      (∀ b, b.Proper → Takes (f b)) → Takes (do
        let b ← directives fuel false [] b
        let b ← b.take .documentStart
        f b) := by
    intro fuel f hf
    exact (directives_ends _ _ _ hb).bind fun b hb => (take_ends hb _).bind hf
  unfold document
  dsimp only
  split
  case h_1 | h_2 =>
    refine hmarked _ fun b hb => ?_
    split
    case h_5 => exact (builds _).node _ b hb
    all_goals exact Takes.ok _ hb
  case h_3 => exact Takes.ok _ hb
  case h_4 => exact (builds _).node _ _ hb

theorem finish_sound (hb : b.Proper) : Sound b.finish := by
  refine .ite (.ok _) ?_
  exact Ends.bind (directives_ends _ _ _ hb) fun _ hb => refuse_ends hb

end Builder

/-- A node is built of the tokens, or there is a proper fault. -/
theorem Node.ofTokens_sound {ts : List Token} {fault? : Option Fault}
    (h : ∀ fault, fault? = some fault → fault.Proper) : Sound (Node.ofTokens ts fault?) :=
  Ends.bind (Builder.document_takes h) fun _ hb =>
    Ends.bind (Builder.finish_sound hb) fun _ _ => .ok trivial

/-! ### Visiting -/

namespace Node

variable (anchors : Anchors)

theorem scalarText_plain (steps : Nat) (n : Node) : Plain (scalarText anchors steps n) := by
  induction steps generalizing n with
  | zero => exact .error rfl
  | succ steps ih =>
    unfold scalarText
    split
    · exact .ok _
    · split
      · exact ih _
      · exact .error trivial
    · exact .error trivial

theorem scalarValue_plain (n : Node) : Plain (n.scalarValue anchors) := by
  refine .ite (.error trivial) ?_
  refine (scalarText_plain anchors _ n).bind fun s => ?_
  exact .ite (.error rfl) (Yaml.scalarValue_plain _ _)

theorem key_plain (n : Node) : Plain (n.key anchors) := by
  refine .ite (.error rfl) ?_
  exact (scalarValue_plain anchors _).bind fun _ => .ok _

end Node

namespace Reading

variable (r : Reading)

theorem meet_plain (n : Node) : Plain (r.meet n) := by
  refine .ite ?_ ((n.resolve r.anchors).scalarValue_plain r.anchors |>.map _)
  split
  · exact .ok _
  · exact .ite (.ok _) (.ok _)

theorem meetAll_plain (ns : List Node) : Plain (r.meetAll ns) := by
  induction ns generalizing r with
  | nil => exact .ok _
  | cons n ns ih => exact (r.meet_plain n).bind fun r => ih r

theorem checkKeys_sound (seen : List Node.Key) (ns : List Node) : Sound (r.checkKeys seen ns) := by
  induction ns generalizing seen with
  | nil => exact .ok _
  | cons n ns ih =>
    refine (n.key_plain r.anchors).sound.bind fun k => .ite ?_ (ih _)
    split
    · exact Ends.error trivial
    · rename_i hshown
      exact .error ((Value.shown_suits _).error_of hshown)

theorem visitMapping_sound (n : Node) : Sound (r.visitMapping n) := by
  unfold visitMapping
  split
  · exact (r.checkKeys_sound _ _).bind fun _ => (r.meetAll_plain _).sound
  · exact .ite (.error trivial) (.error rfl)
  · exact .ite (.error trivial) (.error rfl)
  · exact .error trivial

theorem visitPairs_plain (ns : List Node) : Plain (r.visitPairs ns) := by
  induction ns generalizing r with
  | nil => exact .ok _
  | cons n ns ih =>
    unfold visitPairs
    split
    · refine (r.meet_plain _).bind fun r => ?_
      exact (r.meet_plain _).bind fun r => ih r
    · exact .error trivial

theorem visit_sound (n : Node) : Sound (r.visit n) := by
  unfold visit
  split
  · exact r.visitMapping_sound n
  · exact r.visitMapping_sound n
  · split
    · exact (r.meetAll_plain _).sound
    · exact .error trivial
  · split
    · exact (r.visitPairs_plain _).sound
    · exact .error trivial
  · exact .ok _

theorem visitAll_sound (fuel : Nat) : Sound (visitAll fuel r) := by
  induction fuel generalizing r with
  | zero => exact .ok _
  | succ fuel ih =>
    unfold visitAll
    split
    · exact .ok _
    · exact (visit_sound _ _).bind fun r => ih r

end Reading

theorem Node.check_sound (root : Node) : Sound root.check :=
  (Reading.meet_plain _ root).sound.bind fun r => r.visitAll_sound _

/-- **How reading fails.** Whatever characters a document has, it is read, or it is
malformed, or it has a key twice, or a value in it is unsuitable. -/
theorem read_sound (text : String) : Sound (read text) := by
  unfold read readChars
  refine .ite (.error trivial) ?_
  cases htokens : tokens text.toList with
  | mk ts fault? =>
    have hfault : ∀ fault, fault? = some fault → fault.Proper := by
      intro fault hfault
      rw [hfault] at htokens
      exact proper_of_tokens htokens
    refine (Node.ofTokens_sound hfault).bind fun root => ?_
    exact root.check_sound.bind fun _ => .ok _

end SchemaDepot.Yaml
