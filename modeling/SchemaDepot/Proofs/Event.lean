/-
# Lines that stay as they are

An event leaves one line, in which only what its values contribute is seen (`Event.line_eq`). A
value that says nothing contributes nothing, so it may as well not be given
(`Event.contributed_of_inserted`). A collection is shown by its members in order; so which order
they came in is not seen, and neither is it in what goes wrong: a member that has no text fails in
the same way as any other (`Value.Rearranges.map_logField`). Values that are given behind others
add their text behind the line of the others (`Event.line_append`).

A mapping counts as a single value here: it is written with its braces, also when it is empty.

Key definitions: `Value.SaysNothing`, `Value.Rearranges`, `Event.line`, `Event.text`,
`Event.contributed`.
Key theorems: `Event.log_eq_line`, `Event.line_eq`, `Event.log_of_inserted`,
`Event.log_of_rearranged`, `Event.line_append`.
-/
import Mathlib.Data.List.ReduceOption
import SchemaDepot.Event
import SchemaDepot.Proofs.Listing
import SchemaDepot.Proofs.Log
import SchemaDepot.Proofs.Value

namespace SchemaDepot

open Outcome

namespace Value

/-- The members of a collection. A mapping has none here: it is written like a single value. -/
def items? : Value → Option (List Value)
  | .list items | .tuple items | .set items => some items
  | _ => none

/-- The value is nothing, a collection without members or a single value of blanks alone. -/
inductive SaysNothing : Value → Prop
  | null : SaysNothing .null
  | empty {v : Value} (hitems : v.items? = some []) : SaysNothing v
  | blank {v : Value} {s : String} (hitems : v.items? = none) (hshown : v.shown = .ok s)
      (hblank : Text.isBlank s = true) : SaysNothing v

/-- The values are the same, or collections of the same members in any order. -/
inductive Rearranges : Value → Value → Prop
  | refl (v : Value) : Rearranges v v
  | items {v w : Value} {xs ys : List Value} (hv : v.items? = some xs) (hw : w.items? = some ys)
      (hperm : xs.Perm ys) : Rearranges v w

variable {v w : Value} {xs : List Value}

theorem logField_of_items (h : v.items? = some xs) :
    v.logField = (xs.mapM shown).map .many := by
  cases v <;> cases h <;> (rw [logField]; cases xs.mapM shown <;> rfl)

theorem logField_of_single (hv : v ≠ .null) (h : v.items? = none) :
    v.logField = v.shown.map .single := by
  unfold logField
  split
  · exact absurd rfl hv
  · cases h
  · cases h
  · cases h
  · cases v.shown <;> rfl

theorem SaysNothing.exists_logField (h : v.SaysNothing) :
    ∃ f, v.logField = .ok f ∧ f.text = "" := by
  cases h with
  | null => exact ⟨.absent, rfl, rfl⟩
  | empty hitems => exact ⟨.many [], logField_of_items hitems, Log.text_many_nil⟩
  | @blank v s hitems hshown hblank =>
    refine ⟨.single s, ?_, Log.text_single_eq_empty_iff.mpr hblank⟩
    have hv : v ≠ .null := by
      rintro rfl
      cases hshown
      exact absurd hblank (by decide)
    rw [logField_of_single hv hitems, hshown]
    rfl

/-- Rearranged collections have the same text, or none. -/
theorem Rearranges.map_logField (h : v.Rearranges w) {β : Type} {p : Log.FieldValue → β}
    (hp : ∀ f g : Log.FieldValue, f.text = g.text → p f = p g) :
    v.logField.map p = w.logField.map p := by
  cases h with
  | refl => rfl
  | @items w xs ys hv hw hperm =>
    rw [logField_of_items hv, logField_of_items hw]
    cases hxs : xs.mapM shown with
    | ok texts =>
      obtain ⟨texts', hys, htexts⟩ := exists_mapM_of_perm hperm hxs
      rw [hys]
      exact congrArg Except.ok (hp _ _ (Log.text_many_of_perm htexts))
    | error e =>
      -- a text can be missing for one reason only, so it does not matter whose is missed first
      rw [mapM_eq_error_of_perm (fun _ _ => eq_numberTooLong_of_shown) hperm hxs]

/-- A collection stands for no level, and neither does it rearranged. -/
theorem Rearranges.levelOf_eq (h : v.Rearranges w) : Event.levelOf v = Event.levelOf w := by
  cases h with
  | refl => rfl
  | items hv hw _ => cases v <;> cases hv <;> cases w <;> cases hw <;> rfl

end Value

namespace Log

/-- A message with the texts of fields. -/
def lineOf (message : String) (texts : List String) : String :=
  if (" ".intercalate texts).isEmpty then message else message ++ " " ++ " ".intercalate texts

theorem line_eq_lineOf (message : String) (fields : List Field) :
    line message fields = lineOf message (fields.filterMap fieldText?) := rfl

end Log

namespace Event

variable {given more other : Listing Value} {message name : String} {v : Value}
  {source : Log.Source} {level? : Option Log.Level}

/-- The line of a message and the fields that values under names give. -/
def line (message : String) (given : Listing Value) : Except Error String :=
  (fields given).map (Log.line message)

/-- The text of the fields that values under names give. -/
def text (given : Listing Value) : Except Error String := (fields given).map Log.fieldsText

/-- What one value under a name contributes to a line, if anything. -/
def contribution (e : String × Value) : Except Error (Option String) :=
  e.2.logField.map fun shown => Log.fieldText? (e.1, shown)

/-- The entries that are shown. -/
def shownAmong (entries : List (String × Value)) : List (String × Value) :=
  entries.filter fun e => e.1 ≠ levelName

/-- What the values under names contribute to a line, in order. -/
def contributed (given : Listing Value) : Except Error (List String) :=
  ((shownAmong given.entries).mapM contribution).map List.reduceOption

/-! ### Lines and what is logged -/

/-- What is logged is the line of the values, unless a name is ambiguous or the level is no
level. A level that is not above zero is never shown. -/
theorem log_eq_line : log source level? message given =
    (if isAmbiguous level? given then .fail .wrongKind
    else do
      let text ← Run.ofExcept (line message given)
      let rank ← Run.ofExcept (level level? given)
      if 0 < rank.rank then .emit ⟨rank, source, text⟩ else pure ()) := by
  unfold log line
  cases fields given with
  | error e => rfl
  | ok shown => rfl

/-- A line is told by what its values contribute. -/
theorem line_eq : line message given = (contributed given).map (Log.lineOf message) := by
  have hfields : (fields given).map (List.map Log.fieldText?) =
      (shownAmong given.entries).mapM contribution := by
    rw [fields, map_mapM]
    refine congrArg (List.mapM · _) (funext fun e => ?_)
    unfold contribution
    cases e.2.logField <;> rfl
  unfold line contributed
  rw [← hfields]
  cases fields given with
  | error e => rfl
  | ok shown =>
    have htexts : (shown.map Log.fieldText?).reduceOption = shown.filterMap Log.fieldText? := by
      rw [List.reduceOption, List.filterMap_map]
      rfl
    show Except.ok (Log.line message shown) =
      Except.ok (Log.lineOf message (shown.map Log.fieldText?).reduceOption)
    rw [htexts, Log.line_eq_lineOf]

theorem line_congr (h : contributed other = contributed given) :
    line message other = line message given := by
  rw [line_eq, line_eq, h]

theorem level_congr
    (h : (other.get? levelName).map levelOf = (given.get? levelName).map levelOf) :
    level level? other = level level? given := by
  unfold level
  cases level? with
  | some l => rfl
  | none =>
    cases hother : other.get? levelName with
    | none =>
      rw [hother] at h
      rw [Option.map_eq_none_iff.mp h.symm]
    | some v =>
      rw [hother] at h
      obtain ⟨w, hw, hlevel⟩ := Option.map_eq_some_iff.mp h.symm
      rw [hw]
      exact hlevel.symm

/-- Values are logged alike if they have the same line and level and no different names. -/
theorem log_congr (hline : line message other = line message given)
    (hlevel : level level? other = level level? given)
    (hhas : ∀ x, x ∈ reservedNames ∨ x = levelName → other.has x = given.has x) :
    log source level? message other = log source level? message given := by
  have hambiguous : isAmbiguous level? other = isAmbiguous level? given := by
    have hreserved : reservedNames.any other.has = reservedNames.any given.has := by
      simp only [reservedNames, List.any_cons, hhas "logger" (Or.inl (by decide)),
        hhas "message" (Or.inl (by decide)), List.any_nil]
    rw [isAmbiguous, isAmbiguous, hreserved, hhas levelName (Or.inr rfl)]
  rw [log_eq_line, log_eq_line, hambiguous, hline, hlevel]

/-! ### Values that say nothing -/

/-- The second listing is the first with one more entry somewhere. -/
def Inserted (given : Listing Value) (name : String) (v : Value) (more : Listing Value) : Prop :=
  ∃ before after, given.entries = before ++ after ∧ more.entries = before ++ (name, v) :: after

theorem contribution_of_saysNothing (h : v.SaysNothing) : contribution (name, v) = .ok none := by
  obtain ⟨f, hf, hempty⟩ := h.exists_logField
  have hnone : Log.fieldText? (name, f) = none := Log.fieldText?_eq_none_iff.mpr hempty
  rw [contribution, hf]
  exact congrArg Except.ok hnone

theorem contributed_of_inserted (h : Inserted given name v more) (hv : v.SaysNothing) :
    contributed more = contributed given := by
  obtain ⟨before, after, hgiven, hmore⟩ := h
  unfold contributed
  rw [hgiven, hmore, shownAmong, shownAmong, List.filter_append, List.filter_append]
  by_cases hname : name = levelName
  · rw [List.filter_cons_of_neg (by simp [hname])]
  · rw [List.filter_cons_of_pos (by simp [hname]), List.mapM_append, List.mapM_append,
      List.mapM_cons, contribution_of_saysNothing hv]
    cases (before.filter fun e => e.1 ≠ levelName).mapM contribution with
    | error e => rfl
    | ok front =>
      cases (after.filter fun e => e.1 ≠ levelName).mapM contribution with
      | error e => rfl
      | ok back =>
        have htexts : (front ++ none :: back).reduceOption = (front ++ back).reduceOption := by
          simp [List.reduceOption_append, List.reduceOption_cons_of_none]
        exact congrArg Except.ok htexts

theorem Inserted.get?_eq (h : Inserted given name v more) {x : String} (hx : x ≠ name) :
    more.get? x = given.get? x := by
  obtain ⟨before, after, hgiven, hmore⟩ := h
  have hne : (x == name) = false := beq_false_of_ne hx
  rw [Listing.get?, Listing.get?, hgiven, hmore, List.lookup_append, List.lookup_append,
    List.lookup_cons, hne]

/-- A value that says nothing is logged as if it were not given, unless its name is the event's
own. -/
theorem log_of_inserted (h : Inserted given name v more) (hv : v.SaysNothing)
    (hreserved : name ∉ reservedNames) (hlevel : name ≠ levelName) :
    log source level? message more = log source level? message given := by
  refine log_congr (line_congr (contributed_of_inserted h hv)) ?_ fun x hx => ?_
  · exact level_congr (congrArg _ (h.get?_eq hlevel.symm))
  · have hne : x ≠ name := by
      rintro rfl
      exact hx.elim hreserved hlevel
    rw [Listing.has_eq_isSome, Listing.has_eq_isSome, h.get?_eq hne]

/-! ### Collections in another order -/

/-- The listings have the same names, and under each the same value or its members in another
order. -/
def Rearranged (given other : Listing Value) : Prop :=
  List.Forall₂ (fun e f => e.1 = f.1 ∧ e.2.Rearranges f.2) given.entries other.entries

theorem contribution_of_rearranges {e f : String × Value} (hname : e.1 = f.1)
    (h : e.2.Rearranges f.2) : contribution e = contribution f := by
  unfold contribution
  rw [hname]
  refine h.map_logField fun p q hpq => ?_
  simp only [Log.fieldText?, hpq]

theorem contributed_of_rearranged (h : Rearranged given other) :
    contributed other = contributed given := by
  have hshown : List.Forall₂ (fun e f => contribution e = contribution f)
      (shownAmong given.entries) (shownAmong other.entries) := by
    have hsame : List.Forall₂ (fun e f => e.1 = f.1 ∧ e.2.Rearranges f.2)
        (shownAmong given.entries) (shownAmong other.entries) :=
      List.rel_filter (fun e f hef => by simp only [hef.1]) h
    exact hsame.imp fun e f hef => contribution_of_rearranges hef.1 hef.2
  unfold contributed
  rw [mapM_congr_of_forall₂ hshown]

/-- Under each name is a value that stands for the same. -/
theorem Rearranged.map_get? {β : Type} {p : Value → β} (hp : ∀ v w, v.Rearranges w → p v = p w)
    (h : Rearranged given other) (x : String) : (other.get? x).map p = (given.get? x).map p := by
  unfold Rearranged at h
  unfold Listing.get?
  generalize given.entries = es, other.entries = fs at h
  induction h with
  | nil => rfl
  | @cons e f es fs hef _ ih =>
    rw [List.lookup_cons, List.lookup_cons, hef.1]
    cases x == f.1 with
    | true => exact congrArg some (hp _ _ hef.2).symm
    | false => exact ih

/-- Rearranged collections are logged alike. -/
theorem log_of_rearranged (h : Rearranged given other) :
    log source level? message other = log source level? message given := by
  refine log_congr (line_congr (contributed_of_rearranged h)) ?_ fun x _ => ?_
  · exact level_congr (h.map_get? (fun _ _ hvw => hvw.levelOf_eq) levelName)
  · have hsome := congrArg Option.isSome (h.map_get? (p := fun _ => ()) (fun _ _ _ => rfl) x)
    rwa [Option.isSome_map, Option.isSome_map, ← Listing.has_eq_isSome,
      ← Listing.has_eq_isSome] at hsome

/-! ### Values given one after another -/

/-- Values that are given behind others add their text behind the line. -/
theorem line_append {first second both : Listing Value}
    (h : both.entries = first.entries ++ second.entries) : line message both = (do
      let front ← line message first
      let back ← text second
      .ok (if back.isEmpty then front else front ++ " " ++ back)) := by
  have hfields : fields both = (do
      let front ← fields first
      let back ← fields second
      .ok (front ++ back)) := by
    rw [fields, fields, fields, h, List.filter_append, List.mapM_append]
    rfl
  unfold line text
  rw [hfields]
  cases fields first with
  | error e => rfl
  | ok front =>
    cases fields second with
    | error e => rfl
    | ok back => exact congrArg Except.ok (Log.line_append message front back)

theorem line_of_empty (h : given.entries = []) : line message given = .ok message := by
  rw [line, fields, h]
  rfl

/-- A value alone gives its name and its text, or nothing if its text is empty. -/
theorem text_of_singleton {f : Log.FieldValue} (h : given.entries = [(name, v)])
    (hname : name ≠ levelName) (hv : v.logField = .ok f) :
    text given = .ok (if f.text.isEmpty then "" else name ++ "=" ++ f.text) := by
  have hfields : fields given = .ok [(name, f)] := by
    rw [fields, h, List.filter_cons_of_pos (by simp [hname]), List.filter_nil,
      mapM_cons_eq_ok_iff]
    exact ⟨(name, f), [], by rw [hv]; rfl, rfl, rfl⟩
  rw [text, hfields]
  show Except.ok (Log.fieldsText [(name, f)]) = _
  refine congrArg Except.ok ?_
  by_cases hempty : f.text.isEmpty
  · simp [Log.fieldsText, Log.fieldText?, hempty]
  · simp [Log.fieldsText, Log.fieldText?, hempty]

/-- **Lines are stable.** What is logged is the line of the values given, unless the event is
refused or its level is not above zero. Without values the line is the message. A value that says
nothing can be given under any name and at any place and the line stays as it is, and so it does
if the members of collections come in another order. Values given behind others leave the line as
it is and add their own text to it, with one space between unless that text is empty. -/
theorem lines_are_stable (source : Log.Source) (level? : Option Log.Level) (message : String) :
    (∀ given, log source level? message given =
      if isAmbiguous level? given then .fail .wrongKind
      else do
        let text ← Run.ofExcept (line message given)
        let rank ← Run.ofExcept (level level? given)
        if 0 < rank.rank then .emit ⟨rank, source, text⟩ else pure ()) ∧
    (∀ given, given.entries = [] → line message given = .ok message) ∧
    (∀ given name v f, given.entries = [(name, v)] → name ≠ levelName → v.logField = .ok f →
      text given = .ok (if f.text.isEmpty then "" else name ++ "=" ++ f.text)) ∧
    (∀ given name v more, Inserted given name v more → v.SaysNothing →
      line message more = line message given ∧
      (name ∉ reservedNames → name ≠ levelName →
        log source level? message more = log source level? message given)) ∧
    (∀ given other, Rearranged given other →
      line message other = line message given ∧
      log source level? message other = log source level? message given) ∧
    ∀ first second both : Listing Value, both.entries = first.entries ++ second.entries →
      line message both = (do
        let front ← line message first
        let back ← text second
        .ok (if back.isEmpty then front else front ++ " " ++ back)) := by
  refine ⟨fun given => log_eq_line, fun given h => line_of_empty h,
    fun given name v f h hname hv => text_of_singleton h hname hv,
    fun given name v more h hv => ⟨?_, fun hreserved hlevel => ?_⟩,
    fun given other h => ⟨?_, log_of_rearranged h⟩, fun first second both h => line_append h⟩
  · exact line_congr (contributed_of_inserted h hv)
  · exact log_of_inserted h hv hreserved hlevel
  · exact line_congr (contributed_of_rearranged h)

/-- A template and its tokens: a blank text between them is not seen, nor is the order of the
tokens. A further value comes behind. -/
theorem lines_are_stable_template :
    let tokens := ("tokens", Value.set [.text "B", .text "A"])
    let given := Listing.ofList [("template", .text "t"), tokens]
    let more := Listing.ofList [("template", .text "t"), ("blank", .text " "), tokens]
    let other := Listing.ofList [("template", .text "t"), ("tokens", .set [.text "A", .text "B"])]
    let last := Listing.ofList [("fixed", Value.bool true)]
    let both := Listing.ofList [("template", .text "t"), tokens, ("fixed", .bool true)]
    Inserted given "blank" (.text " ") more ∧ (Value.text " ").SaysNothing ∧
    Rearranged given other ∧ both.entries = given.entries ++ last.entries ∧
    line "written" given = .ok "written template=t tokens=A,B" ∧
    line "written" more = .ok "written template=t tokens=A,B" ∧
    log .templates none "written" more = log .templates none "written" given ∧
    line "written" other = .ok "written template=t tokens=A,B" ∧
    line "written" both = .ok "written template=t tokens=A,B fixed=True" := by
  intro tokens given more other last both
  obtain ⟨-, -, hsingle, hinserted, hrearranged, happend⟩ :=
    lines_are_stable .templates none "written"
  have hmore : Inserted given "blank" (.text " ") more :=
    ⟨[("template", .text "t")], [tokens], rfl, rfl⟩
  have hblank : (Value.text " ").SaysNothing := .blank rfl rfl (by decide)
  have hother : Rearranged given other :=
    .cons ⟨rfl, .refl _⟩ (.cons ⟨rfl, .items rfl rfl (.swap _ _ _)⟩ .nil)
  have hboth : both.entries = given.entries ++ last.entries := rfl
  have hline : line "written" given = .ok "written template=t tokens=A,B" := by
    have htokens : (Log.FieldValue.many ["B", "A"]).text = "A,B" :=
      (Log.text_many_of_pairwise (.swap _ _ _) (by decide)).trans (by decide)
    show Except.ok (Log.line "written" [("template", .single "t"), ("tokens", .many ["B", "A"])]) = _
    simp only [Log.line, Log.fieldsText, Log.fieldText?, htokens, List.filterMap_cons,
      List.filterMap_nil]
    decide
  have htext : text last = .ok "fixed=True" :=
    hsingle last "fixed" (.bool true) (.single "True") rfl (by decide) rfl
  obtain ⟨hsame, hlog⟩ := hinserted given "blank" (.text " ") more hmore hblank
  refine ⟨hmore, hblank, hother, hboth, hline, hsame.trans hline,
    hlog (by decide) (by decide), (hrearranged given other hother).1.trans hline, ?_⟩
  rw [happend given last both hboth, hline, htext]
  decide

end Event

end SchemaDepot
