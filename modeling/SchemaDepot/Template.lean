/-
# Templates

A template is a schema text in which some tokens stand for values. The tokens
are declared: each must occur in the text, and none may be a part of another, so
that at every position at most one of them can be meant.

Rendering goes through the text once, from left to right. Where a token stands,
its value is put; everything else stays. Values are not looked into again: a
value that holds a token is refused, and so is a result in which a value and its
surroundings form a token.

Key definitions: `Template.Admissible`, `Template`, `Template.make`,
`Template.scan`, `Template.outcome`, `Template.render`.
Key theorem: `Template.fault?_eq_none_iff`.
-/
import SchemaDepot.Listing
import SchemaDepot.Run
import SchemaDepot.Text.Occurs
import SchemaDepot.Value

namespace SchemaDepot

namespace Template

/-! ### Declared tokens -/

/-- The tokens can be told apart in the text. -/
structure Admissible (text : String) (tokens : TextSet) : Prop where
  text_not_blank : Text.isBlank text = false
  token_not_blank : ∀ t ∈ tokens, Text.isBlank t = false
  token_occurs : ∀ t ∈ tokens, Text.contains text t = true
  token_not_within : ∀ t ∈ tokens, ∀ u ∈ tokens, u ≠ t → Text.contains u t = false

/-- What is wrong with one declared token, if anything. -/
def tokenFault? (name text : String) (tokens : TextSet) (token : String) : Option TemplateFault :=
  if Text.isBlank token then some (.emptyToken name)
  else if !Text.contains text token then some (.tokenAbsent token name)
  else (tokens.toList.find? fun other => other ≠ token && Text.contains other token).map fun other =>
    .tokenWithin token other name

/-- What is wrong with a text and its tokens, if anything: the first fault, going
through the tokens in order. -/
def fault? (name text : String) (tokens : TextSet) : Option TemplateFault :=
  if Text.isBlank text then some (.emptyText name)
  else tokens.toList.findSome? (tokenFault? name text tokens)

theorem tokenFault?_eq_none_iff {name text token : String} {tokens : TextSet} :
    tokenFault? name text tokens token = none ↔
      Text.isBlank token = false ∧ Text.contains text token = true ∧
        ∀ u ∈ tokens, u ≠ token → Text.contains u token = false := by
  unfold tokenFault?
  by_cases hb : Text.isBlank token = true
  · simp [hb]
  · by_cases hc : Text.contains text token = true
    · simp [hb, hc, TextSet.mem_def]
    · simp [hb, hc]

/-- There is no fault exactly when the tokens are admissible. -/
theorem fault?_eq_none_iff {name text : String} {tokens : TextSet} :
    fault? name text tokens = none ↔ Admissible text tokens := by
  unfold fault?
  by_cases hb : Text.isBlank text = true
  · simp only [hb, if_true, reduceCtorEq, false_iff]
    intro h
    rw [h.text_not_blank] at hb
    cases hb
  · rw [if_neg hb, List.findSome?_eq_none_iff]
    simp only [tokenFault?_eq_none_iff]
    constructor
    · intro h
      exact ⟨by simpa using hb, fun t ht => (h t ht).1, fun t ht => (h t ht).2.1,
        fun t ht => (h t ht).2.2⟩
    · intro h t ht
      exact ⟨h.token_not_blank t ht, h.token_occurs t ht, h.token_not_within t ht⟩

end Template

/-- A text with declared tokens. -/
structure Template where
  name : String
  text : String
  tokens : TextSet
  /-- The tokens can be told apart in the text. -/
  admissible : Template.Admissible text tokens

namespace Template

/-- The template of a text and its tokens, unless there is a fault. -/
def make (name text : String) (tokens : TextSet) : Except Error Template :=
  match h : fault? name text tokens with
  | some fault => .error (.templates fault)
  | none => .ok ⟨name, text, tokens, fault?_eq_none_iff.mp h⟩

mutual

/-- One of the two values comes before the other, or they are the same. Numbers
are ordered among themselves, and so are texts; two tuples are ordered by the
first place where they differ. -/
def ordered : Value → Value → Bool
  | .text _, .text _ => true
  | .tuple xs, .tuple ys => orderedItems xs ys
  | v, w => isNumber v && isNumber w

/-- The items at the first place where the lists differ are ordered. -/
def orderedItems : List Value → List Value → Bool
  | x :: xs, y :: ys => if x.same y then orderedItems xs ys else ordered x y
  | _, _ => true

/-- A truth value counts as a number. -/
def isNumber : Value → Bool
  | .bool _ | .int _ | .float _ => true
  | _ => false

end

/-- Every two of the values are ordered. -/
def allOrdered : List Value → Bool
  | [] => true
  | v :: vs => vs.all (ordered v) && allOrdered vs

/-- The texts among the values. -/
def textsAmong (vs : List Value) : List String :=
  vs.filterMap fun v => match v with
    | .text s => some s
    | _ => none

/-- The set of tokens that a value lists. Tokens that are no texts cannot be
sorted among texts; sorted among themselves, the first is as bad as an empty
one. -/
def tokensOf (name text : String) (declared : Value) : Except Error TextSet := do
  let items ← declared.members
  if !Value.allHashable items then .error .wrongKind
  else if Text.isBlank text then .error (.templates (.emptyText name))
  else
    let items := Value.dedup items
    if (textsAmong items).length = items.length then .ok (TextSet.ofList (textsAmong items))
    else if allOrdered items then .error (.templates (.emptyToken name))
    else .error .wrongKind

/-- The template of a text and a value that lists its tokens. -/
def ofValue (name text : String) (declared : Value) : Except Error Template := do
  let tokens ← tokensOf name text declared
  make name text tokens

/-! ### Substitution -/

/-- Goes through the characters from left to right. The first of the tokens that
stands at a position is replaced by its value and passed over; `skip` characters
are still to be passed over. -/
def scan (tokens : List (List Char)) (value : List Char → List Char) :
    (skip : Nat) → List Char → List Char
  | _, [] => []
  | skip + 1, _ :: cs => scan tokens value skip cs
  | 0, c :: cs =>
    match tokens.find? fun t => t.isPrefixOf (c :: cs) with
    | some t => value t ++ scan tokens value (t.length - 1) cs
    | none => c :: scan tokens value 0 cs

/-- The tokens from the longest to the shortest, those of one length in order. -/
def longestFirst (tokens : TextSet) : List String :=
  tokens.toList.mergeSort fun s t =>
    decide (t.length < s.length) || (decide (s.length = t.length) && Text.inOrder s t)

/-- The text with every token replaced by its value. -/
def substitute (t : Template) (value : String → String) : String :=
  String.ofList <|
    scan ((longestFirst t.tokens).map String.toList) (fun x => (value (String.ofList x)).toList)
      0 t.text.toList

/-- Values for tokens. A value that is no text can be given, but is refused. -/
abbrev Substitutions := Listing Value

/-- The text given for a token, if one is. -/
def textFor? (given : Substitutions) (token : String) : Option String :=
  match given.get? token with
  | some (.text s) => some s
  | _ => none

/-- The declared tokens without a value. -/
def missing (t : Template) (given : Substitutions) : TextSet :=
  t.tokens.filter fun x => !given.has x

/-- The names that are no declared tokens. -/
def undeclared (t : Template) (given : Substitutions) : TextSet :=
  given.keySet.difference t.tokens

/-- The text holds a declared token. -/
def holdsToken (t : Template) (s : String) : Bool := t.tokens.toList.any (Text.contains s)

/-- The declared tokens whose value is no text or holds a declared token. -/
def invalid (t : Template) (given : Substitutions) : TextSet :=
  t.tokens.filter fun x =>
    match textFor? given x with
    | some s => t.holdsToken s
    | none => true

/-- The declared tokens that stand in a text. -/
def leftover (t : Template) (s : String) : TextSet := t.tokens.filter (Text.contains s)

/-- The text with the given values put in, whatever they are. -/
def filled (t : Template) (given : Substitutions) : String :=
  t.substitute fun x => (textFor? given x).getD ""

/-- The rendered text, or the first reason to refuse the substitutions. -/
def outcome (t : Template) (given : Substitutions) (strict : Bool) : Except Error String :=
  if !(t.missing given).isEmpty then .error (.substitution .missing t.name (t.missing given))
  else if strict && !(t.undeclared given).isEmpty then
    .error (.substitution .undeclared t.name (t.undeclared given))
  else if !(t.invalid given).isEmpty then .error (.substitution .invalid t.name (t.invalid given))
  else if !(t.leftover (t.filled given)).isEmpty then
    .error (.substitution .invalid t.name (t.leftover (t.filled given)))
  else .ok (t.filled given)

/-- The record of a template and some names. -/
def record (t : Template) (level : Log.Level) (message : String) (names : List String) :
    Log.Record :=
  ⟨level, .templates, Log.line message [Log.ofText "template" t.name, ("tokens", .many names)]⟩

/-- Undeclared names were left out of account. -/
def ignoredRecord (t : Template) (names : List String) : Log.Record :=
  t.record .warning "testdbs.unused_substitutions_ignored" names

/-- A text with tokens was rendered. -/
def renderedRecord (t : Template) : Log.Record :=
  t.record .debug "testdbs.template_rendered" t.tokens.toList

/-- What rendering logs: undeclared names that are left out of account, once no
value is missing, and the success if there were tokens. -/
def records (t : Template) (given : Substitutions) (strict : Bool) : List Log.Record :=
  (if (t.missing given).isEmpty && !strict && !(t.undeclared given).isEmpty then
    [t.ignoredRecord (t.undeclared given).toList] else []) ++
  (if (t.outcome given strict).isOk && !t.tokens.isEmpty then [t.renderedRecord] else [])

/-- Renders the template with the given values. -/
def render (t : Template) (given : Substitutions) (strict : Bool) : Run String :=
  ⟨t.records given strict, t.outcome given strict⟩

/-- The value is a declared token. -/
def declares (t : Template) : Value → Bool
  | .text s => decide (s ∈ t.tokens)
  | _ => false

/-- Looks through the names alone, which need not be texts: none of the tokens is
missing, and the names that are no declared tokens are refused or left out of
account. Names that are no texts cannot be listed among the undeclared ones. -/
def admitNames (t : Template) (names : List Value) (strict : Bool) : Run Unit :=
  let missing := t.tokens.difference (TextSet.ofList (textsAmong names))
  let undeclared := Value.dedup (names.filter fun v => !t.declares v)
  if !Value.allHashable names then .fail .wrongKind
  else if !missing.isEmpty then .fail (.substitution .missing t.name missing)
  else if undeclared.isEmpty then pure ()
  else if !strict then do
    let shown ← Run.ofExcept (undeclared.mapM Value.shown)
    .emit (t.ignoredRecord shown)
  else if (textsAmong undeclared).length ≠ undeclared.length then .fail .wrongKind
  else .fail (.substitution .undeclared t.name (TextSet.ofList (textsAmong undeclared)))

/-- Renders the template where names are given without values: this is possible
only if there is no token. -/
def renderNames (t : Template) (names : List Value) (strict : Bool) : Run String := do
  t.admitNames names strict
  if t.tokens.isEmpty then pure t.text else .fail .wrongKind

/-- A name and its value, if the name is a text. -/
def substitution? : Value × Value → Option (String × Value)
  | (.text s, v) => some (s, v)
  | _ => none

/-- The substitutions of a mapping whose keys are texts. -/
def substitutionsOf? (entries : List (Value × Value)) : Option Substitutions :=
  (entries.mapM substitution?).map Listing.ofList

/-- The values given for declared tokens. -/
def declaredAmong (t : Template) (entries : List (Value × Value)) : Substitutions :=
  Listing.ofList ((entries.filter fun e => t.declares e.1).filterMap substitution?)

/-- Renders the template with whatever a value gives. -/
def renderValue (t : Template) (given : Value) (strict : Bool) : Run String :=
  match given with
  | .map entries =>
    match substitutionsOf? entries with
    | some subs => t.render subs strict
    | none => do
      t.admitNames (entries.map Prod.fst) strict
      t.render (t.declaredAmong entries) strict
  | v =>
    match v.members with
    | .ok names => t.renderNames names strict
    | .error e => .fail e

end Template

end SchemaDepot
