/-
# Hexadecimal keys

A decimal integer can have too many digits to be read, but one in hexadecimal cannot: its value
is read whatever number of digits it has (`Yaml.readInteger_hexChars`). So a document can hold
integers of more digits than can be written. One such document is followed from its characters
to its fault: a mapping with a hexadecimal key that has a name and comes again under that name
(`Yaml.tokens_twiceChars`, `Yaml.composes_twice`, `Yaml.read_twice`).

Its tokens are found one by one. Each step says what is found at a place, whatever was found
before it and comes behind it.

Key definitions: `Yaml.hexDigits`, `Yaml.hexChars`, `Yaml.twiceChars`, `Yaml.twiceRoot`.
Key theorems: `Yaml.readInteger_hexChars`, `Yaml.ofPlain_hexChars`, `Yaml.readPlain_hexChars`,
`Yaml.tokens_twiceChars`, `Yaml.composes_twice`, `Yaml.read_twice`.
-/
import Mathlib.Algebra.Group.Nat.Defs
import Mathlib.Data.Bool.AllAny
import Mathlib.Data.List.TakeWhile
import SchemaDepot.Proofs.Yaml.Token
import SchemaDepot.Proofs.Yaml.Uniqueness

namespace SchemaDepot.Yaml

open Outcome

/-- The digits of hexadecimal numerals. -/
def hexDigits : List Char := "0123456789abcdefABCDEF".toList

/-- The hexadecimal integer of some digits. -/
def hexChars (ds : List Char) : List Char := '0' :: 'x' :: ds

variable {ds : List Char} {c : Char}

/-! ### Their values -/

theorem isBaseDigit_of_mem_hexDigits : ∀ c ∈ hexDigits, isBaseDigit 16 c = true :=
  List.all_eq_true.mp (by decide)

theorem isAscii_of_mem_hexDigits : ∀ c ∈ hexDigits, Text.isAscii c = true :=
  List.all_eq_true.mp (by decide)

theorem ne_of_mem_hexDigits {x : Char} (h : c ∈ hexDigits) (hx : x ∉ hexDigits) : c ≠ x :=
  fun hc => hx (hc ▸ h)

theorem withoutSign_of_mem_hexDigits (h : c ∈ hexDigits) : withoutSign (c :: ds) = c :: ds := by
  have hplus : c ≠ '+' := ne_of_mem_hexDigits h (by decide)
  have hminus : c ≠ '-' := ne_of_mem_hexDigits h (by decide)
  unfold withoutSign
  simp [hplus, hminus]

/-- No second digit is the letter of the base. -/
theorem withoutBaseMark_of_mem_hexDigits (hds : ∀ c ∈ ds, c ∈ hexDigits) :
    withoutBaseMark 16 ds = ds := by
  have hletter : ∀ m ∈ hexDigits, some m.toLower ≠ baseLetter? 16 :=
    List.all_iff_forall_prop.mp (by decide)
  unfold withoutBaseMark
  split
  · rename_i m rest
    rw [if_neg (hletter m (hds m (List.mem_cons_of_mem _ List.mem_cons_self)))]
  · rfl

theorem readNumeral_hexDigits (hne : ds ≠ []) (hds : ∀ c ∈ ds, c ∈ hexDigits) :
    readNumeral 16 ds = .ok (Decimal.valueIn 16 ds) := by
  obtain ⟨d, rest, rfl⟩ := List.exists_cons_of_ne_nil hne
  have hd := hds d List.mem_cons_self
  have hascii : Text.asciiNumeral (d :: rest) = d :: rest :=
    Text.asciiNumeral_of_ascii (List.all_eq_true.mpr fun c hc =>
      isAscii_of_mem_hexDigits c (hds c hc))
  have hgap : (d :: rest).dropWhile Text.isNumeralGap = d :: rest := by
    have hnone : ∀ c ∈ hexDigits, ¬ Text.isNumeralGap c = true :=
      List.all_iff_forall_prop.mp (by decide)
    exact List.dropWhile_cons_of_neg (hnone d hd)
  have hdigits : (d :: rest).takeWhile (isBaseDigit 16) = d :: rest :=
    List.takeWhile_eq_self_iff.mpr fun c hc => isBaseDigit_of_mem_hexDigits c (hds c hc)
  have hsign : d ≠ '-' := ne_of_mem_hexDigits hd (by decide)
  unfold readNumeral
  rw [hascii, hgap]
  dsimp only
  rw [withoutSign_of_mem_hexDigits hd, withoutBaseMark_of_mem_hexDigits hds, hdigits,
    List.drop_length, if_neg (by decide)]
  simp only [List.head?_cons, Option.some.injEq, if_neg hsign]
  rfl

theorem not_mem_hexChars {x : Char} (hds : ∀ c ∈ ds, c ∈ hexDigits) (hx : x ∉ 'x' :: hexDigits) :
    x ∉ hexChars ds := by
  intro h
  rcases List.mem_cons.mp h with rfl | h
  · exact absurd hx (by decide)
  · rcases List.mem_cons.mp h with rfl | h
    · exact hx List.mem_cons_self
    · exact hx (List.mem_cons_of_mem _ (hds x h))

/-- **A hexadecimal integer is read** whatever number of digits it has. -/
theorem readInteger_hexChars (hne : ds ≠ []) (hds : ∀ c ∈ ds, c ∈ hexDigits) :
    readInteger (String.ofList (hexChars ds)) = .ok (Decimal.valueIn 16 ds) := by
  have hchars : withoutUnderscores (hexChars ds) = hexChars ds := by
    rw [withoutUnderscores, List.filter_eq_self]
    intro c hc
    have hunderscore : '_' ∉ hexChars ds := not_mem_hexChars hds (by decide)
    simp only [ne_eq, decide_not, Bool.not_eq_eq_eq_not, Bool.not_true, decide_eq_false_iff_not]
    rintro rfl
    exact hunderscore hc
  rw [readInteger, String.toList_ofList, hchars]
  change (readNumeral 16 ds).map (fun z => if (hexChars ds).head? = some '-' then -z else z) = _
  rw [readNumeral_hexDigits hne hds]
  rfl

theorem valueIn_powerDigits (n : Nat) :
    Decimal.valueIn 16 ('1' :: List.replicate n '0') = 16 ^ n := by
  induction n with
  | zero => rfl
  | succ n ih =>
    rw [List.replicate_succ', ← List.cons_append, Decimal.valueIn, List.foldl_append]
    change 16 * Decimal.valueIn 16 ('1' :: List.replicate n '0') + 0 = 16 ^ (n + 1)
    rw [ih, Nat.pow_succ, Nat.mul_comm, Nat.add_zero]

/-! ### Their tag -/

theorem ofPlain_hexChars (hne : ds ≠ []) (hds : ∀ c ∈ ds, c ∈ hexDigits) :
    Tag.ofPlain (String.ofList (hexChars ds)) = .integer := by
  have hlast : Text.withoutFinalBreak (hexChars ds) = hexChars ds := by
    refine if_neg fun h => ?_
    have hbreak : '\n' ∉ hexChars ds := not_mem_hexChars hds (by decide)
    exact hbreak (List.mem_of_getLast? h)
  have hwords : truthWords.contains (String.ofList (hexChars ds)) = false := by
    have hheads : ∀ w ∈ truthWords, w.toList.head? ≠ some '0' := by decide
    rw [Bool.eq_false_iff]
    intro h
    have hhead := hheads _ (List.contains_iff_mem.mp h)
    rw [String.toList_ofList] at hhead
    exact hhead rfl
  have hdecimal : isDecimalForm (hexChars ds) = false := by
    have hrest : ('x' :: ds).dropWhile isDigitOrUnderscore = 'x' :: ds :=
      List.dropWhile_cons_of_neg (by decide)
    unfold isDecimalForm hexChars
    simp [withoutSign, hrest]
  have hinteger : isIntegerForm (hexChars ds) = true := by
    have hdigit : ∀ c ∈ hexDigits, (isDigitOrUnderscore c || ('a' ≤ c && c ≤ 'f') ||
        ('A' ≤ c && c ≤ 'F')) = true := List.all_eq_true.mp (by decide)
    have hall := List.all_eq_true.mpr fun c hc => hdigit c (hds c hc)
    have hempty : ds.isEmpty = false := List.isEmpty_eq_false_iff.mpr hne
    change (!ds.isEmpty && ds.all _) = true
    rw [hempty, hall]
    rfl
  rw [Tag.ofPlain, String.toList_ofList, hlast, hwords, hdecimal, hinteger]
  rfl

/-! ### Their tokens -/

theorem plainRun_hexChars (hds : ∀ c ∈ ds, c ∈ hexDigits) (tail : List Char) :
    plainRun true (hexChars ds ++ ',' :: tail) = hexChars ds := by
  have hinner : ∀ c ∈ hexDigits, isGap c = false ∧ c ≠ ':' ∧
      [',', '?', '[', ']', '\x7b', '\x7d'].contains c = false :=
    List.all_iff_forall_prop.mp (by decide)
  have hdigits : plainRun true (ds ++ ',' :: tail) = ds := by
    induction ds with
    | nil => rfl
    | cons d ds ih =>
      obtain ⟨hgap, hcolon, hmark⟩ := hinner d (hds d List.mem_cons_self)
      have hrest := ih fun c hc => hds c (List.mem_cons_of_mem _ hc)
      rw [List.cons_append, plainRun, hgap, hmark]
      simp [hcolon, hrest]
  simp only [hexChars, List.cons_append, plainRun, hdigits]
  rfl

/-- In a line each character takes a column. -/
theorem Cursor.skip_of_not_break {cs : List Char}
    (hcs : ∀ c ∈ cs, isBreak c = false ∧ c ≠ '\uFEFF') (tail : List Char) (i l k : Nat) :
    Cursor.skip ⟨cs ++ tail, i, l, k⟩ cs.length =
      ⟨tail, i + cs.length, l, k + cs.length⟩ := by
  induction cs generalizing i k with
  | nil => rfl
  | cons c cs ih =>
    obtain ⟨hbreak, hmark⟩ := hcs c List.mem_cons_self
    have hstep : (⟨c :: (cs ++ tail), i, l, k⟩ : Cursor).step = ⟨cs ++ tail, i + 1, l, k + 1⟩ := by
      have hreturn : c ≠ '\r' := by
        rintro rfl
        cases hbreak
      simp [Cursor.step, hbreak, hmark, hreturn]
    rw [List.cons_append, List.length_cons, Cursor.skip, hstep,
      ih fun x hx => hcs x (List.mem_cons_of_mem _ hx)]
    congr 1
    · omega
    · omega

theorem readPlain_hexChars (hds : ∀ c ∈ ds, c ∈ hexDigits) (tail : List Char) (indent : Int)
    (i l k : Nat) : readPlain true indent ⟨hexChars ds ++ ',' :: tail, i, l, k⟩ =
      (String.ofList (hexChars ds),
        ⟨',' :: tail, i + (hexChars ds).length, l, k + (hexChars ds).length⟩, false) := by
  have hplain : ∀ c ∈ 'x' :: hexDigits, isBreak c = false ∧ c ≠ '\uFEFF' :=
    List.all_iff_forall_prop.mp (by decide)
  have hskip : Cursor.skip ⟨hexChars ds ++ ',' :: tail, i, l, k⟩ (hexChars ds).length =
      ⟨',' :: tail, i + (hexChars ds).length, l, k + (hexChars ds).length⟩ := by
    refine Cursor.skip_of_not_break (fun c hc => hplain c ?_) _ i l k
    by_contra hout
    exact not_mem_hexChars hds hout hc
  have hgap : ∀ i k, plainGap ⟨',' :: tail, i, l, k⟩ = (none, ⟨',' :: tail, i, l, k⟩, false) := by
    intro i k
    rfl
  have hpeek : (⟨hexChars ds ++ ',' :: tail, i, l, k⟩ : Cursor).peek = '0' := rfl
  rw [readPlain, plainRuns]
  dsimp only
  rw [plainRun_hexChars hds, hskip, hgap, hpeek]
  rfl

theorem Cursor.skip_zero (c : Cursor) : c.skip 0 = c := rfl

theorem Cursor.skip_one (c : Cursor) : c.skip 1 = c.step := rfl

namespace Lexer

-- a step is opened as far as the characters at its place decide what it does
attribute [local simp] next skipGap skipGap.skip dropStale isStale keyLimit closeTo closeTo.close
  allowKey dropKey saveKey mark add moveTo openFlow closeFlow flowEntry property finish startsPlain
  start demand readAnchor readName isNameChar isBreak isGap isSpaceOrEnd isBreakOrEnd endMark
  Cursor.start Cursor.skipComment Cursor.skipWhile Cursor.takeWhile Cursor.peek Cursor.peekAt
  Cursor.skip_zero Cursor.skip_one Cursor.step Cursor.lineBreak List.lookup_cons
  List.takeWhile_cons bind Except.bind

variable (tail : List Char) (found : List Token) (i k : Nat)

theorem next_open : next (start ('\x7b' :: '&' :: tail)) =
    .ok ⟨⟨'&' :: tail, 1, 0, 1⟩, [.flowMappingStart], 1, -1, [], true,
      [(0, ⟨0, false, 0, 0, 0⟩)], false⟩ := by
  simp

theorem next_anchor :
    next ⟨⟨'&' :: 'a' :: '\n' :: tail, 1, 0, 1⟩, found, 1, -1, [], true,
      [(0, ⟨0, false, 0, 0, 0⟩)], false⟩ =
    .ok ⟨⟨'\n' :: tail, 3, 0, 3⟩, .anchor "a" :: found, 1, -1, [], false,
      [(1, ⟨found.length, false, 1, 0, 1⟩), (0, ⟨0, false, 0, 0, 0⟩)], false⟩ := by
  simp

/-- The numeral stands in a line of its own, so what comes before it is no key of one line. -/
theorem next_scalar (hds : ∀ c ∈ ds, c ∈ hexDigits) {place : Nat} :
    next ⟨⟨'\n' :: (hexChars ds ++ ',' :: tail), 3, 0, 3⟩, found, 1, -1, [], false,
      [(1, ⟨place, false, 1, 0, 1⟩), (0, ⟨0, false, 0, 0, 0⟩)], false⟩ =
    .ok ⟨⟨',' :: tail, 4 + (hexChars ds).length, 1, (hexChars ds).length⟩,
      .scalar (String.ofList (hexChars ds)) true :: found, 1, -1, [], false, [], false⟩ := by
  have hread : readPlain true 0 ⟨'0' :: 'x' :: (ds ++ ',' :: tail), 4, 1, 0⟩ =
      (String.ofList (hexChars ds),
        ⟨',' :: tail, 4 + (hexChars ds).length, 1, (hexChars ds).length⟩, false) := by
    have hgeneral := readPlain_hexChars hds tail 0 4 1 0
    rwa [Nat.zero_add] at hgeneral
  have hchars : hexChars ds ++ ',' :: tail = '0' :: 'x' :: (ds ++ ',' :: tail) := rfl
  rw [hchars]
  simp [plain, hread]

theorem next_comma :
    next ⟨⟨',' :: tail, i, 1, k⟩, found, 1, -1, [], false, [], false⟩ =
    .ok ⟨⟨tail, i + 1, 1, k + 1⟩, .flowEntry :: found, 1, -1, [], true, [], false⟩ := by
  simp

theorem next_alias :
    next ⟨⟨' ' :: '*' :: 'a' :: '\n' :: tail, i, 1, k⟩, found, 1, -1, [], true, [], false⟩ =
    .ok ⟨⟨'\n' :: tail, i + 3, 1, k + 3⟩, .alias "a" :: found, 1, -1, [], false,
      [(1, ⟨found.length, false, i + 1, 1, k + 1⟩)], false⟩ := by
  simp

theorem next_close {place index column : Nat} :
    next ⟨⟨['\n', '\x7d', '\n'], i, 1, k⟩, found, 1, -1, [], false,
      [(1, ⟨place, false, index, 1, column⟩)], false⟩ =
    .ok ⟨⟨['\n'], i + 2, 2, 1⟩, .flowMappingEnd :: found, 0, -1, [], false, [], false⟩ := by
  simp

theorem next_end :
    next ⟨⟨['\n'], i, 2, 1⟩, found, 0, -1, [], false, [], false⟩ =
    .ok ⟨⟨[], i + 1, 3, 0⟩, .streamEnd :: found, 0, -1, [], true, [], true⟩ := by
  simp

end Lexer

/-! ### A document with such a key -/

/-- A document whose first key has a name and comes again under that name. -/
def twiceChars (ds : List Char) : List Char :=
  '\x7b' :: '&' :: 'a' :: '\n' :: (hexChars ds ++ [',', ' ', '*', 'a', '\n', '\x7d', '\n'])

theorem tokens_twiceChars (hds : ∀ c ∈ ds, c ∈ hexDigits) : tokens (twiceChars ds) =
    ([.flowMappingStart, .anchor "a", .scalar (String.ofList (hexChars ds)) true, .flowEntry,
      .alias "a", .flowMappingEnd, .streamEnd], none) := by
  have hlength : (twiceChars ds).length + 2 = (ds.length + 7) + 8 := by
    simp [twiceChars, hexChars]
  have hstart : (Lexer.start (twiceChars ds)).ended = false := rfl
  rw [tokens, hlength, Lexer.run_succ, hstart, twiceChars]
  simp only [Lexer.run_succ, Lexer.next_open, Lexer.next_anchor, Lexer.next_scalar _ _ hds,
    Lexer.next_comma, Lexer.next_alias, Lexer.next_close, Lexer.next_end, Bool.false_eq_true,
    if_false, if_true]
  rfl

/-- The node of the document. -/
def twiceRoot (ds : List Char) : Node :=
  .mapping 0 .mapping [(.anchored "a" (.scalar .integer (String.ofList (hexChars ds))), .missing),
    (.alias "a", .missing)]

open Builder in
theorem composes_twice (hne : ds ≠ []) (hds : ∀ c ∈ ds, c ∈ hexDigits) :
    Node.Composes (String.ofList (twiceChars ds)) (twiceRoot ds) where
  permitted := by
    have hpermitted : ∀ c ∈ hexDigits, isPermitted c = true := List.all_eq_true.mp (by decide)
    have hdigits : ds.all isPermitted = true :=
      List.all_eq_true.mpr fun c hc => hpermitted c (hds c hc)
    rw [String.toList_ofList, twiceChars, hexChars]
    simp only [List.all_cons, List.all_append, List.cons_append, hdigits]
    decide
  composed := by
    rw [String.toList_ofList, tokens_twiceChars hds]
    simp [Node.ofTokens, document, node, content, properties, Properties.areComplete, expectMore,
      bind, Except.bind, flowMapping, comes, advance, take, finish, give, withName,
      collectionTag, depthLimit, callLimit, ofPlain_hexChars hne hds, twiceRoot]

theorem key_of_resolve {anchors : Anchors} {n : Node} {s : String} {z : Int}
    (hn : n.resolve anchors = .scalar .integer s) (hs : readInteger s = .ok z) :
    n.key anchors = .ok ⟨.int z, none⟩ := by
  have hvalue : Node.scalarValue anchors (.scalar .integer s) = .ok (.int z) := by
    change (readInteger s).map Value.int = _
    rw [hs]
    rfl
  rw [Node.key, hn]
  change (Node.scalarValue anchors (.scalar .integer s) >>= fun v => _) = _
  rw [hvalue]
  rfl

/-- The key that comes twice. -/
def twiceKey (ds : List Char) : Node.Key := ⟨.int (Decimal.valueIn 16 ds), none⟩

theorem keys_twice (hne : ds ≠ []) (hds : ∀ c ∈ ds, c ∈ hexDigits) :
    (twiceRoot ds).keyNodes.mapM (Node.key (twiceRoot ds).anchors) =
      .ok [twiceKey ds, twiceKey ds] := by
  have hread := readInteger_hexChars hne hds
  refine mapM_cons_eq_ok_iff.mpr ⟨twiceKey ds, [twiceKey ds], key_of_resolve rfl hread, ?_, rfl⟩
  exact mapM_cons_eq_ok_iff.mpr ⟨twiceKey ds, [], key_of_resolve rfl hread, List.mapM_nil, rfl⟩

theorem repeatsFirst_twice (hne : ds ≠ []) (hds : ∀ c ∈ ds, c ∈ hexDigits) :
    (twiceRoot ds).RepeatsFirst (twiceRoot ds).anchors (twiceKey ds) := by
  obtain ⟨k, rest, hk, hrest, hkeys⟩ := mapM_cons_eq_ok_iff.mp (keys_twice hne hds)
  cases hkeys
  obtain ⟨l, rest, hl, hnil, hkeys⟩ := mapM_cons_eq_ok_iff.mp hrest
  cases hkeys
  refine ⟨[twiceKey ds], ⟨[_], _, [], rfl, ?_, hl⟩, List.pairwise_singleton _ _, _,
    List.mem_cons_self, ?_⟩
  · exact mapM_cons_eq_ok_iff.mpr ⟨_, [], hk, List.mapM_nil, rfl⟩
  · simp [twiceKey, Node.Key.same, Value.same, Value.asInt?]

theorem constructible_twice (hne : ds ≠ []) (hds : ∀ c ∈ ds, c ∈ hexDigits) :
    Node.Constructible (twiceRoot ds) where
  valued := rfl
  whole n hn := by
    have hroot : n = twiceRoot ds := by
      have hinner : (twiceRoot ds).inner (twiceRoot ds).anchors = [] := rfl
      induction hn with
      | document hn => exact List.mem_singleton.mp hn
      | held _ hm ih =>
        rw [ih, hinner] at hm
        cases hm
    rw [hroot]
    refine ⟨Or.inl rfl, ⟨_, keys_twice hne hds⟩, fun m hm => ?_⟩
    rcases List.mem_pair.mp hm with rfl | rfl
    · rfl
    · rfl

/-- **A key that comes twice is the fault** whatever number of digits it has. -/
theorem read_twice (hne : ds ≠ []) (hds : ∀ c ∈ ds, c ∈ hexDigits) :
    Yaml.read (String.ofList (twiceChars ds)) = .error (twiceKey ds).fault := by
  have hinspect := Node.inspect_of_repeatsFirst (repeatsFirst_twice hne hds)
  have hvisit : (⟨(twiceRoot ds).anchors, [0], []⟩ : Reading).visit (twiceRoot ds) =
      .error (twiceKey ds).fault := by
    rw [Reading.visit_eq _ rfl, hinspect]
    rfl
  have hmeet : (twiceRoot ds).check = Reading.visitAll ((twiceRoot ds).size + 1)
      ⟨(twiceRoot ds).anchors, [0], [twiceRoot ds]⟩ := Node.check_eq _
  refine (composes_twice hne hds).read_eq_error_iff.mpr ?_
  rw [hmeet, Reading.visitAll]
  dsimp only
  rw [hvisit]
  rfl

end SchemaDepot.Yaml
