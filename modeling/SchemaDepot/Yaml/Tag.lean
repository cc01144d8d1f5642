/-
# Tags

The tag of a node says what kind of value it stands for. A plain scalar without a
tag gets one from its text: words for truth values and nothing, decimal, octal,
hexadecimal, binary and base 60 integers, decimals with a point, dates and times.
Every other text is a text. A line feed at the end does not count.

Key definitions: `Yaml.Tag`, `Yaml.Tag.ofName`, `Yaml.Tag.ofPlain`.
-/
import SchemaDepot.Text.Lines
import SchemaDepot.Text.Numeral

namespace SchemaDepot.Yaml

/-- The kind of value a node stands for. -/
inductive Tag
  | text
  | integer
  | decimal
  | truth
  | nothing
  | moment
  | bytes
  | mapping
  | sequence
  | set
  /-- A sequence of mappings with one entry each. -/
  | pairs
  /-- The place of a default value; it stands for no value itself. -/
  | default
  /-- Any other. -/
  | unknown
deriving DecidableEq

/-- What the names of the common tags start with. -/
def commonTags : String := "tag:yaml.org,2002:"

/-- The common tags by the ends of their names. -/
def tagNames : List (String × Tag) :=
  [("str", .text), ("int", .integer), ("float", .decimal), ("bool", .truth), ("null", .nothing),
   ("timestamp", .moment), ("binary", .bytes), ("map", .mapping), ("seq", .sequence),
   ("set", .set), ("omap", .pairs), ("pairs", .pairs), ("value", .default)]

/-- The tag of a name. -/
def Tag.ofName (name : String) : Tag :=
  ((tagNames.find? fun t => commonTags ++ t.1 = name).map Prod.snd).getD .unknown

/-! ### The forms of plain scalars -/

/-- The text without its sign, if it has one. -/
def withoutSign : List Char → List Char
  | '+' :: cs => cs
  | '-' :: cs => cs
  | cs => cs

/-- Parts in base 60 after a first number: each a colon and one or two digits,
the first of two below 6. What is left comes after them. -/
def afterSixties : List Char → List Char
  | ':' :: a :: b :: cs =>
    if '0' ≤ a && a ≤ '5' && Text.isAsciiDigit b then afterSixties cs
    else if Text.isAsciiDigit a then afterSixties (b :: cs)
    else ':' :: a :: b :: cs
  | [':', a] => if Text.isAsciiDigit a then [] else [':', a]
  | cs => cs

/-- A digit of a base up to eight, or an underscore. -/
def isLowDigit (last : Char) (c : Char) : Bool := ('0' ≤ c && c ≤ last) || c = '_'

/-- A digit, or an underscore. -/
def isDigitOrUnderscore (c : Char) : Bool := Text.isAsciiDigit c || c = '_'

/-- The form of an integer: binary, octal, decimal, hexadecimal or base 60. -/
def isIntegerForm (cs : List Char) : Bool :=
  match withoutSign cs with
  | ['0'] => true
  | '0' :: 'b' :: ds => !ds.isEmpty && ds.all (isLowDigit '1')
  | '0' :: 'x' :: ds =>
    !ds.isEmpty && ds.all fun c =>
      isDigitOrUnderscore c || ('a' ≤ c && c ≤ 'f') || ('A' ≤ c && c ≤ 'F')
  | '0' :: ds => ds.all (isLowDigit '7')
  | d :: ds =>
    let rest := ds.dropWhile isDigitOrUnderscore
    ('1' ≤ d && d ≤ '9') && (rest.isEmpty || (afterSixties rest).isEmpty)
  | [] => false

/-- An exponent with a sign, or nothing. -/
def isExponent : List Char → Bool
  | [] => true
  | e :: s :: ds =>
    (e = 'e' || e = 'E') && (s = '+' || s = '-') && !ds.isEmpty && ds.all Text.isAsciiDigit
  | _ => false

/-- The form of a decimal with a point; a base 60 number has no exponent, and a
sign needs a digit or the word for infinity after it. -/
def isDecimalForm (cs : List Char) : Bool :=
  let unsigned := withoutSign cs
  match unsigned with
  | '.' :: word =>
    word ∈ ["inf".toList, "Inf".toList, "INF".toList] ||
      (unsigned = cs &&
        (word ∈ ["nan".toList, "NaN".toList, "NAN".toList] ||
          ((word.head?.any Text.isAsciiDigit) && isExponent (word.dropWhile isDigitOrUnderscore))))
  | d :: ds =>
    Text.isAsciiDigit d &&
      match ds.dropWhile isDigitOrUnderscore with
      | '.' :: fraction => isExponent (fraction.dropWhile isDigitOrUnderscore)
      | ':' :: rest =>
        match afterSixties (':' :: rest) with
        | '.' :: fraction => fraction.all isDigitOrUnderscore
        | _ => false
      | _ => false
  | [] => false

/-- What is left after digits, of which there must be at least `least` and at
most `most`; as many as possible are taken. -/
def afterDigits? (least most : Nat) (cs : List Char) : Option (List Char) :=
  let n := ((cs.take most).takeWhile Text.isAsciiDigit).length
  if least ≤ n then some (cs.drop n) else none

/-- What is left after a character. -/
def afterChar? (x : Char) : List Char → Option (List Char)
  | c :: cs => if c = x then some cs else none
  | [] => none

/-- What is left after a year, a month and a day with hyphens between. -/
def afterDate? (least : Nat) (cs : List Char) : Option (List Char) := do
  let cs ← afterDigits? 4 4 cs
  let cs ← afterChar? '-' cs
  let cs ← afterDigits? least 2 cs
  let cs ← afterChar? '-' cs
  afterDigits? least 2 cs

/-- A space or a tab between the parts of a moment. -/
def isMomentGap (c : Char) : Bool := c = ' ' || c = '\t'

/-- What is left after the gap between a date and a time. -/
def afterTimeMark? : List Char → Option (List Char)
  | c :: cs =>
    if c = 'T' || c = 't' then some cs
    else if isMomentGap c then some (cs.dropWhile isMomentGap)
    else none
  | [] => none

/-- What is left after a time of day, with or without a fraction of a second. -/
def afterTime? (cs : List Char) : Option (List Char) := do
  let cs ← afterDigits? 1 2 cs
  let cs ← afterChar? ':' cs
  let cs ← afterDigits? 2 2 cs
  let cs ← afterChar? ':' cs
  let cs ← afterDigits? 2 2 cs
  match cs with
  | '.' :: fraction => some (fraction.dropWhile Text.isAsciiDigit)
  | _ => some cs

/-- A zone and nothing else: `Z`, or a sign, hours and perhaps minutes. -/
def isZone : List Char → Bool
  | ['Z'] => true
  | s :: cs =>
    (s = '+' || s = '-') &&
      match afterDigits? 1 2 cs with
      | some [] => true
      | some (':' :: minutes) => afterDigits? 2 2 minutes = some []
      | _ => false
  | [] => false

/-- The form of a date or of a moment. A date alone has two digits for the month
and for the day. -/
def isMomentForm (cs : List Char) : Bool :=
  (afterDate? 2 cs = some []) ||
    match afterDate? 1 cs >>= afterTimeMark? >>= afterTime? with
    | some rest => rest.isEmpty || isZone (rest.dropWhile isMomentGap)
    | none => false

/-- The words for truth values. -/
def truthWords : List String :=
  ["yes", "Yes", "YES", "no", "No", "NO", "true", "True", "TRUE", "false", "False", "FALSE",
   "on", "On", "ON", "off", "Off", "OFF"]

/-- The words for nothing. -/
def nothingWords : List String := ["~", "null", "Null", "NULL", ""]

/-- Words with a meaning of their own that is no value. -/
def specialWords : List String := ["<<", "!", "&", "*"]

/-- The tag that a plain scalar gets from its text. -/
def Tag.ofPlain (s : String) : Tag :=
  let cs := Text.withoutFinalBreak s.toList
  let word := String.ofList cs
  if truthWords.contains word then .truth
  else if isDecimalForm cs then .decimal
  else if isIntegerForm cs then .integer
  else if nothingWords.contains word && (cs ≠ [] || s.isEmpty) then .nothing
  else if isMomentForm cs then .moment
  else if word = "=" then .default
  else if specialWords.contains word then .unknown
  else .text

end SchemaDepot.Yaml
