/-
# The shortest decimal that reads back

A number is written with the fewest significant digits that are read as the same
number; of several such decimals the one nearest to the number is taken, and of
two equally near the one with the even last digit. The point stands among the
digits while the first digit counts at least a ten-thousandth and less than
10^16; outside that range the digits are followed by a power of ten whose
exponent has a sign and at least two digits. A whole number keeps one zero after
its point.

Key definitions: `Binary64.shortest`, `Binary64.text`, `Binary64.read?`.
-/
import SchemaDepot.Number.Binary64
import SchemaDepot.Number.Decimal
import SchemaDepot.Text.Numeral

namespace SchemaDepot.Binary64

/-- The power of ten of the first digit of `num / den`, both above zero. -/
def firstDigitPower (num den : Nat) : Int :=
  if num ≥ den then (Decimal.digits (num / den)).length - 1
  else
    let l := (Decimal.digits (den / num)).length
    if num * tenTo (l - 1) ≥ den then -((l : Int) - 1) else -(l : Int)

/-- The numbers that are read as `m * 2 ^ e` lie between two bounds; this says
whether `d * 10 ^ p` does. The bounds belong to it when the significand is even. -/
def readsBack (m : Nat) (e : Int) (d : Nat) (p : Int) : Bool :=
  let lower : Nat × Int := if m = twoTo 52 ∧ e > leastExponent then (4 * m - 1, e - 2) else (2 * m - 1, e - 1)
  let upper : Nat × Int := (2 * m + 1, e - 1)
  let below := compare lower.1 lower.2
  let above := compare upper.1 upper.2
  if m % 2 = 0 then below != .lt && above != .gt else below == .gt && above == .lt
where
  /-- How `d * 10 ^ p` compares with `b * 2 ^ f`. -/
  compare (b : Nat) (f : Int) : Ordering :=
    let left := d * (if p < 0 then 1 else tenTo p.natAbs) * (if f < 0 then twoTo f.natAbs else 1)
    let right := b * (if f < 0 then 1 else twoTo f.natAbs) * (if p < 0 then tenTo p.natAbs else 1)
    Ord.compare left right

/-- The best decimal with `count` significant digits that reads back, if any. -/
def decimalWith (m : Nat) (e : Int) (count : Nat) : Option (Nat × Int) :=
  let (num, den) := scaled m 1 (-e)
  let p := firstDigitPower num den - (count - 1 : Nat)
  let (n, d) := if p < 0 then (num * tenTo p.natAbs, den) else (num, den * tenTo p.natAbs)
  let low := n / d
  let nearest := roundDiv n d
  let other := if nearest = low then low + 1 else low
  if readsBack m e nearest p then some (nearest, p)
  else if readsBack m e other p then some (other, p)
  else none

/-- The digits without the zeros at their end, and the power of ten that keeps
the value. -/
def dropZeros : (fuel d : Nat) → Int → Nat × Int
  | 0, d, p => (d, p)
  | fuel + 1, d, p => if d % 10 = 0 ∧ d ≠ 0 then dropZeros fuel (d / 10) (p + 1) else (d, p)

/-- The digits and the power of ten of the shortest decimal that reads back, for
a significand above zero. Seventeen digits always suffice. -/
def shortest (m : Nat) (e : Int) : Nat × Int :=
  match (List.range 17).findSome? fun i => decimalWith m e (i + 1) with
  | some (d, p) => dropZeros 20 d p
  | none => (0, 0)

/-- The layout of a decimal: positional in the middle range, else with a power. -/
def layout (ds : List Char) (p : Int) : List Char :=
  let point : Int := ds.length + p
  if -4 < point ∧ point ≤ 16 then
    if point ≤ 0 then '0' :: '.' :: (List.replicate point.natAbs '0' ++ ds)
    else if ds.length ≤ point.natAbs then
      ds ++ List.replicate (point.natAbs - ds.length) '0' ++ ['.', '0']
    else ds.take point.natAbs ++ '.' :: ds.drop point.natAbs
  else
    let power := Decimal.digits (point - 1).natAbs
    let power := if power.length < 2 then '0' :: power else power
    let head := match ds with
      | [] => []
      | [d] => [d]
      | d :: rest => d :: '.' :: rest
    head ++ 'e' :: (if point - 1 < 0 then '-' else '+') :: power

/-- The text of a number. -/
def text : Binary64 → String
  | .nan => "nan"
  | .infinite s => if s then "-inf" else "inf"
  | .finite s m e =>
    let body :=
      if m = 0 then ['0', '.', '0']
      else layout (Decimal.digits (shortest m e).1) (shortest m e).2
    String.ofList (if s then '-' :: body else body)

/-! ### Reading -/

/-- The digits of a run in which single underscores may stand between digits. -/
def digitRun? : List Char → Option (List Char)
  | [] => some []
  | [c] => if Text.isAsciiDigit c then some [c] else none
  | c :: d :: rest =>
    if Text.isAsciiDigit c then
      if d = '_' then
        match rest with
        | [] => none
        | x :: _ => if Text.isAsciiDigit x then (digitRun? rest).map (c :: ·) else none
      else (digitRun? (d :: rest)).map (c :: ·)
    else none

/-- An unsigned decimal: digits with at most one point, then perhaps `e` and a
whole exponent. -/
def readUnsigned? (negative : Bool) (cs : List Char) : Option Binary64 := do
  let mantissa := cs.takeWhile fun c => c != 'e' && c != 'E'
  let tail := cs.drop mantissa.length
  let whole ← digitRun? (mantissa.takeWhile (· != '.'))
  let afterPoint := mantissa.dropWhile (· != '.')
  let fraction ← digitRun? (afterPoint.drop 1)
  if whole.isEmpty && fraction.isEmpty then none
  let power ← match tail with
    | [] => some (0 : Int)
    | _ :: '-' :: ds => exponent? ds |>.map fun n => -(n : Int)
    | _ :: '+' :: ds => exponent? ds |>.map Int.ofNat
    | _ :: ds => exponent? ds |>.map Int.ofNat
  some (ofDecimal negative (Decimal.value (whole ++ fraction)) (power - fraction.length))
where
  /-- The digits after the `e`, of which there is at least one. -/
  exponent? (ds : List Char) : Option Nat := do
    let run ← digitRun? ds
    if run.isEmpty then none else some (Decimal.value run)

/-- The number a text denotes: a decimal or the name of infinity or of "not a
number", with an optional sign and blanks around it. -/
def read? (s : String) : Option Binary64 :=
  match Text.trimNumeral s.toList with
  | '-' :: rest => unsigned? true rest
  | '+' :: rest => unsigned? false rest
  | rest => unsigned? false rest
where
  /-- What stands after the sign. -/
  unsigned? (negative : Bool) (cs : List Char) : Option Binary64 :=
    let word := String.ofList (cs.map Char.toLower)
    if word == "inf" || word == "infinity" then some (.infinite negative)
    else if word == "nan" then some .nan
    else readUnsigned? negative cs

end SchemaDepot.Binary64
