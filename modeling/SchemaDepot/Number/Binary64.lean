/-
# Binary floating point of 64 bits

A finite number is a sign, a significand below 2^53 and an exponent of at least
-1074; the significand is at least 2^52 unless the exponent is the least one. So
each number but zero has one form, and zero has one of each sign. Results that
are no such number go to the nearest one, a tie to the even significand, and
beyond the greatest one to infinity.

Key definitions: `Binary64`, `Binary64.ofRatio`, `Binary64.add`, `Binary64.mul`,
`Binary64.eqInt`.
-/
import SchemaDepot.Number.Decimal

namespace SchemaDepot

/-- A power of two. -/
def twoTo (n : Nat) : Nat := Nat.pow 2 n

/-- A binary floating point number of 64 bits. -/
inductive Binary64
  | nan
  | infinite (negative : Bool)
  /-- Significand times two to the exponent, with a sign. -/
  | finite (negative : Bool) (significand : Nat) (exponent : Int)
deriving DecidableEq

namespace Binary64

/-- The least exponent. -/
def leastExponent : Int := -1074

/-- The greatest exponent. -/
def greatestExponent : Int := 971

/-- Zero without a sign. -/
def zero : Binary64 := .finite false 0 leastExponent

/-- The quotient rounded to the nearest integer, a tie to the even one. -/
def roundDiv (num den : Nat) : Nat :=
  let q := num / den
  let r := num % den
  if 2 * r > den || (2 * r == den && q % 2 == 1) then q + 1 else q

/-- The numerator and denominator of `num / den` divided by two to the exponent. -/
def scaled (num den : Nat) (e : Int) : Nat × Nat :=
  if e < 0 then (num * twoTo e.natAbs, den) else (num, den * twoTo e.natAbs)

/-- The exponent that gives `num / den` a significand of 53 bits, or the least
exponent if that is too small. -/
def exponentFor (num den : Nat) : Int :=
  let guess : Int := (Nat.log2 num : Int) - (Nat.log2 den : Int) - 52
  let q := (scaled num den guess).1 / (scaled num den guess).2
  let e := if q < twoTo 52 then guess - 1 else if q ≥ twoTo 53 then guess + 1 else guess
  max e leastExponent

/-- The number nearest to `num / den`, where `den` is not zero. -/
def ofRatio (negative : Bool) (num den : Nat) : Binary64 :=
  if num = 0 then .finite negative 0 leastExponent
  else
    let e := exponentFor num den
    let m := roundDiv (scaled num den e).1 (scaled num den e).2
    let (m, e) := if m = twoTo 53 then (twoTo 52, e + 1) else (m, e)
    if e > greatestExponent then .infinite negative else .finite negative m e

/-- The number nearest to a whole number of powers of two. -/
def ofScaled (k : Int) (e : Int) : Binary64 :=
  if e < 0 then ofRatio (k < 0) k.natAbs (twoTo e.natAbs)
  else ofRatio (k < 0) (k.natAbs * twoTo e.natAbs) 1

/-- The number nearest to an integer. -/
def ofInt (k : Int) : Binary64 := ofScaled k 0

/-- The number nearest to an integer times a power of ten. A power beyond every
number is not computed. -/
def ofDecimal (negative : Bool) (digits : Nat) (power : Int) : Binary64 :=
  if digits = 0 then .finite negative 0 leastExponent
  else
    let size : Int := (Nat.log2 digits : Int) / 4 + power
    let most : Int := (Nat.log2 digits : Int) / 3 + 1 + power
    if size > 400 then .infinite negative
    else if most < -400 then .finite negative 0 leastExponent
    else if power < 0 then ofRatio negative digits (tenTo power.natAbs)
    else ofRatio negative (digits * tenTo power.natAbs) 1

/-- The significand with its sign. -/
def signed (negative : Bool) (m : Nat) : Int := if negative then -(m : Int) else m

/-- The number of the other sign. -/
def neg : Binary64 → Binary64
  | .nan => .nan
  | .infinite s => .infinite !s
  | .finite s m e => .finite (!s) m e

/-- The sum, rounded. -/
def add : Binary64 → Binary64 → Binary64
  | .nan, _ | _, .nan => .nan
  | .infinite s, .infinite t => if s = t then .infinite s else .nan
  | .infinite s, .finite _ _ _ => .infinite s
  | .finite _ _ _, .infinite t => .infinite t
  | .finite s m e, .finite t n f =>
    let low := min e f
    let k := signed s m * twoTo (e - low).natAbs + signed t n * twoTo (f - low).natAbs
    if k = 0 then .finite (s && t) 0 leastExponent else ofScaled k low

/-- The product, rounded. -/
def mul : Binary64 → Binary64 → Binary64
  | .nan, _ | _, .nan => .nan
  | .infinite s, .infinite t => .infinite (s != t)
  | .infinite s, .finite t n _ => if n = 0 then .nan else .infinite (s != t)
  | .finite s m _, .infinite t => if m = 0 then .nan else .infinite (s != t)
  | .finite s m e, .finite t n f =>
    if m * n = 0 then .finite (s != t) 0 leastExponent
    else if e + f < 0 then ofRatio (s != t) (m * n) (twoTo (e + f).natAbs)
    else ofRatio (s != t) (m * n * twoTo (e + f).natAbs) 1

/-- The number is zero, of either sign. -/
def isZero : Binary64 → Bool
  | .finite _ m _ => m == 0
  | _ => false

/-- Both stand for the same number. The zeros are the same, and "not a number" is
the same as nothing, itself included. -/
def same (x y : Binary64) : Bool := (x.isZero && y.isZero) || (x == y && x != .nan)

/-- The number is the given integer. -/
def eqInt : Binary64 → Int → Bool
  | .finite s m e, k =>
    if e < 0 then signed s m == k * twoTo e.natAbs else signed s m * twoTo e.natAbs == k
  | _, _ => false

end Binary64

end SchemaDepot
