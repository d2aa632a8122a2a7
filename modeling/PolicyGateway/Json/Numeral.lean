import PolicyGateway.Number

/-!
# Numerals

A numeral is read in two steps. First its digits are collected as they
stand; then a value is made of them.

An integer keeps its exact value as long as a 64-bit word holds it. All
else becomes a binary64 number in a fixed way: the digits are gathered into
a **significand** while a word holds it, later digits before the point
count as powers of ten and later digits behind it are dropped; then the
significand, rounded once, is multiplied or divided by a power of ten,
rounded once more. The result can differ from the nearest number in its
last bit. A number beyond the greatest finite one has no value, while one
too small to tell from zero is zero. Minus zero is a real number, since no
integer has that sign.
-/

namespace PolicyGateway.Json

/-- The sign and the digits of an exponent. -/
structure Exponent where
  /-- Whether it is negative. -/
  negative : Bool
  /-- The digits, most significant first. -/
  digits : List Nat
  deriving Repr, DecidableEq

/-- **A numeral as it is written.** It is kept apart from its value, since a
number beyond all range is written correctly and has none. -/
structure Numeral where
  /-- Whether a minus stands in front. -/
  negative : Bool
  /-- The digits before the point, most significant first. -/
  whole : List Nat
  /-- The digits behind the point, if there is one. -/
  fraction : Option (List Nat)
  /-- The exponent, if there is one. -/
  exponent : Option Exponent
  deriving Repr, DecidableEq

namespace Numeral

/-- The value of a row of decimal digits. -/
def digitsValue (digits : List Nat) : Nat :=
  digits.foldl (fun n d => 10 * n + d) 0

/-- **Gather digits** behind a significand while a 64-bit word holds the
result. Gives the significand and the digits that no longer fit. -/
def gather (significand : Nat) : List Nat → Nat × List Nat
  | [] => (significand, [])
  | d :: rest =>
    if 10 * significand + d < UInt64.size then gather (10 * significand + d) rest
    else (significand, d :: rest)

/-- The greatest power of ten by which a number is scaled in one step. -/
def greatestStep : Nat := 308

/-- The binary64 number nearest to a power of ten. -/
def powerOfTen (e : Nat) : Binary64 :=
  (Binary64.ofNat? (Nat.pow 10 e)).getD Binary64.zero

/-- **Scale by a power of ten.** Up to the greatest step it is one
multiplication or division. Beyond it, zero stays zero, a positive
exponent has no result, and a negative one is taken a greatest step at a
time; three of these make any significand zero. -/
def scale : Nat → Binary64 → Int → Option Binary64
  | 0, x, _ => some x
  | steps + 1, x, e =>
    if e.natAbs ≤ greatestStep then
      if 0 ≤ e then x.mul? (powerOfTen e.natAbs)
      else x.div? (powerOfTen e.natAbs)
    else if x.isZero then some x
    else if 0 ≤ e then none
    else
      match x.div? (powerOfTen greatestStep) with
      | some y => scale steps y (e + greatestStep)
      | none => none

/-- The greatest exponent that is read; a greater one stands for more than
any number. -/
def greatestExponent : Nat := 2147483647

/-- **The real value** of a significand and the powers of ten that its
digits stand for, under a sign and a written exponent. -/
def realValue? (negative : Bool) (significand : Nat) (shift : Int)
    (exponent : Option Exponent) : Option Binary64 :=
  let signed (x : Binary64) : Binary64 := if negative then x.neg else x
  let scaled (e : Int) : Option Binary64 :=
    ((Binary64.ofNat? significand).bind (scale 4 · e)).map signed
  match exponent with
  | none => scaled shift
  | some written =>
    let e := digitsValue written.digits
    if greatestExponent < e then
      if significand ≠ 0 ∧ !written.negative then none
      else some (signed Binary64.zero)
    else scaled (if written.negative then shift - e else shift + e)

/-- **The value of a numeral**, or none where it is out of range. -/
def value? (n : Numeral) : Option Number :=
  let (significand, later) := gather 0 n.whole
  match n.fraction, n.exponent, later with
  | none, none, [] =>
    if n.negative then
      if 0 < significand ∧ Number.leastInteger ≤ -(significand : Int) then
        some (.integer (-(significand : Int)))
      else (realValue? true significand 0 none).map .real
    else some (.integer significand)
  | fraction, exponent, later =>
    let digits := fraction.getD []
    let (significand, dropped) := gather significand digits
    let kept := digits.length - dropped.length
    (realValue? n.negative significand ((later.length : Int) - kept)
      exponent).map .real

end Numeral

end PolicyGateway.Json
