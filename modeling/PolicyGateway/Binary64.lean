/-!
# Finite binary64 numbers

A number with a fraction or a large exponent is kept as the nearest number
that 53 significant bits and the exponents of binary64 allow. The module
holds such numbers exactly, as a sign, a significand and a power of two,
and computes with natural numbers only, so that every result can be
reasoned about.

The one primitive is `nearest?`, which rounds a quotient of natural numbers
to the nearest number of the format, a tie going to the even significand.
Reading an integer, multiplying and dividing are instances of it. A result
beyond the largest finite number is no number here.
-/

namespace PolicyGateway

/-- **A finite binary64 number**: `± significand * 2 ^ exponent`. The
significand has at most 53 bits, and fewer only at the least exponent. -/
structure Binary64 where
  /-- Whether the sign bit is set; zero has two signs. -/
  negative : Bool
  /-- The significand. -/
  significand : Nat
  /-- The power of two it is scaled by. -/
  exponent : Int
  deriving Repr, DecidableEq

namespace Binary64

/-- The least exponent of the format. -/
def leastExponent : Int := -1074

/-- The greatest exponent of the format. -/
def greatestExponent : Int := 971

/-- The least significand that has 53 bits. -/
def leastNormal : Nat := 0x10000000000000

/-- Zero. -/
def zero : Binary64 := ⟨false, 0, leastExponent⟩

/-- The quotient `num / (den * 2 ^ e)` as a pair of natural numbers. -/
def scaled (num den : Nat) (e : Int) : Nat × Nat :=
  match e with
  | .ofNat k => (num, den <<< k)
  | .negSucc k => (num <<< (k + 1), den)

/-- The exponent at which a positive quotient has 53 bits before the
point, or the least exponent where that is greater. -/
def exponentFor (num den : Nat) : Int :=
  let guess : Int := (Nat.log2 num : Int) - Nat.log2 den - 52
  let (a, b) := scaled num den guess
  max leastExponent (if a < b <<< 52 then guess - 1 else guess)

/-- **The nearest natural number to a quotient**; a tie goes to the even
one. -/
def roundHalfEven (num den : Nat) : Nat :=
  let q := num / den
  let twice := 2 * (num % den)
  if twice < den then q
  else if den < twice then q + 1
  else if q % 2 = 0 then q else q + 1

/-- **The nearest number of the format to a quotient**, with a sign; none
where it lies beyond the largest finite number. -/
def nearest? (negative : Bool) (num den : Nat) : Option Binary64 :=
  if num = 0 then some { zero with negative }
  else
    let e := exponentFor num den
    let (a, b) := scaled num den e
    let m := roundHalfEven a b
    let (m, e) := if m = 2 * leastNormal then (leastNormal, e + 1) else (m, e)
    if greatestExponent < e then none else some ⟨negative, m, e⟩

/-- The absolute value as a quotient of natural numbers. -/
def ratio (x : Binary64) : Nat × Nat :=
  match x.exponent with
  | .ofNat k => (x.significand <<< k, 1)
  | .negSucc k => (x.significand, 1 <<< (k + 1))

/-- Whether the number is zero, of either sign. -/
def isZero (x : Binary64) : Bool :=
  x.significand == 0

/-- The number nearest to a natural number. -/
def ofNat? (n : Nat) : Option Binary64 :=
  nearest? false n 1

/-- The same number with the other sign. -/
def neg (x : Binary64) : Binary64 :=
  { x with negative := !x.negative }

/-- **The rounded product.** -/
def mul? (x y : Binary64) : Option Binary64 :=
  let (a, b) := x.ratio
  let (c, d) := y.ratio
  nearest? (x.negative != y.negative) (a * c) (b * d)

/-- **The rounded quotient** by a number other than zero. -/
def div? (x y : Binary64) : Option Binary64 :=
  let (a, b) := x.ratio
  let (c, d) := y.ratio
  if y.isZero then none
  else nearest? (x.negative != y.negative) (a * d) (b * c)

end Binary64

end PolicyGateway
