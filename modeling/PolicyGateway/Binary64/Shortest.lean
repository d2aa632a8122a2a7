import PolicyGateway.Binary64

/-!
# The shortest decimal that reads back

A binary64 number is written with the fewest digits that still name it and
no other number of the format; of several such decimals the nearest to the
number is taken, and of two equally near ones that with the even last
digit.

The numbers that round to a given one form an interval around it. Its ends
lie half way to the neighbours and belong to it exactly if the significand
is even. The search goes through the decimal grids from coarse to fine and
looks, on each, at the two grid points next to the number. Seventeen digits
always suffice.
-/

namespace PolicyGateway.Binary64

/-- **The numbers that round to a given one**, as quotients with one
denominator. -/
structure Interval where
  /-- The lower end. -/
  low : Nat
  /-- The number itself. -/
  middle : Nat
  /-- The upper end. -/
  high : Nat
  /-- The common denominator. -/
  den : Nat
  /-- Whether the ends belong to it. -/
  closed : Bool

/-- **The rounding interval** of the absolute value. Below a power of two
the neighbour is only half as far, except at the least exponent. -/
def interval (x : Binary64) : Interval :=
  let m := x.significand
  let below := if m = leastNormal ∧ leastExponent < x.exponent then 1 else 2
  let (unit, den) :=
    match x.exponent with
    | .ofNat k => (1 <<< k, 4)
    | .negSucc k => (1, 4 <<< (k + 1))
  { low := (4 * m - below) * unit
    middle := 4 * m * unit
    high := (4 * m + 2) * unit
    den := den
    closed := m % 2 == 0 }

/-- Whether `num / den` lies in the interval, `den` scaled by `scale` and
the interval by `unscale`. -/
def Interval.holds (i : Interval) (point scale unscale : Nat) : Bool :=
  let p := point * scale * i.den
  if i.closed then i.low * unscale ≤ p && p ≤ i.high * unscale
  else i.low * unscale < p && p < i.high * unscale

/-- Ten to the power `e` as a quotient. -/
def tenPower (e : Int) : Nat × Nat :=
  match e with
  | .ofNat k => (Nat.pow 10 k, 1)
  | .negSucc k => (1, Nat.pow 10 (k + 1))

/-- **The best point of one decimal grid** in the interval: the multiple of
`10 ^ e` nearest to the number, if one of its two neighbours on the grid
rounds to it. -/
def gridPoint? (i : Interval) (e : Int) : Option Nat :=
  let (scale, unscale) := tenPower e
  let num := i.middle * unscale
  let den := i.den * scale
  let lower := num / den
  let upper := lower + 1
  match i.holds lower scale unscale, i.holds upper scale unscale with
  | true, true =>
    let twice := 2 * (num % den)
    if twice < den then some lower
    else if den < twice then some upper
    else if lower % 2 = 0 then some lower else some upper
  | true, false => some lower
  | false, true => some upper
  | false, false => none

/-- How many digits a positive quotient has before the point; zero or less
where it is below one tenth. -/
def decimalPlaces (num den : Nat) : Int :=
  if den ≤ num then (Nat.toDigits 10 (num / den)).length
  else
    let zeros := (Nat.toDigits 10 ((den - 1) / num)).length
    if den ≤ num * Nat.pow 10 (zeros - 1) then 2 - (zeros : Int)
    else 1 - (zeros : Int)

/-- The first grid with a point in the interval, from `e` downwards. -/
def search (i : Interval) : Nat → Int → Option (Nat × Int)
  | 0, _ => none
  | tries + 1, e =>
    match gridPoint? i e with
    | some point => some (point, e)
    | none => search i tries (e - 1)

/-- A decimal without the zeros at its end. -/
def dropZeros : Nat → Nat × Int → Nat × Int
  | 0, d => d
  | tries + 1, (point, e) =>
    if point ≠ 0 ∧ point % 10 = 0 then dropZeros tries (point / 10, e + 1)
    else (point, e)

/-- **The shortest decimal** `digits * 10 ^ exponent` of a number other
than zero. -/
def shortest (x : Binary64) : Nat × Int :=
  let i := x.interval
  let places := decimalPlaces i.middle i.den
  match search i 18 places with
  | some decimal => dropZeros 20 decimal
  | none => (0, 0)

/-- **The text of a number.** From `0.00001` up to sixteen digits before
the point it is positional, with at least one digit behind the point;
otherwise it has one digit before the point, `e` and a signed exponent. -/
def text (x : Binary64) : List Char :=
  let sign := if x.negative then ['-'] else []
  if x.isZero then sign ++ ['0', '.', '0']
  else
    let (point, e) := x.shortest
    let digits := Nat.toDigits 10 point
    let magnitude : Int := e + digits.length - 1
    sign ++
      if -5 ≤ magnitude ∧ magnitude < 16 then
        if 0 ≤ e then digits ++ List.replicate e.toNat '0' ++ ['.', '0']
        else if 0 ≤ magnitude then
          digits.take (magnitude.toNat + 1) ++ '.' ::
            digits.drop (magnitude.toNat + 1)
        else
          ['0', '.'] ++ List.replicate (-magnitude - 1).toNat '0' ++ digits
      else
        (match digits with
          | [] => []
          | [d] => [d]
          | d :: more => d :: '.' :: more) ++
        'e' :: (if magnitude < 0 then '-' else '+') ::
          Nat.toDigits 10 magnitude.natAbs

end PolicyGateway.Binary64
