import PolicyGateway.Binary64.Shortest

/-!
# Numbers of documents

A document distinguishes integers from numbers with a fraction or an
exponent: `3` and `3.0` are different values. Integers are exact and lie
in the range of 64-bit words, signed or not; all else is a binary64
number.
-/

namespace PolicyGateway

/-- **A number of a document.** An integer is kept exactly, as long as it is
within its bounds; any other number is rounded. -/
inductive Number where
  /-- An integer. -/
  | integer (n : Int)
  /-- A number with a fraction or an exponent. -/
  | real (x : Binary64)
  deriving Repr, DecidableEq

namespace Number

/-- The least integer that a document can hold. -/
def leastInteger : Int := -0x8000000000000000

/-- The greatest integer that a document can hold. -/
def greatestInteger : Int := UInt64.size - 1

/-- The decimal text of an integer. -/
def integerText (n : Int) : List Char :=
  (if n < 0 then ['-'] else []) ++ Nat.toDigits 10 n.natAbs

/-- **The text of a number.** -/
def text : Number → List Char
  | integer n => integerText n
  | real x => x.text

end Number

end PolicyGateway
