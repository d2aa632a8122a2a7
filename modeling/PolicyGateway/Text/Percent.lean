import PolicyGateway.Text.Numeral
import PolicyGateway.Text.Utf8

/-!
# Percent encoding

Where a text may not hold every character, a percent sign and two
hexadecimal digits stand for a byte. `percentEncode` spells a text so that
only permitted characters are left, `percentDecode` gives the bytes back. A
percent sign that two digits do not follow stands for itself.
-/

namespace PolicyGateway.Text

/-- The value of a byte as a hexadecimal digit. -/
def hexByte? (b : UInt8) : Option Nat :=
  hexDigit? (Char.ofNat b.toNat)

/-- **Bytes with their percent signs resolved.** -/
def percentDecode : List UInt8 → List UInt8
  | 0x25 :: a :: b :: rest =>
    match hexByte? a, hexByte? b with
    | some x, some y => UInt8.ofNat (16 * x + y) :: percentDecode rest
    | _, _ => 0x25 :: percentDecode (a :: b :: rest)
  | b :: rest => b :: percentDecode rest
  | [] => []

/-- The digit of a value below sixteen, in upper case. -/
def upperHexDigit (n : Nat) : Char :=
  Char.ofNat (if n < 10 then 48 + n else 55 + n)

/-- A byte behind a percent sign. -/
def percentByte (b : UInt8) : List Char :=
  ['%', upperHexDigit (b.toNat / 16), upperHexDigit (b.toNat % 16)]

/-- **A text in permitted characters**: the bytes of every other one are
spelled out. -/
def percentEncode (isPermitted : Char → Bool) (cs : List Char) :
    List Char :=
  cs.flatMap fun c =>
    if isPermitted c then [c] else (Utf8.encode [c]).flatMap percentByte

end PolicyGateway.Text
