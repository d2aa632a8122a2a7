/-!
# Base64

Three bytes are four digits of six bits. One or two bytes at the end make
two or three digits, and equals signs fill the group up, so that every text
has a whole number of groups.
-/

namespace PolicyGateway.Http.Base64

/-- The sixty-four digits. -/
def alphabet : List Char :=
  "ABCDEFGHIJKLMNOPQRSTUVWXYZabcdefghijklmnopqrstuvwxyz0123456789+/".toList

/-- The digit of a value below sixty-four. -/
def digit (n : Nat) : Char :=
  alphabet.getD n '='

/-- **The digits of a row of bytes.** -/
def digits : List UInt8 → List Char
  | [] => []
  | [a] =>
    let n := a.toNat * 16
    [digit (n / 64), digit (n % 64), '=', '=']
  | [a, b] =>
    let n := (a.toNat * 256 + b.toNat) * 4
    [digit (n / 4096), digit (n / 64 % 64), digit (n % 64), '=']
  | a :: b :: c :: rest =>
    let n := (a.toNat * 256 + b.toNat) * 256 + c.toNat
    digit (n / 262144) :: digit (n / 4096 % 64) :: digit (n / 64 % 64) ::
      digit (n % 64) :: digits rest

/-- Bytes as a text of digits. -/
def encode (bs : List UInt8) : String :=
  String.ofList (digits bs)

end PolicyGateway.Http.Base64
