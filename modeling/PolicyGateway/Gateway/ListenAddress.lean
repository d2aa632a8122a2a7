import PolicyGateway.Text.Numeral
import PolicyGateway.Text.Pieces

/-!
# Listen addresses

The address to listen on is an IP address, without a port. Version 4 is four
numbers up to 255 between dots. Version 6 is eight groups of up to four
hexadecimal digits between colons, where a pair of colons stands for groups
of zeros, at least one of them, and where the last two groups may be written
as an address of version 4.
-/

namespace PolicyGateway.Gateway

/-- **An IP address.** Only addresses are understood, no names: nothing is asked
of the network before the server listens. -/
inductive ListenAddress where
  /-- Four bytes. -/
  | v4 (a b c d : Nat)
  /-- Eight groups of two bytes. -/
  | v6 (groups : List Nat)
  deriving Repr, DecidableEq

namespace ListenAddress

/-- A byte in decimal digits, without a zero in front. -/
def readByte? (cs : List Char) : Option Nat :=
  if 3 < cs.length ∨ (cs.head? = some '0' ∧ 1 < cs.length) then none
  else (Text.natural? cs).bind fun n => if n ≤ 255 then some n else none

/-- The four bytes of an address of version 4. -/
def readV4? (cs : List Char) : Option (Nat × Nat × Nat × Nat) :=
  match cs.splitOn '.' with
  | [a, b, c, d] => do
    let a ← readByte? a
    let b ← readByte? b
    let c ← readByte? c
    let d ← readByte? d
    return (a, b, c, d)
  | _ => none

/-- A group of one to four hexadecimal digits. -/
def readGroup? (cs : List Char) : Option Nat :=
  if cs.isEmpty ∨ 4 < cs.length then none
  else cs.foldlM (fun n c => (Text.hexDigit? c).map (16 * n + ·)) 0

/-- The groups between colons; the last piece may be an address of version
4, where that is permitted. -/
def readGroups? (mayEndInV4 : Bool) : List (List Char) → Option (List Nat)
  | [] => some []
  | [last] =>
    match readGroup? last with
    | some group => some [group]
    | none =>
      if mayEndInV4 then
        (readV4? last).map fun (a, b, c, d) => [256 * a + b, 256 * c + d]
      else none
  | piece :: rest =>
    match readGroup? piece with
    | some group => (readGroups? mayEndInV4 rest).map (group :: ·)
    | none => none

/-- The groups of a text that may be empty. -/
def readSide? (mayEndInV4 : Bool) (cs : List Char) : Option (List Nat) :=
  if cs.isEmpty then some [] else readGroups? mayEndInV4 (cs.splitOn ':')

/-- The eight groups of an address of version 6. -/
def readV6? (cs : List Char) : Option (List Nat) :=
  match Text.cutAtText [':', ':'] cs with
  | none =>
    match readSide? true cs with
    | some groups => if groups.length = 8 then some groups else none
    | none => none
  | some (front, back) =>
    match readSide? false front, readSide? true back with
    | some front, some back =>
      if front.length + back.length ≤ 7 then
        some (front ++ List.replicate (8 - front.length - back.length) 0 ++
          back)
      else none
    | _, _ => none

/-- **Read a listen address.** -/
def parse? (s : String) : Option ListenAddress :=
  match readV4? s.toList with
  | some (a, b, c, d) => some (.v4 a b c d)
  | none => (readV6? s.toList).map .v6

/-- What is said of a text that is no address. -/
def complaint : String :=
  "invalid listen address: invalid IP address syntax"

end ListenAddress

end PolicyGateway.Gateway
