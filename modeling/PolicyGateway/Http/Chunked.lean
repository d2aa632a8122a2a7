import PolicyGateway.Http.Message
import PolicyGateway.Text.Percent

/-!
# Bodies in chunks

A body whose length is not known in advance is sent in chunks. Each has its
length in hexadecimal digits on a line of its own, where extensions may
follow, and a line break behind its bytes. A chunk of no bytes ends the
body; lines behind it are read and dropped up to an empty one.

`decode` gives the chunks that arrived and says whether the body came to its
end. It is one pass over the bytes.
-/

namespace PolicyGateway.Http.Chunked

/-- **Where a reader of chunks stands.** A body in chunks is read one byte at a
time, and this is what has to be known of the bytes before. -/
inductive Place where
  /-- In front of a length. -/
  | length
  /-- Within a length, this far. -/
  | digits (n : Nat)
  /-- Behind the digits of a length. -/
  | blanks (n : Nat)
  /-- Within an extension. -/
  | extension (n : Nat)
  /-- Behind the carriage return of a length. -/
  | lengthEnd (n : Nat)
  /-- Within a chunk: what is left of it, and what was read, latest byte in
  front. -/
  | data (left : Nat) (found : List UInt8)
  /-- Behind the bytes of a chunk. -/
  | dataEnd
  /-- Behind the carriage return of a chunk. -/
  | dataLineEnd
  /-- At the beginning of a line behind the last chunk. -/
  | line
  /-- Within a line behind the last chunk. -/
  | trailer
  /-- Behind the carriage return of such a line. -/
  | trailerEnd
  /-- Behind the carriage return of the empty line. -/
  | lastLineEnd
  deriving Repr, DecidableEq

/-- The greatest length of a chunk. -/
def greatestLength : Nat := UInt64.size - 1

/-- A blank within a line. -/
def isLineBlank (b : UInt8) : Bool :=
  b == 0x20 || b == 0x09

/-- The place behind the length of a chunk. -/
def afterLength (n : Nat) (b : UInt8) : Option Place :=
  if isLineBlank b then some (.blanks n)
  else if b = 0x3b then some (.extension n)
  else if b = 0x0d then some (.lengthEnd n)
  else none

/-- **The next place**, if the byte may stand here. -/
def step (b : UInt8) : Place → Option Place
  | .length => (Text.hexByte? b).map .digits
  | .digits n =>
    match Text.hexByte? b with
    | some d =>
      if greatestLength < 16 * n + d then none else some (.digits (16 * n + d))
    | none => afterLength n b
  | .blanks n => afterLength n b
  | .extension n =>
    if b = 0x0d then some (.lengthEnd n)
    else if b = 0x0a then none
    else some (.extension n)
  | .lengthEnd n =>
    if b ≠ 0x0a then none
    else if n = 0 then some .line
    else some (.data n [])
  | .data left found =>
    if left ≤ 1 then some .dataEnd else some (.data (left - 1) (b :: found))
  | .dataEnd => if b = 0x0d then some .dataLineEnd else none
  | .dataLineEnd => if b = 0x0a then some .length else none
  | .line => if b = 0x0d then some .lastLineEnd else some .trailer
  | .trailer => if b = 0x0d then some .trailerEnd else some .trailer
  | .trailerEnd => if b = 0x0a then some .line else none
  | .lastLineEnd => none

/-- The chunk that a byte completes. -/
def completed? (b : UInt8) : Place → Option (List UInt8)
  | .data left found =>
    if left ≤ 1 then some (b :: found).reverse else none
  | _ => none

/-- What was read of a chunk that broke off. -/
def begun : Place → List (List UInt8)
  | .data _ (b :: found) => [(b :: found).reverse]
  | _ => []

/-- The body from a place on, behind the chunks found so far (latest in
front). -/
def decodeFrom (found : List (List UInt8)) (place : Place) :
    List UInt8 → Body
  | [] => { pieces := (begun place ++ found).reverse, whole := false }
  | b :: rest =>
    if place = .lastLineEnd ∧ b = 0x0a then
      { pieces := found.reverse, whole := true }
    else
      let found := (completed? b place).toList ++ found
      match step b place with
      | some place => decodeFrom found place rest
      | none => { pieces := (begun place ++ found).reverse, whole := false }

/-- **The body that is sent in these chunks.** -/
def decode (bs : List UInt8) : Body :=
  decodeFrom [] .length bs

end PolicyGateway.Http.Chunked
