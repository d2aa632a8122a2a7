import PolicyGateway.Http.Chunked
import PolicyGateway.Text.Blank
import PolicyGateway.Uri

/-!
# Requests that arrive

A request arrives as a method, a target, a row of header lines and the bytes
behind them. Before the gateway looks at it, it has to be well formed: the
method is a token, the target a URI, each name a token and each value bytes
that a value may have.

How long the body is, its headers say. Chunks come first: if they are named
last among the transfer encodings, the lengths that are declared do not
count. Lengths have to agree with each other, and without either header
there is no body. These rules matter for what is behind the gateway too: two
readers that part the same bytes differently do not see the same requests.
-/

namespace PolicyGateway.Http

/-- **A request that has arrived.** By then the server has read its target and
its fields, and knows where its body ends; what could not be read has been
answered already. -/
structure Inbound where
  /-- The method. -/
  method : String
  /-- The target. -/
  uri : Uri
  /-- The headers. -/
  headers : Headers
  /-- The body. -/
  body : Body
  deriving Repr, DecidableEq

namespace Inbound

/-- How many header lines a request may have. -/
def greatestFields : Nat := 100

/-- The status for a request that is malformed. -/
def malformed : Nat := 400

/-- The bytes of a line without the blanks around them. -/
def trimLine (value : FieldValue) : FieldValue :=
  ((value.dropWhile Chunked.isLineBlank).reverse.dropWhile
    Chunked.isLineBlank).reverse

/-- Whether chunks are named last in a row of transfer encodings. -/
def endsInChunks (value : FieldValue) : Bool :=
  match fieldText? value with
  | none => false
  | some text =>
    let last := ((text.toList.splitOn ',').getLast?).getD []
    Text.lowercase (Text.trimmed (String.ofList last)) == "chunked"

/-- The length that a value declares. -/
def lengthOf? (value : FieldValue) : Option Nat :=
  ((fieldText? value).bind fun text => Text.natural? text.toList).bind
    fun n => if n < UInt64.size then some n else none

/-- **How a body is delimited.** It is settled by the fields before a byte of
the body is read. -/
inductive Framing where
  /-- There is none. -/
  | absent
  /-- It has a length. -/
  | ofLength (n : Nat)
  /-- It comes in chunks. -/
  | chunks
  /-- It is encoded in some other way last. -/
  | unknown
  deriving Repr, DecidableEq

/-- **Take in a header line.** A length is taken in once, and not at all
where an encoding stands in front of it. -/
def takeField (state : Headers × Framing) (field : String × FieldValue) :
    Except Nat (Headers × Framing) :=
  let (headers, framing) := state
  let value := trimLine field.2
  match fieldName? field.1 with
  | none => .error malformed
  | some name =>
    if !isFieldValue value then .error malformed
    else if name = "transfer-encoding" then
      .ok (headers.append name value,
        if endsInChunks value then .chunks else .unknown)
    else if name = "content-length" then
      match lengthOf? value, framing with
      | _, .chunks => .ok state
      | _, .unknown => .ok state
      | none, _ => .error malformed
      | some n, .ofLength m =>
        if n = m then .ok state else .error malformed
      | some n, .absent => .ok (headers.append name value, .ofLength n)
    else .ok (headers.append name value, framing)

/-- The body among the bytes behind the header lines. -/
def bodyOf (framing : Framing) (bs : List UInt8) : Except Nat Body :=
  match framing with
  | .absent => .ok {}
  | .ofLength n =>
    .ok { pieces := [bs.take n], whole := n ≤ bs.length }
  | .chunks => .ok (Chunked.decode bs)
  | .unknown => .error malformed

/-- **The request that arrived**, or the status for one that is none. -/
def receive (method target : String) (fields : List (String × FieldValue))
    (bs : List UInt8) : Except Nat Inbound :=
  if !isToken method then .error malformed
  else
    match Uri.parse target with
    | .error .tooLong => .error 414
    | .error _ => .error malformed
    | .ok uri =>
      if greatestFields < fields.length then .error 431
      else do
        let (headers, framing) ← fields.foldlM takeField ({}, .absent)
        let body ← bodyOf framing bs
        return { method, uri, headers, body }

end Inbound

end PolicyGateway.Http
