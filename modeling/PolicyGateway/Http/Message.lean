import PolicyGateway.Http.Headers
import PolicyGateway.Http.Url

/-!
# Messages and partners

A partner of the gateway is whatever answers the requests that it sends: a
policy server, the backend service, or another place that one of them
refers to. All partners together are a `Network`, a function that says of
each request what becomes of it.

A body arrives in pieces, and it may break off. How it is cut into pieces
says nothing: what counts is its bytes.

A network is a function of the request alone. Whatever time or state does to the
partners is a matter of which network a request meets, and what is proved is
proved of every one.
-/

namespace PolicyGateway.Http

/-- **A body as it arrives.** It comes in pieces, and may break off before its
end. A reader has to say what it makes of either. -/
structure Body where
  /-- The pieces, in order. -/
  pieces : List (List UInt8) := []
  /-- Whether it came to its end. -/
  whole : Bool := true
  deriving Repr, DecidableEq, Inhabited

namespace Body

/-- The bytes of a body. -/
def bytes (body : Body) : List UInt8 :=
  body.pieces.flatten

/-- A body of these bytes, in one piece. -/
def ofBytes (bs : List UInt8) : Body :=
  { pieces := [bs] }

/-- **Read pieces up to a limit**, behind the bytes read so far: none where
they are more. A piece that does not fit is not kept, so that no more than the
limit is ever held. -/
def readPieces (limit : Nat) (found : List UInt8) :
    List (List UInt8) → Option (List UInt8)
  | [] => some found
  | piece :: rest =>
    if limit < found.length + piece.length then none
    else readPieces limit (found ++ piece) rest

/-- Pieces are read up to a limit exactly if all their bytes are within
it. -/
theorem readPieces_eq (limit : Nat) (pieces : List (List UInt8)) :
    ∀ found, found.length ≤ limit →
    readPieces limit found pieces =
      if limit < (found ++ pieces.flatten).length then none
      else some (found ++ pieces.flatten) := by
  induction pieces with
  | nil =>
    intro found h
    have hn : ¬ limit < found.length := by omega
    simp [readPieces, hn]
  | cons piece rest ih =>
    intro found h
    unfold readPieces
    split
    · rename_i hlt
      have hlt' : limit < (found ++ (piece :: rest).flatten).length := by
        simp only [List.flatten_cons, List.length_append]
        omega
      rw [if_pos hlt']
    · rename_i hlt
      rw [ih (found ++ piece) (by simp only [List.length_append]; omega)]
      simp [List.append_assoc]

end Body

/-- **A request that is sent.** Its address has been read, and its body is all
there: nobody sends what is still arriving. -/
structure Request where
  /-- The method. -/
  method : String
  /-- The address. -/
  url : Url
  /-- The headers. -/
  headers : Headers
  /-- The body. -/
  body : List UInt8
  deriving Repr, DecidableEq

/-- **A response as it arrives.** A length may be declared before the body
arrives, and need not be the one it has. -/
structure Response where
  /-- The status. -/
  status : Nat
  /-- The headers. -/
  headers : Headers := {}
  /-- The length that is declared for the body, if it is. -/
  declaredLength : Option Nat := none
  /-- The body. -/
  body : Body := {}
  deriving Repr, DecidableEq

/-- Whether the status of a response says success. -/
def Response.isSuccess (response : Response) : Bool :=
  200 ≤ response.status && response.status < 300

/-- **A response that the gateway gives.** Unlike a response that arrives it is
whole, since the gateway has it all before it answers. -/
structure Outbound where
  /-- The status. -/
  status : Nat
  /-- The headers. -/
  headers : Headers
  /-- The body. -/
  body : List UInt8
  deriving Repr, DecidableEq

/-- **What becomes of a request.** One that does not arrive has changed nothing
anywhere, while one that is not answered may have; so the two are kept apart,
though the sender is told the same. -/
inductive Reply where
  /-- It does not arrive. -/
  | refused
  /-- It arrives and is not answered. -/
  | closed
  /-- It is answered. -/
  | answered (response : Response)
  deriving Repr, DecidableEq

/-- **The partners of the gateway.** -/
abbrev Network := Request → Reply

end PolicyGateway.Http
