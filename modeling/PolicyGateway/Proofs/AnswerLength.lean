import PolicyGateway.Proofs.Referrals

/-!
# How long an answer may be

An answer comes in pieces, and may declare its length beforehand or not. Neither says
anything about what it holds. So neither has a say in what becomes of it: an answer
with success that is longer than the limit is refused for its length, and any other
one is read as the bytes that it brings (`Server.ask_ignores_framing`).

The pieces are read one after the other behind what was read before, and one that
does not fit is not kept (`Http.Body.keep?`). After each of them the buffer holds the
pieces so far and is within the limit; so it never holds more, however long the
answer is and wherever it breaks off.

**Why the framing has to be ruled out.** A server chooses how it cuts its answer
into pieces, and whether it says beforehand how long it will be. If either made
a difference, the same answer could allow in one framing and fail in another.
And a server that declares less than it sends should not be able to make the
gateway hold more than it is willing to.
-/

namespace PolicyGateway

namespace Http.Body

/-! ## The buffer

The reader is a fold over the pieces, and a fold over a front of them is what it
has come to by then. So a bound on the result is a bound on the buffer at every
moment: it is enough to say it of the pieces that have arrived, whatever comes
later. -/

/-- **One piece more**: it comes behind the bytes found so far, unless they are
then more than the limit. The test comes before the bytes are put together, so a
piece that is too long is never kept, not even for a moment. -/
def keep? (limit : Nat) (found piece : List UInt8) : Option (List UInt8) :=
  if limit < found.length + piece.length then none else some (found ++ piece)

theorem keep?_eq_some_iff {limit : Nat} {found piece buffer : List UInt8} :
    keep? limit found piece = some buffer ↔
      found ++ piece = buffer ∧ buffer.length ≤ limit := by
  unfold keep?
  split
  · next hlong =>
    refine iff_of_false nofun ?_
    rintro ⟨rfl, hshort⟩
    rw [List.length_append] at hshort
    exact Nat.not_lt.2 hshort hlong
  · next hshort =>
    rw [Option.some.injEq]
    refine ⟨?_, And.left⟩
    rintro rfl
    exact ⟨rfl, by rw [List.length_append]; exact Nat.not_lt.1 hshort⟩

/-- Pieces are read by one step for each of them. -/
theorem readPieces_eq_foldlM (limit : Nat) (pieces : List (List UInt8)) :
    ∀ found, readPieces limit found pieces = pieces.foldlM (keep? limit) found := by
  induction pieces with
  | nil => exact fun found => rfl
  | cons piece rest ih =>
    intro found
    rw [List.foldlM_cons]
    unfold readPieces keep?
    split
    · rfl
    · exact ih _

/-- **What the buffer holds** after some pieces are these pieces, and no more than
the limit. -/
theorem buffer_eq_flatten {limit : Nat} {pieces : List (List UInt8)}
    {buffer : List UInt8}
    (h : pieces.foldlM (keep? limit) [] = some buffer) :
    buffer = pieces.flatten ∧ buffer.length ≤ limit := by
  -- what is in the buffer at the start of a piece is any bytes within the limit
  have hrun : ∀ (pieces : List (List UInt8)) (found : List UInt8),
      found.length ≤ limit → pieces.foldlM (keep? limit) found = some buffer →
        buffer = found ++ pieces.flatten ∧ buffer.length ≤ limit := by
    intro pieces
    induction pieces with
    | nil =>
      rintro _ hshort ⟨⟩
      exact ⟨(List.append_nil buffer).symm, hshort⟩
    | cons piece rest ih =>
      intro found _ hfold
      rw [List.foldlM_cons, Option.bind_eq_bind, Option.bind_eq_some_iff] at hfold
      obtain ⟨kept, hkept, hrest⟩ := hfold
      obtain ⟨rfl, hshort⟩ := keep?_eq_some_iff.1 hkept
      rw [List.flatten_cons, ← List.append_assoc]
      exact ih _ hshort hrest
  exact hrun pieces [] (Nat.zero_le _) h

end Http.Body

namespace Policy

open PolicyGateway.Json (Value)
open PolicyGateway.Http.Body (keep? readPieces)

/-! ## Answers in pieces

Two places test the length. A declared one is tested before anything is read,
and the buffer with every piece. Here they are shown to agree wherever the
declared length is the true one, so that the earlier test saves work and decides
nothing. -/

/-- **A response brings these bytes**, with success and to the end. The length
that it declares is theirs, if it declares one. An answer that declares another
length than it has is none of these: such an answer does not come to its end, or
is not what its sender meant. -/
structure Brings (response : Http.Response) (bs : List UInt8) : Prop where
  /-- The status is one of success. -/
  success : response.isSuccess = true
  /-- The body came to its end. -/
  whole : response.body.whole = true
  /-- These are the bytes of its pieces. -/
  bytes : response.body.pieces.flatten = bs
  /-- No other length is declared. -/
  declared : response.declaredLength = none ∨
    response.declaredLength = some bs.length

namespace Server

variable {α : Type}

/-- **What bytes are read as.** -/
def decoded (read : List UInt8 → Option α) (bs : List UInt8) : Except Failure α :=
  match read bs with
  | some answer => .ok answer
  | none => .error .undecodable

/-- What bytes are read as is never a refusal for their length, so such a
refusal cannot be mistaken for an answer that makes no sense. -/
theorem decoded_ne_tooLarge {read : List UInt8 → Option α} {bs : List UInt8} :
    decoded read bs ≠ .error (.tooLarge greatestAnswer) := by
  unfold decoded
  split <;> nofun

/-- **The length of an answer decides** whether it is read. -/
theorem readAnswer_of_brings {response : Http.Response} {bs : List UInt8}
    (h : Brings response bs) (endpoint : Endpoint)
    (read : List UInt8 → Option α) :
    readAnswer endpoint read response
      = if greatestAnswer < bs.length then .error (.tooLarge greatestAnswer)
        else decoded read bs := by
  have hbytes : response.body.bytes = bs := h.bytes
  have hbody : readBody response.body
      = if greatestAnswer < bs.length then .error (.tooLarge greatestAnswer)
        else .ok bs := by
    unfold readBody
    rw [Http.Body.readPieces_nil, hbytes, h.whole]
    by_cases hlong : greatestAnswer < bs.length
    · rw [if_pos hlong, if_pos hlong]
    · rw [if_neg hlong, if_neg hlong]
      rfl
  -- a length that is declared refuses what the buffer would refuse
  have hdeclared : response.declaredLength.any (greatestAnswer < ·) = true →
      greatestAnswer < bs.length := by
    rcases h.declared with hnone | hsome
    · rw [hnone]
      nofun
    · rw [hsome]
      exact of_decide_eq_true
  unfold readAnswer
  rw [h.success, hbody]
  by_cases hlong : greatestAnswer < bs.length
  · rw [if_pos hlong, if_pos hlong]
    split
    · next hrefused => cases hrefused
    · exact ite_self _
  · rw [if_neg hlong, if_neg hlong, if_neg (mt hdeclared hlong)]
    rfl

/-- **How an answer is framed says nothing.** Whatever the pieces in which a
server answers, and whether or not it declares their length, the answer is too
large exactly if its bytes are more than the limit, and is read as these bytes
otherwise. And of whatever pieces, the buffer never holds more than the limit.

The reader of the bytes is arbitrary. That what is read is the same for all
framings is no matter of JSON. -/
theorem ask_ignores_framing {server : Server} {network : Http.Network}
    {endpoint : Endpoint} {question : Value} (read : List UInt8 → Option α)
    {response : Http.Response} {bs : List UInt8}
    (hsupported : server.credentials.IsSupported)
    (hresponse : (server.exchange network question).response = some response)
    (hbrings : Brings response bs) :
    let result := (server.ask network endpoint question read).result
    (result = .error (.tooLarge greatestAnswer) ↔ greatestAnswer < bs.length) ∧
      (bs.length ≤ greatestAnswer → result = decoded read bs) ∧
      ∀ pieces : List (List UInt8),
        readPieces greatestAnswer [] pieces
            = pieces.foldlM (keep? greatestAnswer) [] ∧
          ∀ arrived later buffer, pieces = arrived ++ later →
            arrived.foldlM (keep? greatestAnswer) [] = some buffer →
              buffer = arrived.flatten ∧ buffer.length ≤ 1024 * 1024 := by
  intro result
  -- of the framing nothing is left in this
  have hresult : result = if greatestAnswer < bs.length
      then .error (.tooLarge greatestAnswer) else decoded read bs := by
    rw [← readAnswer_of_brings hbrings endpoint read]
    show (server.ask network endpoint question read).result = _
    rw [result_ask hsupported, hresponse]
  refine ⟨?_, fun hshort => ?_, fun pieces =>
    ⟨Http.Body.readPieces_eq_foldlM _ _ _, fun arrived later buffer _ hbuffer =>
      Http.Body.buffer_eq_flatten hbuffer⟩⟩
  · rw [hresult]
    split
    · next hlong => exact iff_of_true rfl hlong
    · next hshort => exact iff_of_false decoded_ne_tooLarge hshort
  · rw [hresult, if_neg (Nat.not_lt.2 hshort)]

/-! ### Two answers in pieces

The first one is cut in the middle of a name and has a piece without bytes. The
second one is too long by a single blank. -/

/-- An answer that allows, in pieces. -/
def allowingInPieces : Http.Response :=
  { status := 200
    body := { pieces := [Text.Utf8.bytes "\x7b\"all", [],
      Text.Utf8.bytes "ow\":true\x7d"] } }

/-- An answer that is too long by its last piece. -/
def overlongInPieces : Http.Response :=
  { status := 200
    body := { pieces := [List.replicate greatestAnswer 0x20, [0x20]] } }

/-- Where every request has an answer that is no reference, this is the answer. -/
theorem response_exchange_of_not_isRedirect {server : Server} {question : Value}
    {response : Http.Response} (hpost : (server.post? question).isSome = true)
    (hstays : Http.Client.isRedirect response.status = false) :
    (server.exchange (fun _ => .answered response) question).response
      = some response := by
  obtain ⟨post, hpost⟩ := Option.isSome_iff_exists.1 hpost
  rw [(course_exchange _ hpost).eq_of_nowhere rfl
    (Http.Client.destination_eq_nowhere hstays)]

/-- The first is read over its pieces, and the second is refused for its length. -/
theorem pieces_read_and_refused :
    let ask := fun response => ordersSettings.resources.server.ask
      (fun _ => .answered response) .validation ordersQuestion
      Endpoint.validation.verdict?
    (ask allowingInPieces).result = .ok ⟨true, ""⟩ ∧
      (ask overlongInPieces).result = .error (.tooLarge 1048576) := by
  intro ask
  have hpost : (ordersSettings.resources.server.post? ordersQuestion).isSome
      = true := by decide +kernel
  have hallowing : Brings allowingInPieces allowingInPieces.body.bytes :=
    ⟨rfl, rfl, rfl, .inl rfl⟩
  have hoverlong : Brings overlongInPieces overlongInPieces.body.bytes :=
    ⟨rfl, rfl, rfl, .inl rfl⟩
  refine ⟨((ask_ignores_framing _ (.inr rfl)
      (response_exchange_of_not_isRedirect hpost rfl) hallowing).2.1
        (by decide +kernel)).trans ?_,
    (ask_ignores_framing _ (.inr rfl)
      (response_exchange_of_not_isRedirect hpost rfl) hoverlong).1.2 ?_⟩
  · exact eq_ok_of_toOption (by decide +kernel)
  · show greatestAnswer
      < (List.replicate greatestAnswer 0x20 ++ [(0x20 : UInt8)]).length
    rw [List.length_append, List.length_replicate]
    exact Nat.lt_succ_self _

end Server

end Policy

end PolicyGateway
