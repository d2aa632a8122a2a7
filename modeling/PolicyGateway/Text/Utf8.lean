/-!
# UTF-8

Bytes that come from outside need not be text. `cells` reads them one
sequence at a time: each cell is a character, or a gap where the bytes do
not spell one. A gap ends before the first byte that cannot continue the
sequence, so that no character behind a damaged one is lost.

From the cells follow the readings that the gateway needs: `decode?` wants
text and nothing else, `decodeLossy` puts the replacement character into
each gap, and a reader of documents may look at the cells themselves and
let gaps pass where it skips.
-/

namespace PolicyGateway.Text.Utf8

/-- **One cell of a byte sequence**: a character, or a gap. -/
abbrev Cell := Option Char

/-- The bytes of a text. -/
def encode (cs : List Char) : List UInt8 :=
  cs.flatMap String.utf8EncodeChar

/-- The bytes of a string. -/
def bytes (s : String) : List UInt8 :=
  encode s.toList

/-- **A sequence of several bytes that has begun**: its value so far and
what may follow. -/
structure Begun where
  /-- The bits read so far. -/
  value : Nat
  /-- How many bytes are still to come, one less. -/
  more : Nat
  /-- The least byte that may come next. -/
  least : UInt8 := 0x80
  /-- The greatest byte that may come next. -/
  greatest : UInt8 := 0xbf

/-- What the first byte of a sequence stands for. It tells how many bytes are to
follow, and what the second one may be. -/
inductive First where
  /-- A character of one byte. -/
  | single (c : Char)
  /-- The beginning of a longer sequence. -/
  | begins (sequence : Begun)
  /-- A byte that begins nothing. -/
  | stray

/-- **Read a first byte.** The bounds on the second byte leave out long
spellings of short characters, surrogates and values beyond the last code
point. -/
def first (b : UInt8) : First :=
  let n := b.toNat
  if n < 0x80 then .single (Char.ofNat n)
  else if n < 0xc2 then .stray
  else if n < 0xe0 then .begins ⟨n % 0x20, 0, 0x80, 0xbf⟩
  else if n = 0xe0 then .begins ⟨0, 1, 0xa0, 0xbf⟩
  else if n = 0xed then .begins ⟨0xd, 1, 0x80, 0x9f⟩
  else if n < 0xf0 then .begins ⟨n % 0x10, 1, 0x80, 0xbf⟩
  else if n = 0xf0 then .begins ⟨0, 2, 0x90, 0xbf⟩
  else if n < 0xf4 then .begins ⟨n % 0x8, 2, 0x80, 0xbf⟩
  else if n = 0xf4 then .begins ⟨4, 2, 0x80, 0x8f⟩
  else .stray

/-- The cells of the bytes, behind those already found (latest in front)
and a sequence that may have begun. -/
def cellsFrom (found : List Cell) :
    Option Begun → List UInt8 → List Cell
  | none, [] => found.reverse
  | some _, [] => (none :: found).reverse
  | none, b :: rest =>
    match first b with
    | .single c => cellsFrom (some c :: found) none rest
    | .begins sequence => cellsFrom found (some sequence) rest
    | .stray => cellsFrom (none :: found) none rest
  | some begun, b :: rest =>
    if begun.least ≤ b ∧ b ≤ begun.greatest then
      let value := begun.value * 0x40 + b.toNat % 0x40
      match begun.more with
      | 0 => cellsFrom (some (Char.ofNat value) :: found) none rest
      | more + 1 => cellsFrom found (some ⟨value, more, 0x80, 0xbf⟩) rest
    else
      match first b with
      | .single c => cellsFrom (some c :: none :: found) none rest
      | .begins sequence => cellsFrom (none :: found) (some sequence) rest
      | .stray => cellsFrom (none :: none :: found) none rest

/-- **The cells of a byte sequence**: characters, and gaps where the bytes
spell none. -/
def cells (bs : List UInt8) : List Cell :=
  cellsFrom [] none bs

/-- **The text of bytes that are nothing but text.** -/
def decode? (bs : List UInt8) : Option (List Char) :=
  (cells bs).mapM id

/-- The string of bytes that are nothing but text. -/
def string? (bs : List UInt8) : Option String :=
  (decode? bs).map String.ofList

/-- **The text of any bytes**, with the replacement character in each
gap. -/
def decodeLossy (bs : List UInt8) : List Char :=
  (cells bs).map (·.getD (Char.ofNat 0xfffd))

end PolicyGateway.Text.Utf8
