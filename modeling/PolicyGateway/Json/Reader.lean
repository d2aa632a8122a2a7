import PolicyGateway.Json.Numeral
import PolicyGateway.Record.Node
import PolicyGateway.Text.Numeral
import PolicyGateway.Text.Utf8

/-!
# Reading JSON

`read?` takes the cells of a text and gives the document it spells. The
whole text has to be one value with blanks around it.

The grammar is strict everywhere: no comma at the end of a list, no zero
in front of other digits, no control character inside a string, no escape
but the nine that exist. What keeps to the grammar and still has no value
becomes an unreadable node: a string with half a surrogate pair or with a
gap in its bytes, a number out of range, and whatever is nested deeper than
`greatestDepth`.

The recursion is over a fuel that `read?` takes from the length of the
text: between two calls that both consume nothing, at least one character
is consumed.
-/

namespace PolicyGateway.Json

open PolicyGateway.Record
open PolicyGateway.Text (Utf8.Cell)

/-- How deeply sequences and mappings may be nested. -/
def greatestDepth : Nat := 127

/-- Blanks between the tokens of a document. -/
def isGap : Utf8.Cell → Bool
  | some c => c == ' ' || c == '\n' || c == '\t' || c == '\r'
  | none => false

/-- The text from its next token. -/
def skipGap (input : List Utf8.Cell) : List Utf8.Cell :=
  input.dropWhile isGap

/-! ## Strings -/

/-- **A part of a string as it is written.** It takes two units to make up some
characters, so parts are put together only when all of them are known. -/
inductive Mark where
  /-- A character. -/
  | plain (c : Char)
  /-- An escaped UTF-16 unit. -/
  | unit (n : Nat)
  /-- Bytes that spell no character. -/
  | damaged
  deriving Repr, DecidableEq

/-- The character that a simple escape stands for. -/
def simpleEscape? : Char → Option Char
  | '"' => some '"'
  | '\\' => some '\\'
  | '/' => some '/'
  | 'b' => some (Char.ofNat 8)
  | 'f' => some (Char.ofNat 12)
  | 'n' => some '\n'
  | 'r' => some '\r'
  | 't' => some '\t'
  | _ => none

/-- The unit that four hexadecimal digits spell. -/
def hexUnit? (a b c d : Char) : Option Nat := do
  let a ← Text.hexDigit? a
  let b ← Text.hexDigit? b
  let c ← Text.hexDigit? c
  let d ← Text.hexDigit? d
  return ((a * 16 + b) * 16 + c) * 16 + d

/-- **Read a string** up to its closing quote, behind the parts found so
far (latest in front). -/
def readMarks (found : List Mark) : List Utf8.Cell →
    Option (List Mark × List Utf8.Cell)
  | [] => none
  | none :: rest => readMarks (.damaged :: found) rest
  | some '"' :: rest => some (found.reverse, rest)
  | some '\\' :: some 'u' :: some a :: some b :: some c :: some d :: rest =>
    match hexUnit? a b c d with
    | some n => readMarks (.unit n :: found) rest
    | none => none
  | some '\\' :: some e :: rest =>
    match simpleEscape? e with
    | some c => readMarks (.plain c :: found) rest
    | none => none
  | some c :: rest =>
    if c.toNat < 0x20 ∨ c = '\\' then none
    else readMarks (.plain c :: found) rest

/-- Whether a UTF-16 unit is the first half of a pair. -/
def isHighHalf (n : Nat) : Bool := 0xd800 ≤ n && n ≤ 0xdbff

/-- Whether a UTF-16 unit is the second half of a pair. -/
def isLowHalf (n : Nat) : Bool := 0xdc00 ≤ n && n ≤ 0xdfff

/-- **The characters of a written string**, behind those found so far
(latest in front); none where a part of it is no character. -/
def markedText? (found : List Char) : List Mark → Option (List Char)
  | [] => some found.reverse
  | .plain c :: rest => markedText? (c :: found) rest
  | .unit high :: .unit low :: rest =>
    if isHighHalf high ∧ isLowHalf low then
      markedText? (Char.ofNat
        (0x10000 + (high - 0xd800) * 0x400 + (low - 0xdc00)) :: found) rest
    else if isHighHalf high ∨ isLowHalf high then none
    else markedText? (Char.ofNat high :: found) (.unit low :: rest)
  | .unit n :: rest =>
    if isHighHalf n ∨ isLowHalf n then none
    else markedText? (Char.ofNat n :: found) rest
  | .damaged :: _ => none

/-- The string that was written, if it is one. -/
def markedString? (marks : List Mark) : Option String :=
  (markedText? [] marks).map String.ofList

/-! ## Numerals -/

/-- The value of a decimal digit. -/
def digit? : Utf8.Cell → Option Nat
  | some c => if '0' ≤ c ∧ c ≤ '9' then some (c.toNat - '0'.toNat) else none
  | none => none

/-- The digits in front of the text, and what follows them. -/
def readDigits (input : List Utf8.Cell) : List Nat × List Utf8.Cell :=
  (input.takeWhile (fun c => (digit? c).isSome) |>.filterMap digit?,
    input.dropWhile fun c => (digit? c).isSome)

/-- The digits before the point: a lone zero, or digits that start with
another one. -/
def readWhole? (input : List Utf8.Cell) :
    Option (List Nat × List Utf8.Cell) :=
  match readDigits input with
  | ([], _) => none
  | (0 :: _ :: _, _) => none
  | (digits, rest) => some (digits, rest)

/-- The point and the digits behind it, if there is a point. -/
def readFraction? (input : List Utf8.Cell) :
    Option (Option (List Nat) × List Utf8.Cell) :=
  match input with
  | some '.' :: rest =>
    match readDigits rest with
    | ([], _) => none
    | (digits, rest) => some (some digits, rest)
  | _ => some (none, input)

/-- The exponent, if there is one. -/
def readExponent? (input : List Utf8.Cell) :
    Option (Option Exponent × List Utf8.Cell) :=
  let signed (negative : Bool) (rest : List Utf8.Cell) :
      Option (Option Exponent × List Utf8.Cell) :=
    match readDigits rest with
    | ([], _) => none
    | (digits, rest) => some (some ⟨negative, digits⟩, rest)
  match input with
  | some e :: rest =>
    if e = 'e' ∨ e = 'E' then
      match rest with
      | some '-' :: rest => signed true rest
      | some '+' :: rest => signed false rest
      | _ => signed false rest
    else some (none, input)
  | _ => some (none, input)

/-- **Read a numeral.** -/
def readNumeral? (input : List Utf8.Cell) :
    Option (Numeral × List Utf8.Cell) :=
  let (negative, input) :=
    match input with
    | some '-' :: rest => (true, rest)
    | _ => (false, input)
  match readWhole? input with
  | none => none
  | some (whole, rest) =>
    match readFraction? rest with
    | none => none
    | some (fraction, rest) =>
      match readExponent? rest with
      | none => none
      | some (exponent, rest) =>
        some ({ negative, whole, fraction, exponent }, rest)

/-! ## Values -/

/-- The node of a numeral. -/
def numeralNode (n : Numeral) : Node :=
  match n.value? with
  | some value => .number value
  | none => .unreadable

/-- The node of a string. -/
def stringNode (marks : List Mark) : Node :=
  match markedString? marks with
  | some s => .text s
  | none => .unreadable

/-- A node, or an unreadable one where the nesting is too deep. -/
def within (room : Nat) (node : Node) : Node :=
  if room = 0 then .unreadable else node

/-- The mapping of members whose names have been read; unreadable if a
name is. -/
def membersNode (members : List (Option String × Node)) : Node :=
  match members.mapM (fun (name, node) => name.map (·, node)) with
  | some members => .mapping members
  | none => .unreadable

mutual

/-- **Read a value**, with room for so many levels of nesting. -/
def readValue : Nat → Nat → List Utf8.Cell →
    Option (Node × List Utf8.Cell)
  | 0, _, _ => none
  | fuel + 1, room, input =>
    match skipGap input with
    | some '[' :: rest =>
      match skipGap rest with
      | some ']' :: rest => some (within room (.sequence []), rest)
      | _ => readItems fuel room [] rest
    | some '{' :: rest =>
      match skipGap rest with
      | some '}' :: rest => some (within room (.mapping []), rest)
      | _ => readMembers fuel room [] rest
    | some '"' :: rest =>
      match readMarks [] rest with
      | some (marks, rest) => some (stringNode marks, rest)
      | none => none
    | some 'n' :: some 'u' :: some 'l' :: some 'l' :: rest =>
      some (.null, rest)
    | some 't' :: some 'r' :: some 'u' :: some 'e' :: rest =>
      some (.boolean true, rest)
    | some 'f' :: some 'a' :: some 'l' :: some 's' :: some 'e' :: rest =>
      some (.boolean false, rest)
    | input =>
      match readNumeral? input with
      | some (numeral, rest) => some (numeralNode numeral, rest)
      | none => none

/-- Read the items of a sequence up to its closing bracket, behind those
found so far (latest in front). -/
def readItems : Nat → Nat → List Node → List Utf8.Cell →
    Option (Node × List Utf8.Cell)
  | 0, _, _, _ => none
  | fuel + 1, room, found, input =>
    match readValue fuel (room - 1) input with
    | none => none
    | some (item, rest) =>
      match skipGap rest with
      | some ',' :: rest => readItems fuel room (item :: found) rest
      | some ']' :: rest =>
        some (within room (.sequence (item :: found).reverse), rest)
      | _ => none

/-- Read the members of a mapping up to its closing brace, behind those
found so far (latest in front). -/
def readMembers : Nat → Nat → List (Option String × Node) →
    List Utf8.Cell → Option (Node × List Utf8.Cell)
  | 0, _, _, _ => none
  | fuel + 1, room, found, input =>
    match skipGap input with
    | some '"' :: rest =>
      match readMarks [] rest with
      | none => none
      | some (name, rest) =>
        match skipGap rest with
        | some ':' :: rest =>
          match readValue fuel (room - 1) rest with
          | none => none
          | some (item, rest) =>
            let found := (markedString? name, item) :: found
            match skipGap rest with
            | some ',' :: rest => readMembers fuel room found rest
            | some '}' :: rest =>
              some (within room (membersNode found.reverse), rest)
            | _ => none
        | _ => none
    | _ => none

end

/-- **The document that the cells of a text spell**, or none where they
break the grammar. -/
def read? (input : List Utf8.Cell) : Option Node :=
  match readValue (2 * input.length + 2) greatestDepth input with
  | some (node, rest) => if (skipGap rest).isEmpty then some node else none
  | none => none

/-- The document that a text spells. -/
def readText? (s : String) : Option Node :=
  read? (s.toList.map some)

/-- The document that the bytes of a message spell. -/
def readBytes? (bs : List UInt8) : Option Node :=
  read? (Text.Utf8.cells bs)

end PolicyGateway.Json
