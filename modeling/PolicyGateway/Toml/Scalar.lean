import PolicyGateway.Binary64
import PolicyGateway.Record.Node
import PolicyGateway.Text.Numeral

/-!
# TOML scalars

Strings come in four forms. A **basic** string has escapes, a **literal**
one has none, and each exists on one line and over several lines. In the
forms over several lines a line break right behind the opening quotes does
not count, every line break reads as a line feed, and one or two quotes may
stand right in front of the closing three.

Numbers may be grouped by underscores between digits. An integer has to fit
a signed 64-bit word; a real number is the nearest one of binary64. A date
or a time is checked against the calendar and the clock, and reads as a
mapping with one reserved name.

Each reader takes the text from the scalar on and gives the scalar with the
text behind it.
-/

namespace PolicyGateway.Toml

open PolicyGateway.Record
open PolicyGateway.Text (isDigit)

/-! ## Characters -/

/-- A blank within a line. -/
def isLineBlank (c : Char) : Bool := c == ' ' || c == '\t'

/-- A character of a basic string that needs no escape; the quote and the
backslash are told apart beforehand. -/
def isStringChar (c : Char) : Bool :=
  c == '\t' || (0x20 ≤ c.toNat && c.toNat ≠ 0x7f)

/-- A character of a comment. -/
def isCommentChar (c : Char) : Bool :=
  c == '\t' || 0x20 ≤ c.toNat

/-- The character that an escape of one letter stands for. -/
def shortEscape? : Char → Option Char
  | '"' => some '"'
  | '\\' => some '\\'
  | 'b' => some (Char.ofNat 8)
  | 't' => some '\t'
  | 'n' => some '\n'
  | 'f' => some (Char.ofNat 12)
  | 'r' => some '\r'
  | _ => none

/-- The character with this code point, if it is one. -/
def scalar? (n : Nat) : Option Char :=
  if n < 0xd800 ∨ (0xdfff < n ∧ n < 0x110000) then some (Char.ofNat n)
  else none

/-! ## Strings with escapes -/

/-- **Where in a string with escapes** the reading stands. A string may run over
several lines and leave some of them out. -/
inductive Place where
  /-- In its text, behind so many quotes that have not been counted in. -/
  | text (quotes : Nat)
  /-- Behind a backslash. -/
  | escaped
  /-- In an escaped code point, with so many digits to come after the next
  one. -/
  | code (left value : Nat)
  /-- Behind a carriage return. -/
  | carriage
  /-- Among the blanks that a backslash at the end of a line removes, and
  whether that end has been seen. -/
  | joining (ended : Bool)
  /-- Among them, behind a carriage return. -/
  | joiningCarriage
  deriving Repr, DecidableEq

namespace Place

/-- A step inside the text, over a character other than a quote. -/
def stepText (quotes : Nat) (c : Char) : Option (Place × List Char) :=
  let before := List.replicate quotes '"'
  if c = '\\' then some (escaped, before)
  else if c = '\n' then some (text 0, before ++ ['\n'])
  else if c = '\r' then some (carriage, before)
  else if isStringChar c then some (text 0, before ++ [c])
  else none

/-- A step behind a backslash. -/
def stepEscape (c : Char) : Option (Place × List Char) :=
  if c = 'u' then some (code 3 0, [])
  else if c = 'U' then some (code 7 0, [])
  else (shortEscape? c).map fun e => (text 0, [e])

/-- A step inside an escaped code point. -/
def stepCode (left value : Nat) (c : Char) : Option (Place × List Char) :=
  match Text.hexDigit? c with
  | none => none
  | some d =>
    let value := 16 * value + d
    match left with
    | 0 => (scalar? value).map fun e => (text 0, [e])
    | left + 1 => some (code left value, [])

/-- **A step over one character**: the next place and the characters that
it adds, or none where the character may not stand there. -/
def step (place : Place) (c : Char) : Option (Place × List Char) :=
  match place with
  | text quotes =>
    if c = '"' then some (text (quotes + 1), []) else stepText quotes c
  | escaped =>
    if isLineBlank c then some (joining false, [])
    else if c = '\n' then some (joining true, [])
    else if c = '\r' then some (joiningCarriage, [])
    else stepEscape c
  | code left value => stepCode left value c
  | carriage => if c = '\n' then some (text 0, ['\n']) else none
  | joining ended =>
    if isLineBlank c then some (joining ended, [])
    else if c = '\n' then some (joining true, [])
    else if c = '\r' then some (joiningCarriage, [])
    else if !ended then none
    else if c = '"' then some (text 1, [])
    else stepText 0 c
  | joiningCarriage => if c = '\n' then some (joining true, []) else none

end Place

/-- **Read a basic string on one line**, behind its opening quote. -/
def readBasic (place : Place) (found : List Char) : List Char →
    Option (List Char × List Char)
  | [] => none
  | c :: rest =>
    match place with
    | .text _ =>
      if c = '"' then some (found.reverse, rest)
      else if c = '\n' ∨ c = '\r' then none
      else
        match Place.stepText 0 c with
        | some (next, added) => readBasic next (added.reverse ++ found) rest
        | none => none
    | .escaped =>
      match Place.stepEscape c with
      | some (next, added) => readBasic next (added.reverse ++ found) rest
      | none => none
    | .code left value =>
      match Place.stepCode left value c with
      | some (next, added) => readBasic next (added.reverse ++ found) rest
      | none => none
    | _ => none

/-- How many quotes may stand at the end of a string over several lines,
the closing three among them. -/
def greatestQuotes : Nat := 5

/-- **Read a basic string over several lines**, behind its opening quotes
and the line break that may follow them. -/
def readBasicLines (place : Place) (found : List Char) : List Char →
    Option (List Char × List Char)
  | [] =>
    match place with
    | .text quotes =>
      if 3 ≤ quotes then
        some ((List.replicate (quotes - 3) '"' ++ found).reverse, [])
      else none
    | _ => none
  | c :: rest =>
    match place.step c with
    | none =>
      match place with
      | .text quotes =>
        if 3 ≤ quotes then
          some ((List.replicate (quotes - 3) '"' ++ found).reverse, c :: rest)
        else none
      | _ => none
    | some (next, added) =>
      match place with
      | .text quotes =>
        if 3 ≤ quotes ∧ (c ≠ '"' ∨ greatestQuotes ≤ quotes) then
          some ((List.replicate (quotes - 3) '"' ++ found).reverse, c :: rest)
        else readBasicLines next (added.reverse ++ found) rest
      | _ => readBasicLines next (added.reverse ++ found) rest

/-! ## Strings without escapes -/

/-- Read a literal string on one line, behind its opening quote. -/
def readLiteral (found : List Char) : List Char →
    Option (List Char × List Char)
  | [] => none
  | c :: rest =>
    if c = '\'' then some (found.reverse, rest)
    else if isStringChar c then readLiteral (c :: found) rest
    else none

/-- **Read a literal string over several lines**, behind its opening
quotes and the line break that may follow them, and behind so many quotes
that have not been counted in. -/
def readLiteralLines (quotes : Nat) (found : List Char) : List Char →
    Option (List Char × List Char)
  | [] =>
    if 3 ≤ quotes then
      some ((List.replicate (quotes - 3) '\'' ++ found).reverse, [])
    else none
  | '\r' :: '\n' :: rest =>
    if 3 ≤ quotes then
      some ((List.replicate (quotes - 3) '\'' ++ found).reverse,
        '\r' :: '\n' :: rest)
    else
      readLiteralLines 0 ('\n' :: (List.replicate quotes '\'' ++ found)) rest
  | c :: rest =>
    if 3 ≤ quotes ∧ (c ≠ '\'' ∨ greatestQuotes ≤ quotes) then
      some ((List.replicate (quotes - 3) '\'' ++ found).reverse, c :: rest)
    else if c = '\'' then readLiteralLines (quotes + 1) found rest
    else if c = '\n' ∨ isStringChar c then
      readLiteralLines 0 (c :: (List.replicate quotes '\'' ++ found)) rest
    else none

/-- The text behind a line break that may stand in front. -/
def dropBreak : List Char → List Char
  | '\n' :: rest => rest
  | '\r' :: '\n' :: rest => rest
  | input => input

/-- **Read a string** of any form. -/
def readString? : List Char → Option (String × List Char)
  | '"' :: '"' :: '"' :: rest =>
    (readBasicLines (.text 0) [] (dropBreak rest)).map
      fun (cs, rest) => (String.ofList cs, rest)
  | '"' :: rest =>
    (readBasic (.text 0) [] rest).map
      fun (cs, rest) => (String.ofList cs, rest)
  | '\'' :: '\'' :: '\'' :: rest =>
    (readLiteralLines 0 [] (dropBreak rest)).map
      fun (cs, rest) => (String.ofList cs, rest)
  | '\'' :: rest =>
    (readLiteral [] rest).map fun (cs, rest) => (String.ofList cs, rest)
  | _ => none

/-! ## Numbers -/

/-- Digits with underscores between them, behind those found so far. -/
def moreDigits (ok : Char → Bool) (found : List Char) : List Char →
    List Char × List Char
  | [] => (found.reverse, [])
  | [c] => if ok c then ((c :: found).reverse, []) else (found.reverse, [c])
  | c :: d :: rest =>
    if ok c then moreDigits ok (c :: found) (d :: rest)
    else if c = '_' ∧ ok d then moreDigits ok (d :: found) rest
    else (found.reverse, c :: d :: rest)

/-- A row of digits, at least one. -/
def readDigits? (ok : Char → Bool) : List Char →
    Option (List Char × List Char)
  | c :: rest => if ok c then some (moreDigits ok [c] rest) else none
  | [] => none

/-- The sign in front of a number: whether it is a minus. -/
def readSign : List Char → Bool × List Char
  | '-' :: rest => (true, rest)
  | '+' :: rest => (false, rest)
  | input => (false, input)

/-- The digits of a decimal integer: a lone zero, or digits that start
with another one. -/
def readDecimal? : List Char → Option (List Char × List Char)
  | '0' :: rest => some (['0'], rest)
  | input => readDigits? isDigit input

/-- The number that digits spell in a base. -/
def valueIn (base : Nat) (digits : List Char) : Nat :=
  digits.foldl (fun n c => base * n + (Text.hexDigit? c).getD 0) 0

/-- An integer, if it fits a signed 64-bit word. -/
def integerNode? (n : Int) : Option Node :=
  if Number.leastInteger ≤ n ∧ n < -Number.leastInteger then
    some (.number (.integer n))
  else none

/-- The digits of an integer in a base other than ten. -/
def readBased? (base : Nat) (ok : Char → Bool) (input : List Char) :
    Option (Node × List Char) :=
  match readDigits? ok input with
  | none => none
  | some (digits, rest) =>
    (integerNode? (valueIn base digits)).map (·, rest)

/-- **Read an integer.** -/
def readInteger? : List Char → Option (Node × List Char)
  | '0' :: 'x' :: rest => readBased? 16 (fun c => (Text.hexDigit? c).isSome) rest
  | '0' :: 'o' :: rest => readBased? 8 (fun c => '0' ≤ c && c ≤ '7') rest
  | '0' :: 'b' :: rest => readBased? 2 (fun c => c == '0' || c == '1') rest
  | input =>
    let (negative, input) := readSign input
    match readDecimal? input with
    | none => none
    | some (digits, rest) =>
      let n : Int := valueIn 10 digits
      (integerNode? (if negative then -n else n)).map (·, rest)

/-- **The node of a real number** `digits * 10 ^ e`. What lies beyond the
greatest number is an infinity, and only the negative one is let pass. -/
def realNode? (negative : Bool) (digits : List Char) (e : Int) :
    Option Node :=
  let n := valueIn 10 digits
  let places : Int := (Nat.toDigits 10 n).length + e
  let beyond : Option Node := if negative then some (.symbol "-inf") else none
  let real (x : Option Binary64) : Option Node :=
    match x with
    | some x => some (.number (.real x))
    | none => beyond
  if n = 0 ∨ places < -400 then real (Binary64.nearest? negative 0 1)
  else if 400 < places then beyond
  else
    match e with
    | .ofNat k => real (Binary64.nearest? negative (n * Nat.pow 10 k) 1)
    | .negSucc k => real (Binary64.nearest? negative n (Nat.pow 10 (k + 1)))

/-- The exponent of a real number, if there is one. -/
def readExponent? (input : List Char) : Option (Int × List Char) :=
  match input with
  | c :: rest =>
    if c = 'e' ∨ c = 'E' then
      let (negative, rest) := readSign rest
      match readDigits? isDigit rest with
      | none => none
      | some (digits, rest) =>
        let n : Int := valueIn 10 digits
        some (if negative then -n else n, rest)
    else none
  | [] => none

/-- **Read a real number**: a fraction, an exponent or both behind an
integer, an infinity or what is no number. -/
def readReal? (input : List Char) : Option (Node × List Char) :=
  let (negative, input) := readSign input
  match input with
  | 'i' :: 'n' :: 'f' :: rest =>
    some (.symbol (if negative then "-inf" else "inf"), rest)
  | 'n' :: 'a' :: 'n' :: rest => some (.symbol "nan", rest)
  | _ =>
    match readDecimal? input with
    | none => none
    | some (whole, '.' :: rest) =>
      match readDigits? isDigit rest with
      | none => none
      | some (fraction, rest) =>
        let (e, rest) := (readExponent? rest).getD (0, rest)
        (realNode? negative (whole ++ fraction) (e - fraction.length)).map
          (·, rest)
    | some (whole, rest) =>
      match readExponent? rest with
      | none => none
      | some (e, rest) => (realNode? negative whole e).map (·, rest)

/-! ## Dates and times -/

/-- A number of exactly so many digits, within bounds. -/
def readFixed? (count least greatest : Nat) (input : List Char) :
    Option (List Char × Nat × List Char) :=
  let digits := input.take count
  let n := valueIn 10 digits
  if digits.length = count ∧ digits.all isDigit ∧ least ≤ n ∧ n ≤ greatest
  then some (digits, n, input.drop count)
  else none

/-- How many days a month has. -/
def daysIn (year month : Nat) : Nat :=
  if month = 2 then
    if year % 4 = 0 ∧ (year % 100 ≠ 0 ∨ year % 400 = 0) then 29 else 28
  else if month = 4 ∨ month = 6 ∨ month = 9 ∨ month = 11 then 30
  else 31

/-- A date of the calendar. -/
def readDate? (input : List Char) : Option (List Char × List Char) := do
  let (yearText, year, rest) ← readFixed? 4 0 9999 input
  let rest ← ['-'].isPrefixOf? rest
  let (monthText, month, rest) ← readFixed? 2 1 12 rest
  let rest ← ['-'].isPrefixOf? rest
  let (dayText, day, rest) ← readFixed? 2 1 31 rest
  if day ≤ daysIn year month then
    return (yearText ++ '-' :: monthText ++ '-' :: dayText, rest)
  else none

/-- The fraction of a second, cut to nanoseconds and without the zeros at
its end. -/
def readSecondFraction (input : List Char) : List Char × List Char :=
  match input with
  | '.' :: rest =>
    let digits := rest.takeWhile isDigit
    if digits.isEmpty then ([], input)
    else
      let kept := ((digits.take 9).reverse.dropWhile (· == '0')).reverse
      (if kept.isEmpty then [] else '.' :: kept, rest.dropWhile isDigit)
  | _ => ([], input)

/-- A time of the clock. -/
def readTime? (input : List Char) : Option (List Char × List Char) := do
  let (hours, _, rest) ← readFixed? 2 0 23 input
  let rest ← [':'].isPrefixOf? rest
  let (minutes, _, rest) ← readFixed? 2 0 59 rest
  let rest ← [':'].isPrefixOf? rest
  let (seconds, _, rest) ← readFixed? 2 0 60 rest
  let (fraction, rest) := readSecondFraction rest
  return (hours ++ ':' :: minutes ++ ':' :: seconds ++ fraction, rest)

/-- The distance of a clock from universal time. -/
def readOffset? (input : List Char) : Option (List Char × List Char) :=
  match input with
  | c :: rest =>
    if c = 'Z' ∨ c = 'z' then some (['Z'], rest)
    else if c = '+' ∨ c = '-' then do
      let (hours, _, rest) ← readFixed? 2 0 23 rest
      let rest ← [':'].isPrefixOf? rest
      let (minutes, _, rest) ← readFixed? 2 0 59 rest
      return (c :: hours ++ ':' :: minutes, rest)
    else none
  | [] => none

/-- A date, with a time and an offset if they follow. -/
def readDateTime? (input : List Char) : Option (List Char × List Char) := do
  let (date, rest) ← readDate? input
  match rest with
  | c :: after =>
    if c = 'T' ∨ c = 't' ∨ c = ' ' then
      match readTime? after with
      | none => return (date, rest)
      | some (time, rest) =>
        match readOffset? rest with
        | none => return (date ++ 'T' :: time, rest)
        | some (offset, rest) => return (date ++ 'T' :: time ++ offset, rest)
    else return (date, rest)
  | [] => return (date, rest)

/-- The reserved name under which a date or a time reads. -/
def momentName : String := "$__toml_private_datetime"

/-- **Read a date or a time.** -/
def readMoment? (input : List Char) : Option (Node × List Char) :=
  ((readDateTime? input).or (readTime? input)).map fun (cs, rest) =>
    (.mapping [(momentName, .text (String.ofList cs))], rest)

/-- **Read a scalar other than a string.** A date is tried before a number,
since a year looks like one. -/
def readPlain? (input : List Char) : Option (Node × List Char) :=
  match input with
  | 't' :: 'r' :: 'u' :: 'e' :: rest => some (.boolean true, rest)
  | 'f' :: 'a' :: 'l' :: 's' :: 'e' :: rest => some (.boolean false, rest)
  | _ =>
    match readMoment? input with
    | some found => some found
    | none =>
      match readReal? input with
      | some found => some found
      | none => readInteger? input

end PolicyGateway.Toml
