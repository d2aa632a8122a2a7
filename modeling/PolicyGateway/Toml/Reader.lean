import PolicyGateway.Toml.Scalar
import PolicyGateway.Toml.Table

/-!
# Reading TOML

A text is a row of lines: blank ones, comments, headers and keys with their
values. `readText?` gives the document that it spells, a mapping, or nothing
where it breaks the grammar or a rule about tables.

Arrays may run over several lines and may end in a comma; inline tables may
not. Both may be nested, but not without end.

The recursion into values is over a fuel taken from the length of the
text.
-/

namespace PolicyGateway.Toml

open PolicyGateway.Record

/-- One level more of nesting than is accepted. -/
def depthLimit : Nat := 80

/-! ## Blanks and line ends -/

/-- The text behind the blanks of the line. -/
def skipBlanks (input : List Char) : List Char :=
  input.dropWhile isLineBlank

/-- The text behind a line break. -/
def readBreak? : List Char → Option (List Char)
  | '\n' :: rest => some rest
  | '\r' :: '\n' :: rest => some rest
  | _ => none

/-- The text behind the end of a line, blanks and a comment in front of it
included. The end of the text ends its last line. -/
def readLineEnd? (input : List Char) : Option (List Char) :=
  let rest :=
    match skipBlanks input with
    | '#' :: rest => rest.dropWhile isCommentChar
    | rest => rest
  if rest.isEmpty then some [] else readBreak? rest

/-- **The text behind blanks, line breaks and comments**, as they may stand
inside an array. A comment there has to end with its line. -/
def skipVoid (comment : Bool) : List Char → Option (List Char)
  | [] => if comment then none else some []
  | '\n' :: rest => skipVoid false rest
  | '\r' :: '\n' :: rest => skipVoid false rest
  | c :: rest =>
    if comment then if isCommentChar c then skipVoid true rest else none
    else if isLineBlank c then skipVoid false rest
    else if c = '#' then skipVoid true rest
    else some (c :: rest)

/-! ## Keys -/

/-- A character of a key without quotes. -/
def isBareKeyChar (c : Char) : Bool :=
  c.isAlphanum || c == '-' || c == '_'

/-- **Read one part of a key.** -/
def readKeyPart? (input : List Char) : Option (String × List Char) :=
  match input with
  | '"' :: rest =>
    (readBasic (.text 0) [] rest).map
      fun (cs, rest) => (String.ofList cs, rest)
  | '\'' :: rest =>
    (readLiteral [] rest).map fun (cs, rest) => (String.ofList cs, rest)
  | _ =>
    let bare := input.takeWhile isBareKeyChar
    if bare.isEmpty then none
    else some (String.ofList bare, input.dropWhile isBareKeyChar)

/-- The parts of a dotted key, behind those found so far, with the text
behind the blanks that follow. -/
def readKeyParts? : Nat → List String → List Char →
    Option (List String × List Char)
  | 0, _, _ => none
  | fuel + 1, found, input =>
    match readKeyPart? (skipBlanks input) with
    | none => none
    | some (part, rest) =>
      match skipBlanks rest with
      | '.' :: rest => readKeyParts? fuel (part :: found) rest
      | rest => some ((part :: found).reverse, rest)

/-- **Read a key**: the keys that lead to a table, and the key in it. -/
def readKey? (input : List Char) :
    Option (List String × String × List Char) :=
  match readKeyParts? depthLimit [] input with
  | none => none
  | some (parts, rest) =>
    if parts.length < depthLimit then
      parts.getLast?.map fun key => (parts.dropLast, key, rest)
    else none

/-! ## Values -/

/-- The inline table of these keys and values. -/
def inlineTable? (entries : List (List String × String × Node)) :
    Option Node :=
  (entries.foldlM (fun members (path, key, node) =>
    Members.addValue path key node .headed members) []).map
      fun members => (Item.table .headed members).node

mutual

/-- **Read a value** inside so many arrays and inline tables. -/
def readValue? : Nat → Nat → List Char → Option (Node × List Char)
  | 0, _, _ => none
  | fuel + 1, depth, input =>
    match input with
    | '[' :: rest =>
      if depthLimit ≤ depth + 1 then none
      else
        match skipVoid false rest with
        | none => none
        | some (']' :: rest) => some (.sequence [], rest)
        | some rest => readItems? fuel (depth + 1) [] rest
    | '\x7b' :: rest =>
      if depthLimit ≤ depth + 1 then none
      else
        match skipBlanks rest with
        | '\x7d' :: rest => some (.mapping [], rest)
        | rest => readEntries? fuel (depth + 1) [] rest
    | c :: _ =>
      if c = '"' ∨ c = '\'' then
        (readString? input).map fun (s, rest) => (.text s, rest)
      else readPlain? input
    | [] => none

/-- Read the items of an array up to its closing bracket, behind those
found so far (latest in front). -/
def readItems? : Nat → Nat → List Node → List Char →
    Option (Node × List Char)
  | 0, _, _, _ => none
  | fuel + 1, depth, found, input =>
    match readValue? fuel depth input with
    | none => none
    | some (item, rest) =>
      let found := item :: found
      match skipVoid false rest with
      | some (']' :: rest) => some (.sequence found.reverse, rest)
      | some (',' :: rest) =>
        match skipVoid false rest with
        | some (']' :: rest) => some (.sequence found.reverse, rest)
        | some rest => readItems? fuel depth found rest
        | none => none
      | _ => none

/-- Read the entries of an inline table up to its closing brace, behind
those found so far (latest in front). -/
def readEntries? : Nat → Nat → List (List String × String × Node) →
    List Char → Option (Node × List Char)
  | 0, _, _, _ => none
  | fuel + 1, depth, found, input =>
    match readKey? input with
    | some (path, key, '=' :: rest) =>
      match readValue? fuel depth (skipBlanks rest) with
      | none => none
      | some (node, rest) =>
        let found := (path, key, node) :: found
        match skipBlanks rest with
        | '\x7d' :: rest => (inlineTable? found.reverse).map (·, rest)
        | ',' :: rest => readEntries? fuel depth found rest
        | _ => none
    | _ => none

end

/-! ## Lines -/

/-- **The document so far**: all tables, and the table that is open. A table may
be opened again from below, so none is finished before the text is. -/
structure Draft where
  /-- The members of the root. -/
  root : Members := []
  /-- The keys that lead to the open table. -/
  here : List String := []

namespace Draft

/-- A value under a key of the open table. -/
def add (draft : Draft) (path : List String) (key : String) (node : Node) :
    Option Draft :=
  (Members.change false (Members.addValue path key node) draft.here .headed
    draft.root).map fun root => { draft with root }

/-- A header opens a table. -/
def openTable (draft : Draft) (path : List String) (key : String) :
    Option Draft :=
  (Members.openTable path key draft.root).map fun root =>
    { root, here := path ++ [key] }

/-- A header opens an element of an array of tables. -/
def openElement (draft : Draft) (path : List String) (key : String) :
    Option Draft :=
  (Members.openElement path key draft.root).map fun root =>
    { root, here := path ++ [key] }

/-- **Read one line** from its first character that is no blank, with the
text behind it. -/
def readLine? (draft : Draft) (input : List Char) :
    Option (Draft × List Char) :=
  match input with
  | '\n' :: rest => some (draft, rest)
  | '\r' :: '\n' :: rest => some (draft, rest)
  | '#' :: _ => (readLineEnd? input).map (draft, ·)
  | '[' :: '[' :: rest =>
    match readKey? rest with
    | some (path, key, ']' :: ']' :: rest) => do
      let rest ← readLineEnd? rest
      return (← draft.openElement path key, rest)
    | _ => none
  | '[' :: rest =>
    match readKey? rest with
    | some (path, key, ']' :: rest) => do
      let rest ← readLineEnd? rest
      return (← draft.openTable path key, rest)
    | _ => none
  | _ =>
    match readKey? input with
    | some (path, key, '=' :: rest) => do
      let rest := skipBlanks rest
      let (node, rest) ← readValue? (2 * rest.length + 2) 0 rest
      let rest ← readLineEnd? rest
      return (← draft.add path key node, rest)
    | _ => none

/-- Read all lines; every line consumes at least one character. -/
def readLines? : Nat → Draft → List Char → Option Draft
  | 0, _, _ => none
  | fuel + 1, draft, input =>
    match skipBlanks input with
    | [] => some draft
    | input =>
      match readLine? draft input with
      | some (draft, rest) => readLines? fuel draft rest
      | none => none

end Draft

/-- **The document that a text spells**, or none where it is no TOML. A
byte order mark in front does not count. -/
def readText? (s : String) : Option Node :=
  let input :=
    match s.toList with
    | '\uFEFF' :: rest => rest
    | input => input
  (Draft.readLines? (input.length + 1) {} input).map fun draft =>
    (Item.table .headed draft.root).node

end PolicyGateway.Toml
