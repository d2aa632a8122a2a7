import PolicyGateway.Text.Numeral
import PolicyGateway.Text.Pieces

/-!
# Request URIs

A request names what it is about in one of three forms: a path, with a query
behind a question mark; an authority alone, host and port; or a scheme, an
authority and a path. A text is looked at from its first character on to
decide between them, and then each part is checked on its own.

The check is about characters, with a few rules on brackets, colons and
percent signs in the authority. Nothing is decoded and nothing is
normalized, except that `http` and `https` are lower case whatever their
spelling. A fragment is cut off.
-/

namespace PolicyGateway

/-- **Why a text is no URI.** Its wording is what is told of a target or of an
address that cannot be read. -/
inductive UriFault where
  /-- A character may not stand where it stands. -/
  | character
  /-- The authority is malformed. -/
  | authority
  /-- The parts do not make one of the forms. -/
  | format
  /-- There is nothing. -/
  | empty
  /-- The text is too long. -/
  | tooLong
  /-- The scheme is too long. -/
  | schemeTooLong
  deriving Repr, DecidableEq

/-- The wording of a fault. -/
def UriFault.message : UriFault → String
  | character => "invalid uri character"
  | authority => "invalid authority"
  | format => "invalid format"
  | empty => "empty string"
  | tooLong => "uri too long"
  | schemeTooLong => "scheme too long"

/-- **A path and a query**, as they are written. Nothing in it is resolved or
put in order. -/
structure PathAndQuery where
  /-- The path; empty where only a query was written. -/
  path : String
  /-- The query, if there is a question mark. -/
  query : Option String
  deriving Repr, DecidableEq

namespace PathAndQuery

/-- The text of a path and a query, as it is written. -/
def written (target : PathAndQuery) : String :=
  match target.query with
  | some query => target.path ++ "?" ++ query
  | none => target.path

/-- **The text of a path and a query** that starts like a path. -/
def text (target : PathAndQuery) : String :=
  match target.written.toList with
  | '/' :: _ => target.written
  | '*' :: _ => target.written
  | _ => "/" ++ target.written

end PathAndQuery

/-- **A URI** in one of its forms. Which form it is in decides what can be asked
of it: not every one has a path. -/
inductive Uri where
  /-- A path, or an asterisk for the server as a whole. -/
  | origin (target : PathAndQuery)
  /-- An authority alone. -/
  | authorityOnly (authority : String)
  /-- A scheme, an authority and a path. -/
  | absolute (scheme authority : String) (target : PathAndQuery)
  deriving Repr, DecidableEq

namespace Uri

/-! ## Characters -/

/-- A character of an authority, its marks included. -/
def isAuthorityChar (c : Char) : Bool :=
  c.isAlphanum || "!$&'()*+,-.:;=@[]_~".toList.contains c

/-- A character that ends an authority. -/
def endsAuthority (c : Char) : Bool :=
  c == '/' || c == '?' || c == '#'

/-- A character of a scheme. -/
def isSchemeChar (c : Char) : Bool :=
  c.isAlphanum || c == '+' || c == '-' || c == '.' || c == '~'

/-- A character of a path. -/
def isPathChar (c : Char) : Bool :=
  0x21 ≤ c.toNat && c.toNat ≠ 0x7f && !"#<>?`".toList.contains c

/-- A character of a query. -/
def isQueryChar (c : Char) : Bool :=
  0x21 ≤ c.toNat && c.toNat ≠ 0x7f && !"\"#<>".toList.contains c

/-! ## The authority -/

/-- The greatest number of colons in a row of groups. -/
def greatestColons : Nat := 8

/-- **What is known of an authority** while it is read. It can be refused at its
end for what has stood in it before. -/
structure AuthorityScan where
  /-- The colons since the last bracket or at sign. -/
  colons : Nat := 0
  /-- Whether a bracket was opened. -/
  opened : Bool := false
  /-- Whether it was closed. -/
  closed : Bool := false
  /-- Whether there is a percent sign since then. -/
  percent : Bool := false
  /-- Whether the last character is an at sign. -/
  atEnd : Bool := false

namespace AuthorityScan

/-- One character more. -/
def step (scan : AuthorityScan) (c : Char) :
    Except UriFault AuthorityScan :=
  let scan := { scan with atEnd := false }
  if c = ':' then
    if greatestColons ≤ scan.colons then .error .authority
    else .ok { scan with colons := scan.colons + 1 }
  else if c = '[' then
    if scan.percent || scan.opened then .error .authority
    else .ok { scan with opened := true }
  else if c = ']' then
    if !scan.opened || scan.closed then .error .authority
    else .ok { scan with closed := true, colons := 0, percent := false }
  else if c = '@' then
    .ok { scan with atEnd := true, colons := 0, percent := false }
  else if c = '%' then .ok { scan with percent := true }
  else if isAuthorityChar c then .ok scan
  else .error .character

/-- Whether the authority may end here: brackets are in pairs, there is at
most one colon in front of the port, something follows the at sign, and no
percent sign is outside the user's name. -/
def isComplete (scan : AuthorityScan) : Bool :=
  scan.opened == scan.closed && scan.colons ≤ 1 && !scan.atEnd &&
    !scan.percent

end AuthorityScan

/-- **Read an authority** up to the character that ends it. -/
def readAuthority (scan : AuthorityScan) (found : List Char) :
    List Char → Except UriFault (List Char × List Char)
  | [] =>
    if scan.isComplete then .ok (found.reverse, []) else .error .authority
  | c :: rest =>
    if endsAuthority c then
      if scan.isComplete then .ok (found.reverse, c :: rest)
      else .error .authority
    else
      match scan.step c with
      | .ok scan => readAuthority scan (c :: found) rest
      | .error fault => .error fault

/-! ## The path and the query -/

/-- **Read a path and a query**; a fragment is cut off. -/
def readTarget (cs : List Char) : Except UriFault PathAndQuery :=
  let path := cs.takeWhile isPathChar
  match cs.dropWhile isPathChar with
  | [] => .ok ⟨String.ofList path, none⟩
  | '#' :: _ => .ok ⟨String.ofList path, none⟩
  | '?' :: rest =>
    let query := rest.takeWhile isQueryChar
    match rest.dropWhile isQueryChar with
    | [] => .ok ⟨String.ofList path, some (String.ofList query)⟩
    | '#' :: _ => .ok ⟨String.ofList path, some (String.ofList query)⟩
    | _ => .error .character
  | _ => .error .character

/-! ## The scheme -/

/-- The greatest length of a scheme. -/
def greatestScheme : Nat := 64

/-- The text behind a scheme of the web, whatever its letter case. -/
def webScheme? (scheme : String) (cs : List Char) : Option (List Char) :=
  let mark := scheme.toList ++ [':', '/', '/']
  if (cs.take mark.length).map Char.toLower = mark then
    some (cs.drop mark.length)
  else none

/-- **Read a scheme**: everything up to the first colon, if it is made of
scheme characters and two slashes follow. -/
def readScheme (cs : List Char) :
    Except UriFault (Option (String × List Char)) :=
  match webScheme? "http" cs with
  | some rest => .ok (some ("http", rest))
  | none =>
    match webScheme? "https" cs with
    | some rest => .ok (some ("https", rest))
    | none =>
      let scheme := cs.takeWhile isSchemeChar
      match cs.dropWhile isSchemeChar with
      | ':' :: '/' :: '/' :: rest =>
        if cs.length ≤ 3 then .ok none
        else if greatestScheme < scheme.length then .error .schemeTooLong
        else .ok (some (String.ofList scheme, rest))
      | _ => .ok none

/-! ## All of it -/

/-- The greatest length of a URI, in bytes. -/
def greatestLength : Nat := 65534

/-- Read a URI that does not start like a path. -/
def readFull (cs : List Char) : Except UriFault Uri := do
  match ← readScheme cs with
  | none =>
    let (authority, rest) ← readAuthority {} [] cs
    if rest.isEmpty then return .authorityOnly (String.ofList authority)
    else throw .format
  | some (scheme, rest) =>
    if rest.isEmpty then throw .empty
    let (authority, rest) ← readAuthority {} [] rest
    if authority.isEmpty then throw .format
    return .absolute scheme (String.ofList authority) (← readTarget rest)

/-- **Read a URI.** -/
def parse (s : String) : Except UriFault Uri :=
  if greatestLength < s.utf8ByteSize then .error .tooLong
  else
    match s.toList with
    | [] => .error .empty
    | ['*'] => .ok (.origin ⟨"*", none⟩)
    | '/' :: rest => (readTarget ('/' :: rest)).map .origin
    | [c] =>
      if endsAuthority c then .error .character
      else
        (readAuthority {} [] [c]).map fun (authority, _) =>
          .authorityOnly (String.ofList authority)
    | cs => readFull cs

/-! ## Parts -/

/-- The scheme, if there is one. -/
def scheme? : Uri → Option String
  | absolute scheme _ _ => some scheme
  | _ => none

/-- The authority, if there is one. -/
def authority? : Uri → Option String
  | origin _ => none
  | authorityOnly authority => some authority
  | absolute _ authority _ => some authority

/-- The path and the query, if there are any. -/
def target? : Uri → Option PathAndQuery
  | origin target => some target
  | authorityOnly _ => none
  | absolute _ _ target => some target

/-- **The path**: where a target is written without one, the root. -/
def path (uri : Uri) : String :=
  match uri.target? with
  | some target => if target.path.isEmpty then "/" else target.path
  | none => ""

/-- The query, if there is one. -/
def query? (uri : Uri) : Option String :=
  uri.target?.bind (·.query)

/-- The text of a URI. -/
def text (uri : Uri) : String :=
  (match uri.scheme? with
    | some scheme => scheme ++ "://"
    | none => "") ++
  uri.authority?.getD "" ++ uri.path ++
  (match uri.query? with
    | some query => "?" ++ query
    | none => "")

/-- The authority behind the name of a user. -/
def hostPart (authority : List Char) : List Char :=
  match Text.cutLast '@' authority with
  | some (_, host) => host
  | none => authority

/-- **The host of an authority**, in its brackets if it has any. -/
def host (authority : String) : String :=
  match hostPart authority.toList with
  | '[' :: rest =>
    match Text.cutFirst ']' rest with
    | some (inside, _) => String.ofList ('[' :: inside ++ [']'])
    | none => ""
  | host =>
    match Text.cutFirst ':' host with
    | some (name, _) => String.ofList name
    | none => String.ofList host

/-- **The port of an authority**, as it is written, if it is one. -/
def port? (authority : String) : Option String :=
  match Text.cutLast ':' authority.toList with
  | some (_, port) =>
    if (Text.boundedNatural? 65535 port).isSome then
      some (String.ofList port)
    else none
  | none => none

end Uri

end PolicyGateway
