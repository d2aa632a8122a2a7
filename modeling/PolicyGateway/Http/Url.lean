import PolicyGateway.Text.Numeral
import PolicyGateway.Text.Percent
import PolicyGateway.Text.Pieces

/-!
# Addresses on the web

The address of a request that is sent is read tolerantly and put into one
normal form. Blanks around it, tabs and line breaks do not count, a
backslash is as good as a slash, the scheme and the host are lower case, the
usual port is left out, and characters that may not stand in a path or in a
query are percent encoded.

The path is a row of segments, and a segment of one or two dots is a step:
to the same place or one place back, also where the dots are percent
encoded. So the path that is sent need not be the path that was written, and
whoever has judged the one has not judged the other.

Only `http` and `https` are addresses here, and hosts are written in ASCII.
A fragment is never sent and is dropped.
-/

namespace PolicyGateway.Http

/-- The schemes of the web. -/
inductive Scheme where
  /-- Without encryption. -/
  | http
  /-- With encryption. -/
  | https
  deriving Repr, DecidableEq

namespace Scheme

/-- The name of a scheme. -/
def name : Scheme → String
  | http => "http"
  | https => "https"

/-- The port that need not be written. -/
def usualPort : Scheme → Nat
  | http => 80
  | https => 443

/-- The scheme of this name. -/
def ofName? (s : String) : Option Scheme :=
  if s = "http" then some http
  else if s = "https" then some https
  else none

end Scheme

/-- **Where an address leads**: what stands between the scheme and the path. Two
addresses with the same one lead to the same server. -/
structure Authority where
  /-- The name of a user, percent encoded. -/
  user : String := ""
  /-- The password of the user, percent encoded. -/
  password : String := ""
  /-- The host. -/
  host : String
  /-- The port, where it is not the usual one. -/
  port : Option Nat := none
  deriving Repr, DecidableEq

namespace Authority

/-- The text of an authority. -/
def text (authority : Authority) : String :=
  let password :=
    if authority.password.isEmpty then "" else ":" ++ authority.password
  let user :=
    if authority.user.isEmpty && authority.password.isEmpty then ""
    else authority.user ++ password ++ "@"
  user ++ authority.host ++
    match authority.port with
    | some port => ":" ++ toString port
    | none => ""

end Authority

/-- **An address in its normal form.** Two texts that mean the same address have
the same one: letter case of the host, steps of the path and the default port
have been seen to. -/
structure Url where
  /-- The scheme. -/
  scheme : Scheme
  /-- Where it leads. -/
  authority : Authority
  /-- The segments of the path, percent encoded. -/
  path : List String
  /-- The query, percent encoded. -/
  query : Option String
  deriving Repr, DecidableEq

namespace Url

/-! ## Characters -/

/-- A character that does not count at the ends of an address. -/
def isEdge (c : Char) : Bool :=
  c.toNat ≤ 0x20

/-- A character that does not count anywhere. -/
def isIgnored (c : Char) : Bool :=
  c == '\t' || c == '\n' || c == '\r'

/-- The characters of an address that count. -/
def cleaned (s : String) : List Char :=
  (((s.toList.dropWhile isEdge).reverse.dropWhile isEdge).reverse).filter
    (!isIgnored ·)

/-- A slash, in either direction. -/
def isSlash (c : Char) : Bool :=
  c == '/' || c == '\\'

/-- A character that ends the authority. -/
def endsAuthority (c : Char) : Bool :=
  isSlash c || c == '?' || c == '#'

/-- A character that ends the path. -/
def endsPath (c : Char) : Bool :=
  c == '?' || c == '#'

/-- A visible character of ASCII that is not among these. -/
def isVisibleBut (marks : String) (c : Char) : Bool :=
  0x20 < c.toNat && c.toNat < 0x7f && !marks.toList.contains c

/-- A character that stands for itself in a path. -/
def isPathChar : Char → Bool :=
  isVisibleBut "\"#<>?`\x7b\x7d"

/-- A character that stands for itself in a query. -/
def isQueryChar : Char → Bool :=
  isVisibleBut "\"#<>'"

/-- A character that stands for itself in the name of a user. -/
def isUserChar : Char → Bool :=
  isVisibleBut "\"#<>?`\x7b\x7d/:;=@[\\]^|"

/-- A character of a host that is a name. -/
def isHostChar : Char → Bool :=
  isVisibleBut "\"#%/:<>?@[\\]^`\x7b|\x7d"

/-- A character of a host in brackets. -/
def isBracketHostChar (c : Char) : Bool :=
  (Text.hexDigit? c).isSome || c == ':' || c == '.'

/-! ## The authority -/

/-- The port that is written, and none where it is the usual one. -/
def readPort? (scheme : Scheme) : List Char → Option (Option Nat)
  | [] => some none
  | digits =>
    match Text.natural? digits with
    | none => none
    | some n =>
      if 65535 < n then none
      else if n = scheme.usualPort then some none
      else some (some n)

/-- The host and the text behind it. -/
def readHost? : List Char → Option (String × List Char)
  | '[' :: rest =>
    match Text.cutFirst ']' rest with
    | none => none
    | some (inside, behind) =>
      if inside.isEmpty || !inside.all isBracketHostChar then none
      else some (Text.lowercase (String.ofList ('[' :: inside ++ [']'])),
        behind)
  | cs =>
    let host := cs.takeWhile (· != ':')
    if host.isEmpty || !host.all isHostChar then none
    else some (Text.lowercase (String.ofList host), cs.dropWhile (· != ':'))

/-- The name and the password of a user. -/
def readUser (cs : List Char) : String × String :=
  let spell (part : List Char) : String :=
    String.ofList (Text.percentEncode isUserChar part)
  match Text.cutFirst ':' cs with
  | some (user, password) => (spell user, spell password)
  | none => (spell cs, "")

/-- **Read an authority.** -/
def readAuthority? (scheme : Scheme) (cs : List Char) : Option Authority :=
  let (user, place) :=
    match Text.cutLast '@' cs with
    | some (user, place) => (readUser user, place)
    | none => (("", ""), cs)
  match readHost? place with
  | none => none
  | some (host, behind) =>
    let port :=
      match behind with
      | [] => some none
      | ':' :: digits => readPort? scheme digits
      | _ => none
    port.map fun port => { user := user.1, password := user.2, host, port }

/-! ## The path -/

/-- Whether a segment is a step to the same place. -/
def isHere (segment : List Char) : Bool :=
  [".", "%2e"].contains (Text.lowercase (String.ofList segment))

/-- Whether a segment is a step one place back. -/
def isBack (segment : List Char) : Bool :=
  ["..", ".%2e", "%2e.", "%2e%2e"].contains
    (Text.lowercase (String.ofList segment))

/-- **Take the steps of a path**, behind the segments found so far (last in
front). A step at the end of the path leaves an empty segment there. -/
def walk (found : List (List Char)) : List (List Char) → List (List Char)
  | [] => found.reverse
  | segment :: rest =>
    let found :=
      if isBack segment then found.drop 1
      else if isHere segment then found
      else segment :: found
    if rest.isEmpty && (isBack segment || isHere segment) then
      ([] :: found).reverse
    else walk found rest

/-- **The segments of a path** as it is written, its first slash left out,
behind the segments from which it starts. -/
def segments (start : List String) (cs : List Char) : List String :=
  let written := (cs.map fun c => if isSlash c then '/' else c).splitOn '/'
  (walk (start.reverse.map String.toList)
    (written.map (Text.percentEncode isPathChar))).map String.ofList

/-- The path and the query at this place, where the path starts from these
segments. -/
def readTarget (scheme : Scheme) (authority : Authority)
    (start : List String) (cs : List Char) : Url :=
  { scheme, authority
    path := segments start (cs.takeWhile (!endsPath ·))
    query :=
      match cs.dropWhile (!endsPath ·) with
      | '?' :: rest =>
        some (String.ofList (Text.percentEncode isQueryChar
          (rest.takeWhile (· != '#'))))
      | _ => none }

/-! ## All of it -/

/-- The scheme that is written in front of a colon, in lower case, and the
text behind the colon. -/
def cutScheme (cs : List Char) : Option (String × List Char) :=
  match Text.cutFirst ':' cs with
  | some (c :: name, rest) =>
    if c.isAlpha &&
        name.all fun d => d.isAlphanum || d == '+' || d == '-' || d == '.'
    then some (Text.lowercase (String.ofList (c :: name)), rest)
    else none
  | _ => none

/-- Read an address from its authority on; slashes in front of it do not
count. -/
def readFrom? (scheme : Scheme) (cs : List Char) : Option Url :=
  let cs := cs.dropWhile isSlash
  (readAuthority? scheme (cs.takeWhile (!endsAuthority ·))).map
    fun authority =>
      let rest := cs.dropWhile (!endsAuthority ·)
      let rest :=
        match rest with
        | c :: behind => if isSlash c then behind else rest
        | [] => []
      readTarget scheme authority [] rest

/-- **Read an address.** -/
def parse? (s : String) : Option Url :=
  match cutScheme (cleaned s) with
  | none => none
  | some (name, rest) =>
    (Scheme.ofName? name).bind fun scheme => readFrom? scheme rest

/-! ## References -/

/-- **Where a reference leads.** Only where it is an address of the web is a
further request sent. -/
inductive Destination where
  /-- Nowhere: it cannot be read. -/
  | nowhere
  /-- Away from the web, to another scheme. -/
  | elsewhere
  /-- To an address. -/
  | web (url : Url)
  deriving Repr, DecidableEq

/-- The destination of an address, if it can be read. -/
def Destination.ofUrl? : Option Url → Destination
  | some url => web url
  | none => nowhere

/-- Read a reference that names no scheme. -/
def joinRelative (base : Url) (cs : List Char) : Destination :=
  match cs with
  | [] => .web base
  | '#' :: _ => .web base
  | '?' :: _ =>
    .web { readTarget base.scheme base.authority [] cs with
      path := base.path }
  | c :: rest =>
    if isSlash c then
      if rest.head?.any isSlash then .ofUrl? (readFrom? base.scheme rest)
      else .web (readTarget base.scheme base.authority [] rest)
    else
      .web (readTarget base.scheme base.authority base.path.dropLast cs)

/-- **Read a reference** at an address. -/
def join (base : Url) (reference : String) : Destination :=
  let cs := cleaned reference
  match cutScheme cs with
  | none => joinRelative base cs
  | some (name, rest) =>
    match Scheme.ofName? name with
    | none => .elsewhere
    | some scheme =>
      if scheme = base.scheme && (rest.takeWhile isSlash).length < 2 then
        joinRelative base rest
      else .ofUrl? (readFrom? scheme rest)

/-! ## Text and parts -/

/-- **The path that is sent.** -/
def pathText (url : Url) : String :=
  "/" ++ "/".intercalate url.path

/-- **The target of a request** to an address: the path and the query. -/
def target (url : Url) : String :=
  url.pathText ++
    match url.query with
    | some query => "?" ++ query
    | none => ""

/-- The text of an address. -/
def text (url : Url) : String :=
  url.scheme.name ++ "://" ++ url.authority.text ++ url.target

/-- The port that a connection is made to. -/
def effectivePort (url : Url) : Nat :=
  url.authority.port.getD url.scheme.usualPort

/-- The address without the name of a user. -/
def withoutUser (url : Url) : Url :=
  { url with authority :=
      { host := url.authority.host, port := url.authority.port } }

end Url

end PolicyGateway.Http
