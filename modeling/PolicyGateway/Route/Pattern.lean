import PolicyGateway.Text.Blank
import PolicyGateway.Text.Pieces

/-!
# Rule keys and how well they fit

A rule is filed under a key such as `[/accounts/*/transfers:POST]`: a path
pattern, then, if the rule is about one method only, a colon and the
method. Brackets and blanks around the key are decoration.

A pattern fits a path segment by segment. A literal segment fits itself,
`*` fits any one segment, and `**` fits all that is left, be it nothing.
Each segment that fits adds its **weight** to the score, literals most and
`**` least, so that a higher score means a more specific rule. A pattern
that is the path, character for character, scores by its length on top of
a base that sums of weights rarely reach.

Scores are 32-bit words: sums wrap around, and the score of a pattern
that is the path stops at the largest word. A request that arrives is too short
for either to happen, but a score is asked for any two texts, and what is said of
all of them has to say what becomes of the words.
-/

namespace PolicyGateway.Route

open PolicyGateway.Text

/-- **A score** says how specifically a pattern fits a path. Scores are only ever
compared: what they are is of no account beyond which of two is higher. -/
abbrev Score := UInt32

/-- **One segment of a path pattern.** Which one it is can be seen from its text
alone. -/
inductive Segment where
  /-- Fits the segment with this text. -/
  | literal (text : List Char)
  /-- Fits any one segment. -/
  | one
  /-- Fits whatever is left, including nothing. -/
  | rest
  deriving Repr, DecidableEq

namespace Segment

/-- What the text between two slashes of a pattern stands for. -/
def ofText (text : List Char) : Segment :=
  if text = ['*', '*'] then rest
  else if text = ['*'] then one
  else literal text

/-- **The weight** a segment adds to the score where it fits. A `**` adds its own
weight even where nothing is left for it. -/
def weight : Segment → Score
  | literal _ => 10
  | one => 2
  | rest => 1

/-- Whether a segment other than `**` fits this segment of the path. -/
def fits : Segment → List Char → Bool
  | literal text, actual => text == actual
  | one, _ => true
  | rest, _ => true

end Segment

/-- The segments of a path: the texts between slashes, a slash in front
not counted. Of several slashes in front only the first does not count, so that
`//a` begins with an empty segment. -/
def segments (path : List Char) : List (List Char) :=
  ((['/'].isPrefixOf? path).getD path).splitOn '/'

/-- The score of pattern segments on path segments, on top of the score
that the segments before them have reached. The first `**` ends the walk, and
what stands behind it in the pattern is not looked at. -/
def scoreFrom (reached : Score) : List Segment → List (List Char) →
    Option Score
  | [], [] => some reached
  | [], _ :: _ => none
  | .rest :: _, _ => some (reached + Segment.rest.weight)
  | .one :: _, [] => none
  | .literal _ :: _, [] => none
  | expected :: pattern, actual :: path =>
    if expected.fits actual then
      scoreFrom (reached + expected.weight) pattern path
    else none

/-- The score that a pattern starts from when it is the path itself. It is meant
to be above all sums of weights. -/
def verbatimBase : Nat := 1000

/-- **The score of a path on itself**: the base and the length in bytes,
or the largest score where that is more. -/
def verbatimScore (path : String) : Score :=
  UInt32.ofNat (min (verbatimBase + path.utf8ByteSize) (UInt32.size - 1))

/-- **The score of a path pattern on a path**, or nothing where it does not
fit. -/
def pathScore? (pattern path : String) : Option Score :=
  if pattern = path then some (verbatimScore path)
  else
    scoreFrom 0 ((segments pattern.toList).map Segment.ofText)
      (segments path.toList)

/-- **A rule key**, taken apart. The key is kept as it was written, since that
is what an ambiguity is told in. -/
structure Pattern where
  /-- The key as it was written. -/
  raw : String
  /-- The path pattern. -/
  path : String
  /-- The one method the rule is about, in upper case, or any method. -/
  method : Option String
  deriving Repr, DecidableEq

namespace Pattern

/-- **A key without its decoration**: the blanks around it and one pair of
brackets are gone. A single bracket stays. -/
def bare (raw : List Char) : List Char :=
  let key := trim raw
  (((['['].isPrefixOf? key).bind ([']'].isSuffixOf? ·))).getD key

/-- Whether the text behind the last colon of a key is a method: it is not
blank and holds no slash. -/
def isMethod (text : List Char) : Bool :=
  let name := trim text
  !name.isEmpty && !name.contains '/'

/-- **Take a key apart** at its last colon, if what follows is a method. Paths may
hold colons of their own, so the last one is taken, and only if no slash follows
it. -/
def parse (raw : String) : Pattern :=
  let key := bare raw.toList
  match cutLast ':' key with
  | some (path, method) =>
    if isMethod method then
      { raw, path := String.ofList path,
        method := some (uppercase (String.ofList (trim method))) }
    else { raw, path := String.ofList key, method := none }
  | none => { raw, path := String.ofList key, method := none }

/-- Whether the pattern admits a method. A question that names no method
is about all of them. -/
def admits (pattern : Pattern) (method : Option String) : Bool :=
  match pattern.method, method with
  | some wanted, some actual => sameIgnoringCase wanted actual
  | _, _ => true

/-- **The score of a rule key on a request**, or nothing where its method
or its path does not fit. -/
def score? (pattern : Pattern) (method : Option String) (path : String) :
    Option Score :=
  if pattern.admits method then pathScore? pattern.path path else none

end Pattern

end PolicyGateway.Route
