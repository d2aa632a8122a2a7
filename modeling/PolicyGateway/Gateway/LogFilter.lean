import PolicyGateway.Text.Blank
import PolicyGateway.Text.Numeral
import PolicyGateway.Text.Pieces

/-!
# Log filters

A filter says which log entries are written. It is a row of directives
between commas, and empty ones do not count. A directive is a level, or the
target of an entry with a level behind an equals sign; a target alone stands
for all its levels. Between brackets a directive may name a span, and
between braces a field, which restricts it to entries inside that span or
with that field.

Of the directives that concern an entry the most specific one decides: the
longest target first, then the most fields, and of equals the last. A filter
without directives lets errors pass.
-/

namespace PolicyGateway.Gateway

/-- **The levels of log entries**, the gravest first. Each level admits those in
front of it. -/
inductive LogLevel where
  /-- Something failed. -/
  | error
  /-- Something is wrong. -/
  | warn
  /-- Something happened. -/
  | info
  /-- Something of interest to developers. -/
  | debug
  /-- Everything else. -/
  | trace
  deriving Repr, DecidableEq

namespace LogLevel

/-- The name of a level in a log line. -/
def name : LogLevel → String
  | error => "ERROR"
  | warn => "WARN"
  | info => "INFO"
  | debug => "DEBUG"
  | trace => "TRACE"

/-- How much has to be shown for a level to be seen. -/
def verbosity : LogLevel → Nat
  | error => 1
  | warn => 2
  | info => 3
  | debug => 4
  | trace => 5

end LogLevel

/-- **What a filter looks at in a log entry.** Everything else in an entry is of
no concern to a filter. -/
structure LogPoint where
  /-- The level. -/
  level : LogLevel
  /-- The part of the program that writes it. -/
  target : String
  /-- The names of its fields. -/
  fields : List String
  deriving Repr, DecidableEq

/-- **A directive.** One that names no target is for all of them. -/
structure LogDirective where
  /-- What the target begins with, if that matters. -/
  target : Option String := none
  /-- How much is shown. -/
  verbosity : Nat := LogLevel.trace.verbosity
  /-- The fields that an entry has to have. -/
  fields : List String := []
  /-- Whether it concerns entries inside certain spans only. -/
  spanned : Bool := false
  deriving Repr, DecidableEq

namespace LogDirective

/-! ## Reading -/

/-- How much a word shows, if it is the name or the number of a level. -/
def verbosityOf? (word : List Char) : Option Nat :=
  match Text.boundedNatural? (UInt64.size - 1) word with
  | some n => if n ≤ 5 then some n else none
  | none =>
    ["off", "error", "warn", "info", "debug", "trace"].idxOf?
      (Text.lowercase (String.ofList word))

/-- A character that a directive may begin with. -/
def mayBegin (c : Char) : Bool :=
  c.isAlphanum || c == '-' || c == ':' || c == '_' || 0x7f < c.toNat

/-- The directive with the level that a word names; without a word it shows
everything. -/
def withLevel? (directive : LogDirective) (word : List Char) :
    Option LogDirective :=
  if word.isEmpty then some directive
  else (verbosityOf? word).map fun verbosity => { directive with verbosity }

/-- The directive that a word alone is: a level, or else a target. -/
def ofWord (word : List Char) : LogDirective :=
  match verbosityOf? word with
  | some verbosity => { verbosity }
  | none => { target := some (String.ofList word) }

/-- Read what stands behind a closing bracket: nothing, or a level. -/
def readRest? (directive : LogDirective) :
    List Char → Option LogDirective
  | '=' :: word => directive.withLevel? word
  | cs => if cs.all Text.isBlank then some directive else none

/-- The directive for entries with a field, or inside spans where it has a
certain value. -/
def withField (directive : LogDirective) (field : List Char) :
    LogDirective :=
  match Text.cutFirst '=' field with
  | some _ => { directive with spanned := true }
  | none =>
    { directive with
      fields := directive.fields ++ [String.ofList field] }

/-- Read what stands behind an opening bracket: the name of a span, a field
in braces, or both. -/
def readSpan? (directive : LogDirective) (cs : List Char) :
    Option LogDirective :=
  let name := cs.takeWhile fun c => c != ']' && c != '\x7b'
  match cs.dropWhile fun c => c != ']' && c != '\x7b' with
  | ']' :: rest => readRest? { directive with spanned := true } rest
  | '\x7b' :: rest =>
    match Text.cutFirst '\x7d' rest with
    | some (c :: field, ']' :: rest) =>
      readRest? (withField
        { directive with spanned := directive.spanned || !name.isEmpty }
        (c :: field)) rest
    | _ => none
  | _ => none

/-- **Read a directive.** What it is made of is seen without the blanks
around it, but its words are taken at the same places from the text as it is
written. -/
def parse? (written : List Char) : Option LogDirective :=
  let isMark (c : Char) : Bool := c == '=' || c == '['
  match Text.trim written with
  | [] => none
  | c :: rest =>
    if c = '[' then readSpan? {} (written.drop 1)
    else if !mayBegin c then none
    else
      let place := ((c :: rest).takeWhile (!isMark ·)).length
      let directive : LogDirective :=
        { target := some (String.ofList (written.take place)) }
      match (c :: rest).drop place with
      | [] => some (ofWord written)
      | '=' :: _ => directive.withLevel? (written.drop (place + 1))
      | _ => readSpan? directive (written.drop (place + 1))

/-! ## Deciding -/

/-- **Whether a directive concerns an entry** that is inside no span. -/
def concerns (directive : LogDirective) (point : LogPoint) : Bool :=
  !directive.spanned &&
    (match directive.target with
      | some target => target.toList.isPrefixOf point.target.toList
      | none => true) &&
    directive.fields.all point.fields.contains

/-- How specific a directive is: the length of its target, one more where it
has one, and the number of its fields. -/
def specificity (directive : LogDirective) : Nat × Nat :=
  (match directive.target with
    | some target => target.utf8ByteSize + 1
    | none => 0,
    directive.fields.length)

/-- Whether a directive is at least as specific as another one. -/
def outranks (a b : LogDirective) : Bool :=
  let (targetA, fieldsA) := a.specificity
  let (targetB, fieldsB) := b.specificity
  targetB < targetA || (targetA == targetB &&
    (fieldsB < fieldsA || (fieldsA == fieldsB && !decide (a.fields < b.fields))))

end LogDirective

/-- **A log filter.** Of its directives the most specific one that is about an
entry decides. -/
structure LogFilter where
  /-- The directives. -/
  directives : List LogDirective
  deriving Repr, DecidableEq

namespace LogFilter

/-- The directive of a filter that has none: errors pass. -/
def usual : LogDirective :=
  { verbosity := LogLevel.error.verbosity }

/-- **Read a filter.** -/
def parse? (s : String) : Option LogFilter :=
  let written := (s.toList.splitOn ',').filter (!·.isEmpty)
  (written.mapM LogDirective.parse?).map fun directives =>
    ⟨if directives.isEmpty then [usual] else directives⟩

/-- The directive that decides about an entry. -/
def deciding? (filter : LogFilter) (point : LogPoint) :
    Option LogDirective :=
  (filter.directives.filter (·.concerns point)).foldl (fun best directive =>
    match best with
    | none => some directive
    | some top =>
      if directive.outranks top then some directive else some top) none

/-- **Whether an entry is written.** -/
def shows (filter : LogFilter) (point : LogPoint) : Bool :=
  match filter.deciding? point with
  | some directive => point.level.verbosity ≤ directive.verbosity
  | none => false

end LogFilter

end PolicyGateway.Gateway
