import PolicyGateway.Text.Blank
import PolicyGateway.Text.Numeral
import PolicyGateway.Text.Quoted

/-!
# Durations

A duration is a number of seconds and nanoseconds, as clocks hold it: the
seconds fit a 64-bit word, and there is less than a second of nanoseconds.

Settings write it as a number and a unit, `250ms`, `5s`, `1m` or `2h`; a
number alone counts seconds. Seconds beyond a word stop at the greatest
word. A duration is written in whole seconds where it is one, and otherwise
in whole milliseconds, so that what is below a millisecond is not written. The
number of milliseconds is not bounded when it is written, and is when it is read.
-/

namespace PolicyGateway

/-- **A duration**: whole seconds, and nanoseconds less than a second. That the
nanoseconds are less than a second is part of it, so a length is written in one
way and two durations are the same if their lengths are. -/
structure Duration where
  /-- The whole seconds. -/
  seconds : Nat
  /-- The nanoseconds beyond them. -/
  nanoseconds : Nat
  /-- The seconds fit a 64-bit word. -/
  seconds_lt : seconds < UInt64.size
  /-- The nanoseconds make less than a second. -/
  nanoseconds_lt : nanoseconds < 1000000000
  deriving Repr, DecidableEq

namespace Duration

/-- The greatest number of seconds. -/
def greatestSeconds : Nat := UInt64.size - 1

/-- So many seconds, or the greatest number of them. -/
def ofSeconds (n : Nat) : Duration where
  seconds := min n greatestSeconds
  nanoseconds := 0
  seconds_lt := by
    have : min n greatestSeconds ≤ greatestSeconds := Nat.min_le_right _ _
    exact Nat.lt_of_le_of_lt this (by decide)
  nanoseconds_lt := by decide

/-- So many milliseconds; their whole seconds stop at the greatest number
of them. -/
def ofMilliseconds (n : Nat) : Duration where
  seconds := min (n / 1000) greatestSeconds
  nanoseconds := n % 1000 * 1000000
  seconds_lt := by
    have : min (n / 1000) greatestSeconds ≤ greatestSeconds :=
      Nat.min_le_right _ _
    exact Nat.lt_of_le_of_lt this (by decide)
  nanoseconds_lt := by
    have : n % 1000 < 1000 := Nat.mod_lt _ (by decide)
    omega

/-- The duration of these parts, where they are within their bounds. -/
def ofParts? (seconds nanoseconds : Nat) : Option Duration :=
  if h : seconds < UInt64.size ∧ nanoseconds < 1000000000 then
    some ⟨seconds, nanoseconds, h.1, h.2⟩
  else none

/-- The whole milliseconds of a duration. -/
def milliseconds (d : Duration) : Nat :=
  d.seconds * 1000 + d.nanoseconds / 1000000

/-- **The units of a written duration.** Nothing shorter than a millisecond can
be written. -/
inductive TimeUnit where
  /-- Thousandths of a second. -/
  | milliseconds
  /-- Seconds; the unit may be left out. -/
  | seconds
  /-- Minutes. -/
  | minutes
  /-- Hours. -/
  | hours
  deriving Repr, DecidableEq

/-- So many of a unit. -/
def TimeUnit.times (n : Nat) : TimeUnit → Duration
  | milliseconds => ofMilliseconds n
  | seconds => ofSeconds n
  | minutes => ofSeconds (n * 60)
  | hours => ofSeconds (n * 3600)

/-- The number and the unit of a written duration. The longer unit is
tried first, since `ms` ends like `s`. -/
def splitUnit (cs : List Char) : List Char × TimeUnit :=
  match ['m', 's'].isSuffixOf? cs with
  | some number => (number, .milliseconds)
  | none =>
    match ['s'].isSuffixOf? cs with
    | some number => (number, .seconds)
    | none =>
      match ['m'].isSuffixOf? cs with
      | some number => (number, .minutes)
      | none =>
        match ['h'].isSuffixOf? cs with
        | some number => (number, .hours)
        | none => (cs, .seconds)

/-- **Read a written duration.** Blanks may stand around it and in front of
its unit. -/
def parse? (s : String) : Option Duration :=
  let (number, unit) := splitUnit (Text.trim s.toList)
  (Text.boundedNatural? greatestSeconds (Text.trim number)).map unit.times

/-- What is said of a text that is no duration. -/
def complaint (s : String) : String :=
  "invalid duration: " ++ Text.quoted (Text.trimmed s)

/-- **Write a duration.** -/
def text (d : Duration) : String :=
  String.ofList
    (if d.nanoseconds = 0 then Text.digits d.seconds ++ ['s']
    else Text.digits d.milliseconds ++ ['m', 's'])

end Duration

end PolicyGateway
