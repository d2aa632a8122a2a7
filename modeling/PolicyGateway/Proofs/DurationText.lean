import Mathlib.Algebra.GroupWithZero.Nat
import Mathlib.Data.List.Basic
import Mathlib.Data.List.Induction
import PolicyGateway.Duration
import PolicyGateway.Proofs.Blanks

/-!
# What a written duration says

A duration is written as a number and the mark of a unit, `250ms` or `2h`, and
people write them with a plus sign, with leading zeros, with blanks around and
between, or without a mark. `Duration.Spells` is that written form, said part by
part and without regard to how it is read.

The marks overlap: `ms` ends like the mark of seconds and begins like the one of
minutes. What keeps them apart is that no letter of a mark stands in what comes in
front of it, so that the longest mark that fits is the one that was written
(`Duration.splitUnit_append`). A text in the written form is therefore read as what
it says, if its number fits a word (`Duration.Spells.parse?_eq`), and whatever is
read is in the written form (`Duration.exists_of_parse?`).
`Duration.parse?_iff_spells` puts both together, with the length that is read.

Writing goes back into the written form, in seconds or in milliseconds. What is read
of it is the duration without what is below a millisecond, and nothing where the
number no longer fits a word (`Duration.parse?_text`); a duration that was read is
of neither kind (`Duration.readsBack_of_parse?`).

**Why a form and not examples.** What settings may say is for those who write
them to know, and they have the form and not the reader. An iff between the two
has a use in both directions: no text of the form is refused but for its size,
and no text is accepted by an accident of how it is taken apart.
-/

namespace PolicyGateway

namespace Text

/-! ## Numbers in digits

A number is read from its first digit on, and yet its value is said best from
the last one: a further digit counts ones, and all in front of it ten times as
much. `SpellsNatural` says it so, and the reader is shown to agree by induction
from the back. -/

/-- **A row of digits and the number that it spells.** The last digit counts
ones, and what stands in front of it counts tens. Leading zeros are digits like
any others, so a number has more than one spelling. -/
inductive SpellsNatural : Nat → List Char → Prop
  /-- One digit spells itself. -/
  | digit {d : Nat} (small : d < 10) : SpellsNatural d [Nat.digitChar d]
  /-- A further digit behind a row of them. -/
  | next {n d : Nat} {front : List Char} (spelled : SpellsNatural n front)
      (small : d < 10) :
      SpellsNatural (10 * n + d) (front ++ [Nat.digitChar d])

/-- A digit stands for a number below ten. -/
theorem isDigit_iff {c : Char} :
    isDigit c = true ↔ ∃ d < 10, c = Nat.digitChar d := by
  have hten : ∀ d < 10, Nat.digitChar d = Char.ofNat (d + 48) := by decide
  constructor
  · intro h
    unfold isDigit at h
    simp only [Bool.and_eq_true, decide_eq_true_eq, Char.le_def] at h
    have hleast : 48 ≤ c.toNat := h.1
    have hgreatest : c.toNat ≤ 57 := h.2
    refine ⟨c.toNat - 48, by omega, ?_⟩
    rw [hten _ (by omega), Nat.sub_add_cancel hleast, Char.ofNat_toNat]
  · rintro ⟨d, hd, rfl⟩
    revert d
    decide

theorem toNat_digitChar {d : Nat} (h : d < 10) :
    (Nat.digitChar d).toNat - '0'.toNat = d := by
  revert d
  decide

namespace SpellsNatural

variable {n : Nat} {cs : List Char}

theorem isDigit (h : SpellsNatural n cs) : ∀ c ∈ cs, Text.isDigit c = true := by
  induction h with
  | digit hd => simpa using isDigit_iff.2 ⟨_, hd, rfl⟩
  | next _ hd ih =>
    intro c hc
    rcases List.mem_append.1 hc with hc | hc
    · exact ih c hc
    · rw [List.mem_singleton.1 hc]
      exact isDigit_iff.2 ⟨_, hd, rfl⟩

theorem ne_nil (h : SpellsNatural n cs) : cs ≠ [] := by
  cases h with
  | digit => exact List.cons_ne_nil _ _
  | next => exact List.concat_ne_nil _ _

theorem ofDigitChars (h : SpellsNatural n cs) :
    Nat.ofDigitChars 10 cs 0 = n := by
  induction h with
  | digit hd => simpa [Nat.ofDigitChars_cons] using toNat_digitChar hd
  | next _ hd ih =>
    rw [Nat.ofDigitChars_append, ih, Nat.ofDigitChars_cons,
      toNat_digitChar hd, Nat.ofDigitChars_nil]

end SpellsNatural

/-- A row of digits spells its value. -/
theorem spellsNatural_of_isDigit {cs : List Char} (hne : cs ≠ [])
    (h : ∀ c ∈ cs, isDigit c = true) :
    SpellsNatural (Nat.ofDigitChars 10 cs 0) cs := by
  induction cs using List.reverseRecOn with
  | nil => exact absurd rfl hne
  | append_singleton front c ih =>
    obtain ⟨d, hd, rfl⟩ := isDigit_iff.1 (h c (by simp))
    rw [Nat.ofDigitChars_append, Nat.ofDigitChars_cons, toNat_digitChar hd,
      Nat.ofDigitChars_nil]
    by_cases hfront : front = []
    · subst hfront
      rw [Nat.ofDigitChars_nil, Nat.mul_zero, Nat.zero_add]
      exact .digit hd
    · exact .next (ih hfront fun c hc => h c (List.mem_append_left _ hc)) hd

/-- **A text is read as a number** exactly if it spells it in digits. -/
theorem natural?_eq_some_iff {cs : List Char} {n : Nat} :
    natural? cs = some n ↔ SpellsNatural n cs := by
  unfold natural?
  constructor
  · intro h
    split at h
    · cases h
    next hne =>
    split at h
    · next hall =>
      cases h
      exact spellsNatural_of_isDigit (fun hnil => hne (by rw [hnil]; rfl))
        (List.all_eq_true.1 hall)
    · cases h
  · intro h
    rw [if_neg (by simpa using h.ne_nil),
      if_pos (List.all_eq_true.2 h.isDigit), h.ofDigitChars]

/-- Its shortest spelling spells a number. -/
theorem spellsNatural_digits (n : Nat) : SpellsNatural n (digits n) :=
  natural?_eq_some_iff.1 (natural?_digits n)

theorem SpellsNatural.not_isBlank {n : Nat} {cs : List Char}
    (h : SpellsNatural n cs) : ∀ c ∈ cs, isBlank c = false :=
  fun c hc => not_isBlank_of_isDigit (h.isDigit c hc)

/-! ### With a plus sign

A sign in front of the digits is read and means nothing. There is one of them at
most, and none that would make a number negative. -/

/-- The signs that may stand in front of a number. -/
def signs : List (List Char) :=
  [[], ['+']]

theorem mem_signs {sign : List Char} :
    sign ∈ signs ↔ sign = [] ∨ sign = ['+'] := by
  simp [signs]

theorem boundedNatural?_signed {sign cs : List Char} {n : Nat}
    (hsign : sign ∈ signs) (h : SpellsNatural n cs) (greatest : Nat) :
    boundedNatural? greatest (sign ++ cs)
      = if n ≤ greatest then some n else none := by
  have hread := natural?_eq_some_iff.2 h
  rcases mem_signs.1 hsign with rfl | rfl
  · unfold boundedNatural?
    rw [List.nil_append]
    split
    · next rest =>
      exact absurd (h.isDigit '+' List.mem_cons_self) (by decide)
    · dsimp only
      rw [hread]
  · simp only [List.cons_append, List.nil_append, boundedNatural?, hread]

/-- What is read as a bounded number is a sign and what is read behind it. This
opens the reader once; every fact about what it reads goes by these parts. -/
theorem boundedNatural?_cases (greatest : Nat) (cs : List Char) :
    ∃ sign digits, sign ∈ signs ∧ cs = sign ++ digits ∧
      boundedNatural? greatest cs
        = match natural? digits with
          | some n => if n ≤ greatest then some n else none
          | none => none := by
  unfold boundedNatural?
  split
  · next rest => exact ⟨['+'], rest, by decide, rfl, rfl⟩
  · exact ⟨[], cs, by decide, rfl, rfl⟩

theorem exists_of_boundedNatural? {greatest n : Nat} {cs : List Char}
    (h : boundedNatural? greatest cs = some n) :
    ∃ sign digits, sign ∈ signs ∧ SpellsNatural n digits ∧
      cs = sign ++ digits := by
  obtain ⟨sign, digits, hsign, hcs, hread⟩ := boundedNatural?_cases greatest cs
  refine ⟨sign, digits, hsign, ?_, hcs⟩
  rw [hread] at h
  split at h
  · next number hnumber =>
    split at h
    · cases h
      exact natural?_eq_some_iff.1 hnumber
    · cases h
  · cases h

end Text

namespace Duration

/-! ## Units

The unit is found at the end of the text, by trying the longer mark first. If
the shorter one were tried first, milliseconds would be taken for seconds with a
letter too many. -/

/-- **The marks of a unit.** Seconds need none. The empty mark is the reason why
a bare number is a number of seconds. -/
def TimeUnit.marks : TimeUnit → List (List Char)
  | milliseconds => [['m', 's']]
  | seconds => [['s'], []]
  | minutes => [['m']]
  | hours => [['h']]

/-- The letters that marks are made of. None of them is a digit, a sign or a
blank. -/
def markLetters : List Char :=
  ['m', 's', 'h']

theorem TimeUnit.mem_markLetters {unit : TimeUnit} {mark : List Char}
    (h : mark ∈ unit.marks) : ∀ c ∈ mark, c ∈ markLetters := by
  revert mark
  cases unit <;> simp [marks, markLetters]

/-- They are neither blank nor digits. -/
theorem of_mem_markLetters {c : Char} (h : c ∈ markLetters) :
    Text.isBlank c = false ∧ Text.isDigit c = false := by
  simp only [markLetters, List.mem_cons, List.not_mem_nil, or_false] at h
  rcases h with rfl | rfl | rfl <;> decide

/-- What is cut off behind a number is a mark of the unit that is found. -/
theorem exists_of_splitUnit {cs number : List Char} {unit : TimeUnit}
    (h : splitUnit cs = (number, unit)) :
    ∃ mark ∈ unit.marks, cs = number ++ mark := by
  have happend : ∀ {mark front : List Char},
      mark.isSuffixOf? cs = some front → cs = front ++ mark :=
    fun hcut => (List.isSuffixOf?_eq_some_iff_append_eq.1 hcut).symm
  -- the marks in the order in which they are tried
  unfold splitUnit at h
  split at h
  · next hcut =>
    cases h
    exact ⟨_, List.mem_cons_self, happend hcut⟩
  split at h
  · next hcut =>
    cases h
    exact ⟨_, List.mem_cons_self, happend hcut⟩
  split at h
  · next hcut =>
    cases h
    exact ⟨_, List.mem_cons_self, happend hcut⟩
  split at h
  · next hcut =>
    cases h
    exact ⟨_, List.mem_cons_self, happend hcut⟩
  · -- without a mark the text is a number of seconds
    cases h
    exact ⟨[], List.mem_cons_of_mem _ List.mem_cons_self,
      (List.append_nil _).symm⟩

section

variable {front mark : List Char} (hfront : ∀ c ∈ front, c ∉ markLetters)
include hfront

/-- Letters of marks that are not the end of a mark are not the end of a text
that has no such letters in front of it. So a mark is never found that reaches
into the number. -/
theorem isSuffixOf?_eq_none {letters : List Char}
    (hletters : ∀ c ∈ letters, c ∈ markLetters)
    (hmark : ¬ letters <:+ mark) :
    letters.isSuffixOf? (front ++ mark) = none := by
  refine Option.eq_none_iff_forall_ne_some.2 fun number hnumber => ?_
  rcases List.append_eq_append_iff.1
      (List.isSuffixOf?_eq_some_iff_append_eq.1 hnumber) with
    ⟨rest, rfl, rfl⟩ | ⟨rest, rfl, rfl⟩
  · cases rest with
    | nil => exact hmark (List.suffix_refl _)
    | cons c rest =>
      exact absurd (hletters c List.mem_cons_self)
        (hfront c (List.mem_append_right _ List.mem_cons_self))
  · exact hmark (List.suffix_append _ _)

/-- **A mark is found** behind what has no letters. That no letter stands in
front is what tells the marks apart, and of a number that is known. -/
theorem splitUnit_append {unit : TimeUnit} (hmark : mark ∈ unit.marks) :
    splitUnit (front ++ mark) = (front, unit) := by
  have hnone : ∀ {other : TimeUnit} {letters : List Char},
      letters ∈ other.marks → ¬ letters <:+ mark →
        letters.isSuffixOf? (front ++ mark) = none :=
    fun hletters => isSuffixOf?_eq_none hfront
      (TimeUnit.mem_markLetters hletters)
  -- a mark that is not the one written is not found, as long as it does not end
  -- it
  have hms := @hnone .milliseconds _ List.mem_cons_self
  have hs := @hnone .seconds _ List.mem_cons_self
  have hm := @hnone .minutes _ List.mem_cons_self
  have hh := @hnone .hours _ List.mem_cons_self
  have hsome : mark.isSuffixOf? (front ++ mark) = some front :=
    List.isSuffixOf?_eq_some_iff_append_eq.2 rfl
  unfold splitUnit
  cases unit with
  | milliseconds =>
    obtain rfl := List.mem_singleton.1 hmark
    rw [hsome]
  | seconds =>
    rcases List.mem_cons.1 hmark with rfl | hmark
    · rw [hms (by decide), hsome]
    · obtain rfl := List.mem_singleton.1 hmark
      rw [hms (by decide), hs (by decide), hm (by decide), hh (by decide),
        List.append_nil]
  | minutes =>
    obtain rfl := List.mem_singleton.1 hmark
    rw [hms (by decide), hs (by decide), hsome]
  | hours =>
    obtain rfl := List.mem_singleton.1 hmark
    rw [hms (by decide), hs (by decide), hm (by decide), hsome]

end

/-! ## The written form

What is said here of a text does not mention how it is read. From it the parts
are found (`Spells.reads`), and there is only one way to find them
(`Spells.unique`); so the form says one thing about a text or nothing. -/

/-- **A written duration**: so many of a unit. A number, with or without a plus
sign in front of it, and a mark of the unit, with blanks around both and between
them. -/
inductive Spells (n : Nat) (unit : TimeUnit) : List Char → Prop
  /-- The parts, from front to back. -/
  | written {before sign digits gap mark after : List Char}
      (before_blank : ∀ c ∈ before, Text.isBlank c = true)
      (sign_mem : sign ∈ Text.signs)
      (digits_spell : Text.SpellsNatural n digits)
      (gap_blank : ∀ c ∈ gap, Text.isBlank c = true)
      (mark_mem : mark ∈ unit.marks)
      (after_blank : ∀ c ∈ after, Text.isBlank c = true) :
      Spells n unit (before ++ sign ++ digits ++ gap ++ mark ++ after)

/-- A number has no blanks and no letters of marks. -/
theorem not_mem_markLetters_of_signed {sign digits : List Char} {n : Nat}
    (hsign : sign ∈ Text.signs) (hdigits : Text.SpellsNatural n digits) :
    ∀ c ∈ sign ++ digits, Text.isBlank c = false ∧ c ∉ markLetters := by
  intro c hc
  rcases List.mem_append.1 hc with hc | hc
  · rcases Text.mem_signs.1 hsign with rfl | rfl
    · cases hc
    · obtain rfl := List.mem_singleton.1 hc
      decide
  · refine ⟨hdigits.not_isBlank c hc, fun hletter => ?_⟩
    have hdigit := hdigits.isDigit c hc
    rw [(of_mem_markLetters hletter).2] at hdigit
    cases hdigit

/-- **The parts of a written duration are found**: the unit, and in front of it
the number, whatever its bound. The bound is left open, since where it lies is a
matter of words and not of writing. -/
theorem Spells.reads {n : Nat} {unit : TimeUnit} {cs : List Char}
    (h : Spells n unit cs) :
    ∃ number, splitUnit (Text.trim cs) = (number, unit) ∧
      ∀ greatest, Text.boundedNatural? greatest (Text.trim number)
        = if n ≤ greatest then some n else none := by
  obtain @⟨before, sign, digits, gap, mark, after, hbefore, hsign, hdigits, hgap,
    hmark, hafter⟩ := h
  -- no letter and no blank in the number: the mark can be told from it, and
  -- what is trimmed off it is the blanks
  have hparts := not_mem_markLetters_of_signed hsign hdigits
  have hbare : Text.IsBare (sign ++ digits) :=
    .of_forall fun c hc => (hparts c hc).1
  have hread := Text.boundedNatural?_signed hsign hdigits
  by_cases hnone : mark = []
  · -- without a mark the blanks behind the number are around the whole text
    subst hnone
    have htrim : Text.trim (before ++ sign ++ digits ++ gap ++ [] ++ after)
        = sign ++ digits := by
      rw [List.append_nil, List.append_assoc before, List.append_assoc,
        List.append_assoc]
      exact Text.trim_around hbefore hbare fun c hc =>
        (List.mem_append.1 hc).elim (hgap c) (hafter c)
    have hsplit := splitUnit_append (fun c hc => (hparts c hc).2) hmark
    rw [List.append_nil] at hsplit
    refine ⟨sign ++ digits, by rw [htrim, hsplit], ?_⟩
    rw [hbare.trim_eq]
    exact hread
  · have hne : sign ++ digits ≠ [] :=
      List.append_ne_nil_of_right_ne_nil _ hdigits.ne_nil
    -- here the blanks behind the number are inside, and are trimmed off last
    have hmarked : Text.IsBare (sign ++ digits ++ gap ++ mark) :=
      hbare.append hne (.of_forall fun c hc => (of_mem_markLetters
        (TimeUnit.mem_markLetters hmark c hc)).1) hnone gap
    have htrim : Text.trim (before ++ sign ++ digits ++ gap ++ mark ++ after)
        = sign ++ digits ++ gap ++ mark := by
      rw [← Text.trim_around hbefore hmarked hafter]
      simp only [List.append_assoc]
    have hfront : ∀ c ∈ sign ++ digits ++ gap, c ∉ markLetters := by
      intro c hc
      rcases List.mem_append.1 hc with hc | hc
      · exact (hparts c hc).2
      · intro hletter
        have hblank := hgap c hc
        rw [(of_mem_markLetters hletter).1] at hblank
        cases hblank
    refine ⟨sign ++ digits ++ gap, ?_, ?_⟩
    · rw [htrim, splitUnit_append hfront hmark]
    · have hnumber : Text.trim ([] ++ (sign ++ digits ++ gap)) = sign ++ digits :=
        Text.trim_around (List.forall_mem_nil _) hbare hgap
      rw [List.nil_append] at hnumber
      rw [hnumber]
      exact hread

/-- A written duration is read in one way. -/
theorem Spells.unique {n m : Nat} {unit other : TimeUnit} {cs : List Char}
    (h : Spells n unit cs) (hother : Spells m other cs) : n = m ∧ unit = other := by
  obtain ⟨number, hsplit, hread⟩ := h.reads
  obtain ⟨number', hsplit', hread'⟩ := hother.reads
  rw [hsplit] at hsplit'
  cases hsplit'
  have hsame := (hread (max n m)).symm.trans (hread' (max n m))
  rw [if_pos (Nat.le_max_left ..), if_pos (Nat.le_max_right ..)] at hsame
  exact ⟨Option.some.inj hsame, rfl⟩

/-- **A written duration is read** if its number fits a word. A number that is
too large is refused as a whole, rather than cut down to what a word can hold.
-/
theorem Spells.parse?_eq {n : Nat} {unit : TimeUnit} {s : String}
    (h : Spells n unit s.toList) :
    parse? s = if n ≤ greatestSeconds then some (unit.times n) else none := by
  obtain ⟨number, hsplit, hread⟩ := h.reads
  unfold parse?
  rw [hsplit]
  dsimp only
  rw [hread]
  split <;> rfl

/-- **Nothing else is read.** Blanks between a sign and its digits, for one, are
not. -/
theorem exists_of_parse? {s : String} {d : Duration} (h : parse? s = some d) :
    ∃ n unit, Spells n unit s.toList ∧ n ≤ greatestSeconds ∧
      d = TimeUnit.times n unit := by
  unfold parse? at h
  generalize hcut : splitUnit (Text.trim s.toList) = cut at h
  obtain ⟨number, unit⟩ := cut
  dsimp only at h
  obtain ⟨n, hn, rfl⟩ := Option.map_eq_some_iff.1 h
  obtain ⟨mark, hmark, htrim⟩ := exists_of_splitUnit hcut
  obtain ⟨sign, digits, hsign, hdigits, hnumber⟩ :=
    Text.exists_of_boundedNatural? hn
  obtain ⟨before, after, hbefore, hafter, hs⟩ := Text.exists_around s.toList
  obtain ⟨lead, gap, hlead, hgap, hinner⟩ := Text.exists_around number
  refine ⟨n, unit, ?_, Text.le_of_boundedNatural? hn, rfl⟩
  -- blanks in front of the number are some of those in front of the text
  have hall : s.toList
      = before ++ lead ++ sign ++ digits ++ gap ++ mark ++ after := by
    rw [hs, htrim, hinner, hnumber]
    simp only [List.append_assoc]
  rw [hall]
  exact .written (fun c hc => (List.mem_append.1 hc).elim (hbefore c) (hlead c))
    hsign hdigits hgap hmark hafter

/-! ## The length that is said

A duration is kept as seconds and nanoseconds, in which the same length could be
written twice if the nanoseconds were not less than a second. They are, so that
the length alone determines the duration, and it is enough to compare lengths.
-/

/-- The length of a duration, in nanoseconds. Two durations can be compared by
it without regard to how they are kept. -/
def inNanoseconds (d : Duration) : Nat :=
  d.seconds * 1000000000 + d.nanoseconds

/-- Durations of one length are one duration. -/
theorem inNanoseconds_inj {d e : Duration} :
    d.inNanoseconds = e.inNanoseconds ↔ d = e := by
  refine ⟨fun h => ?_, congrArg inNanoseconds⟩
  have hd := d.nanoseconds_lt
  have he := e.nanoseconds_lt
  unfold inNanoseconds at h
  have hseconds : d.seconds = e.seconds := by omega
  have hnanoseconds : d.nanoseconds = e.nanoseconds := by omega
  cases d
  cases e
  congr

/-- **How long so many of a unit are**, in nanoseconds. Whole seconds stop at
the greatest word. Minutes and hours may come to more seconds than a word
counts, and then there is nothing larger to give. -/
def TimeUnit.length (n : Nat) : TimeUnit → Nat
  | milliseconds => n * 1000000
  | seconds => min n (2 ^ 64 - 1) * 1000000000
  | minutes => min (n * 60) (2 ^ 64 - 1) * 1000000000
  | hours => min (n * 3600) (2 ^ 64 - 1) * 1000000000

theorem inNanoseconds_ofSeconds (n : Nat) :
    (ofSeconds n).inNanoseconds = min n greatestSeconds * 1000000000 :=
  Nat.add_zero _

/-- Milliseconds that a word counts are counted exactly. -/
theorem inNanoseconds_ofMilliseconds {n : Nat} (h : n ≤ greatestSeconds) :
    (ofMilliseconds n).inNanoseconds = n * 1000000 := by
  have hseconds : min (n / 1000) greatestSeconds = n / 1000 :=
    Nat.min_eq_left (Nat.le_trans (Nat.div_le_self ..) h)
  unfold inNanoseconds ofMilliseconds
  dsimp only
  rw [hseconds]
  omega

theorem inNanoseconds_times {n : Nat} (h : n ≤ greatestSeconds)
    (unit : TimeUnit) : (unit.times n).inNanoseconds = unit.length n := by
  cases unit with
  | milliseconds => exact inNanoseconds_ofMilliseconds h
  | seconds => exact inNanoseconds_ofSeconds n
  | minutes => exact inNanoseconds_ofSeconds (n * 60)
  | hours => exact inNanoseconds_ofSeconds (n * 3600)

/-- **What is read as a duration**, and as which. A text is read exactly if it is
written as so many of a unit, in a number that fits a word, and then as a duration
of that length, with no loss but that whole seconds stop at the greatest word. Every
other text is refused. No text says two numbers or two units, though marks end and
begin like each other. -/
theorem parse?_iff_spells (s : String) :
    (∀ d, parse? s = some d ↔ ∃ n unit, Spells n unit s.toList ∧
        n ≤ 2 ^ 64 - 1 ∧ d.inNanoseconds = unit.length n) ∧
      (parse? s = none ↔
        ∀ n unit, Spells n unit s.toList → 2 ^ 64 - 1 < n) ∧
      ∀ n m unit other, Spells n unit s.toList → Spells m other s.toList →
        n = m ∧ unit = other := by
  refine ⟨fun d => ⟨fun h => ?_, ?_⟩, ⟨fun h n unit hs => ?_, fun h => ?_⟩,
    fun _ _ _ _ => Spells.unique⟩
  · obtain ⟨n, unit, hs, hn, rfl⟩ := exists_of_parse? h
    exact ⟨n, unit, hs, hn, inNanoseconds_times hn unit⟩
  · rintro ⟨n, unit, hs, hn, hlength⟩
    rw [hs.parse?_eq, if_pos (show n ≤ greatestSeconds from hn)]
    rw [← inNanoseconds_times hn unit] at hlength
    exact congrArg some (inNanoseconds_inj.1 hlength).symm
  · refine Nat.lt_of_not_le fun hn => ?_
    rw [hs.parse?_eq, if_pos (show n ≤ greatestSeconds from hn)] at h
    cases h
  · refine Option.eq_none_iff_forall_ne_some.2 fun d hd => ?_
    obtain ⟨n, unit, hs, hn, -⟩ := exists_of_parse? hd
    exact Nat.not_lt_of_le hn (h n unit hs)

/-- Seven milliseconds are written with a sign, with leading zeros and with
blanks of all kinds. -/
example : parse? "\t+007\u2003ms\u00a0" = some (ofMilliseconds 7) := by
  decide +kernel

/-- A mark is in one piece. -/
example : parse? "5m s" = none := by
  decide +kernel

/-! ## Durations in writing

A duration is written in whole seconds if it is one, and else in milliseconds.
Two things can be lost in this. What is below a millisecond is not written at
all. And the number of milliseconds can be larger than what the reader takes for
a number, though the seconds were not. -/

/-- Digits and a mark behind them are so many of its unit. -/
theorem spells_digits (n : Nat) {unit : TimeUnit} {mark : List Char}
    (hmark : mark ∈ unit.marks) : Spells n unit (Text.digits n ++ mark) := by
  have hspelled : Spells n unit
      ([] ++ [] ++ Text.digits n ++ [] ++ mark ++ []) :=
    .written (List.forall_mem_nil _) (by decide) (Text.spellsNatural_digits n)
      (List.forall_mem_nil _) hmark (List.forall_mem_nil _)
  simpa only [List.nil_append, List.append_nil] using hspelled

/-- A duration without what is below a millisecond. What is left out is always
less than a millisecond, and nothing is rounded up. -/
def truncated (d : Duration) : Duration where
  seconds := d.seconds
  nanoseconds := d.nanoseconds / 1000000 * 1000000
  seconds_lt := d.seconds_lt
  nanoseconds_lt := Nat.lt_of_le_of_lt (Nat.div_mul_le_self ..) d.nanoseconds_lt

theorem inNanoseconds_truncated (d : Duration) :
    d.truncated.inNanoseconds = d.inNanoseconds / 1000000 * 1000000 := by
  unfold inNanoseconds truncated
  dsimp only
  omega

/-- **The number that a duration is written with fits a word**: the duration is
in whole seconds, or its milliseconds fit one. In seconds it always does, as the
seconds of a duration are a word themselves. -/
def IsLegible (d : Duration) : Prop :=
  1000000000 ∣ d.inNanoseconds ∨ d.inNanoseconds / 1000000 < 2 ^ 64

instance (d : Duration) : Decidable d.IsLegible :=
  inferInstanceAs (Decidable (_ ∨ _))

/-- Whole seconds are those without nanoseconds beyond them. -/
theorem dvd_inNanoseconds_iff {d : Duration} :
    1000000000 ∣ d.inNanoseconds ↔ d.nanoseconds = 0 := by
  have hlt := d.nanoseconds_lt
  unfold inNanoseconds
  omega

theorem milliseconds_eq (d : Duration) :
    d.milliseconds = d.inNanoseconds / 1000000 := by
  unfold milliseconds inNanoseconds
  omega

/-- **What is written is read** without what is below a millisecond, if its number
fits a word, and otherwise not at all. -/
theorem parse?_text (d : Duration) :
    parse? d.text = if d.IsLegible then some d.truncated else none := by
  -- what is written is digits and a mark, so it is read as so many of the unit
  have hread : ∀ {n : Nat} {unit : TimeUnit} {mark : List Char},
      mark ∈ unit.marks → parse? (String.ofList (Text.digits n ++ mark))
        = if n ≤ greatestSeconds then some (unit.times n) else none := by
    intro n unit mark hmark
    refine Spells.parse?_eq ?_
    rw [String.toList_ofList]
    exact spells_digits n hmark
  unfold text
  by_cases hwhole : d.nanoseconds = 0
  · have hfits : d.seconds ≤ greatestSeconds := Nat.le_sub_one_of_lt d.seconds_lt
    -- in whole seconds there is nothing to lose
    have hsame : ofSeconds d.seconds = d.truncated := by
      rw [← inNanoseconds_inj, inNanoseconds_ofSeconds,
        inNanoseconds_truncated, Nat.min_eq_left hfits]
      unfold inNanoseconds
      omega
    rw [if_pos hwhole, @hread _ .seconds _ List.mem_cons_self,
      if_pos hfits, if_pos (.inl (dvd_inNanoseconds_iff.2 hwhole))]
    exact congrArg some hsame
  · rw [if_neg hwhole, @hread _ .milliseconds _ List.mem_cons_self]
    have hfits_iff : d.milliseconds ≤ greatestSeconds ↔ d.IsLegible := by
      unfold IsLegible
      rw [dvd_inNanoseconds_iff, or_iff_right hwhole, ← milliseconds_eq]
      exact Nat.lt_succ_iff.symm
    by_cases hfits : d.milliseconds ≤ greatestSeconds
    · have hsame : ofMilliseconds d.milliseconds = d.truncated := by
        rw [← inNanoseconds_inj, inNanoseconds_ofMilliseconds hfits,
          inNanoseconds_truncated, milliseconds_eq]
      rw [if_pos hfits, if_pos (hfits_iff.1 hfits)]
      exact congrArg some hsame
    · rw [if_neg hfits, if_neg fun h => hfits (hfits_iff.2 h)]

/-- **A duration that is read as it is written.** Whether it is can be told from
its length (`readsBack_iff`). -/
def ReadsBack (d : Duration) : Prop :=
  parse? d.text = some d

theorem truncated_eq_self_iff {d : Duration} :
    d.truncated = d ↔ 1000000 ∣ d.inNanoseconds := by
  rw [← inNanoseconds_inj, inNanoseconds_truncated]
  omega

/-- **Which durations read back**: those in whole milliseconds whose number, as it
is written, fits a word. -/
theorem readsBack_iff {d : Duration} :
    d.ReadsBack ↔ d.IsLegible ∧ 1000000 ∣ d.inNanoseconds := by
  unfold ReadsBack
  rw [parse?_text, ← truncated_eq_self_iff]
  split
  · next h => rw [Option.some.injEq, and_iff_right h]
  · next h => exact iff_of_false (Option.some_ne_none _).symm fun hd => h hd.1

/-- A duration in whole seconds reads back. -/
theorem readsBack_ofSeconds (n : Nat) : (ofSeconds n).ReadsBack := by
  have hwhole : 1000000000 ∣ (ofSeconds n).inNanoseconds := by
    rw [inNanoseconds_ofSeconds]
    exact Nat.dvd_mul_left ..
  exact readsBack_iff.2 ⟨.inl hwhole, Nat.dvd_trans (by decide) hwhole⟩

/-- So does one in whole milliseconds that a word counts. -/
theorem readsBack_ofMilliseconds {n : Nat} (h : n ≤ greatestSeconds) :
    (ofMilliseconds n).ReadsBack := by
  have hlength := inNanoseconds_ofMilliseconds h
  refine readsBack_iff.2 ⟨.inr ?_, hlength ▸ Nat.dvd_mul_left ..⟩
  rw [hlength, Nat.mul_div_cancel _ (by decide)]
  exact Nat.lt_succ_of_le h

/-- **A duration that was read** is read again. So settings that were read once
can be written and read as often as one likes; only durations that never were a
text can suffer. -/
theorem readsBack_of_parse? {s : String} {d : Duration}
    (h : parse? s = some d) : d.ReadsBack := by
  obtain ⟨n, unit, -, hle, rfl⟩ := exists_of_parse? h
  cases unit with
  | milliseconds => exact readsBack_ofMilliseconds hle
  | seconds => exact readsBack_ofSeconds n
  | minutes => exact readsBack_ofSeconds (n * 60)
  | hours => exact readsBack_ofSeconds (n * 3600)

end Duration

end PolicyGateway
