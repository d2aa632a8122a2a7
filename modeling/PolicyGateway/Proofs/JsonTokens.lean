import Mathlib.Data.List.TakeWhile
import PolicyGateway.Json.Reader

/-!
# The tokens of JSON

Blanks, strings and numerals are written in more than one way: a blank is one of
four, a character may be escaped, and a number has as many forms as there are zeros
to put behind its point. Here each of them is a relation between what is written and
what it says, a rule for each form, and the reader reads exactly what the rules
allow: `readMarks_eq_some_iff` says so of strings, `spells_of_readNumeral?` and
`readNumeral?_of_spells` of numerals.

A string ends at its quote. A numeral does not end by itself, it goes on as long as
digits, a point or an exponent follow; so it has to be said what may follow one
(`Halts`).

**Why relations.** A function from what is said to what is written would have to
choose among the ways to write it, and one in the other direction is the reader
itself. As a relation each way has its rule, and the proofs go rule by rule:
that it is read, and that what is read is one of them.
-/

namespace PolicyGateway.Json

open PolicyGateway.Text (Utf8.Cell)

/-! ## Blanks

They mean nothing, so all that is said of them is where they end. A text always
falls into blanks and something that starts with none. -/

/-- **Nothing but blanks.** They may be spaces, tabs and line ends, and in a
list none at all. -/
def AreGaps (cells : List Utf8.Cell) : Prop :=
  ∀ cell ∈ cells, isGap cell = true

theorem areGaps_nil : AreGaps [] := nofun

theorem skipGap_cons {cell : Utf8.Cell} (h : isGap cell = false)
    (rest : List Utf8.Cell) : skipGap (cell :: rest) = cell :: rest :=
  List.dropWhile_cons_of_neg (by rw [h]; simp)

/-- Blanks in front do not count. -/
theorem skipGap_append {gap : List Utf8.Cell} (h : AreGaps gap)
    (rest : List Utf8.Cell) : skipGap (gap ++ rest) = skipGap rest :=
  List.dropWhile_append_of_pos h

/-- **In front of a token there are blanks** and nothing else. -/
theorem exists_gap (input : List Utf8.Cell) :
    ∃ gap, AreGaps gap ∧ input = gap ++ skipGap input :=
  ⟨input.takeWhile isGap, fun _ => List.mem_takeWhile_imp,
    List.takeWhile_append_dropWhile.symm⟩

/-- All of a text is skipped if it is nothing but blanks. -/
theorem skipGap_eq_nil_iff {cells : List Utf8.Cell} :
    skipGap cells = [] ↔ AreGaps cells :=
  List.dropWhile_eq_nil_iff

/-! ## Strings

A string is a list of parts, and a part is a character or a unit of sixteen
bits. Only later are the units put together to characters, as it takes two of
them for one beyond the basic plane, and they may be written in different ways.
-/

/-- **A part of a string is written** as this. A slash has a short escape as
well, though it need not be escaped. -/
inductive SpellsMark : Mark → List Utf8.Cell → Prop
  /-- A character stands for itself, unless it is a control character, a quote or a
  backslash. -/
  | plain {c : Char} (visible : 0x20 ≤ c.toNat) (no_quote : c ≠ '"')
      (no_escape : c ≠ '\\') : SpellsMark (.plain c) [some c]
  /-- A gap in the bytes stands for itself as well. -/
  | damaged : SpellsMark .damaged [none]
  /-- Some characters have a short escape. -/
  | escape {e c : Char} (simple : simpleEscape? e = some c) :
      SpellsMark (.plain c) [some '\\', some e]
  /-- A unit is escaped by its four digits. -/
  | unit {a b c d : Char} {n : Nat} (digits : hexUnit? a b c d = some n) :
      SpellsMark (.unit n)
        [some '\\', some 'u', some a, some b, some c, some d]

/-- **The parts of a string are written**, one behind the other. -/
inductive SpellsMarks : List Mark → List Utf8.Cell → Prop
  /-- There is none. -/
  | nil : SpellsMarks [] []
  /-- One part is in front of the others. -/
  | cons {mark : Mark} {marks : List Mark} {cells rest : List Utf8.Cell}
      (first : SpellsMark mark cells) (others : SpellsMarks marks rest) :
      SpellsMarks (mark :: marks) (cells ++ rest)

/-- **One part is read.** -/
theorem readMarks_mark {mark : Mark} {cells : List Utf8.Cell}
    (h : SpellsMark mark cells) (found : List Mark) (rest : List Utf8.Cell) :
    readMarks found (cells ++ rest) = readMarks (mark :: found) rest := by
  cases h with
  | @plain c visible no_quote no_escape =>
    have hread : readMarks found (some c :: rest)
        = if c.toNat < 0x20 ∨ c = '\\' then none
          else readMarks (.plain c :: found) rest := by
      rw [readMarks.eq_def]
      split <;> simp_all
    refine hread.trans (if_neg ?_)
    rintro (hcontrol | hslash)
    · exact Nat.not_lt.2 visible hcontrol
    · exact no_escape hslash
  | damaged => rfl
  | @escape e c simple =>
    -- the escape of a unit is no short one
    have hne : e ≠ 'u' := by
      rintro rfl
      cases simple
    simp only [List.cons_append, List.nil_append]
    rw [readMarks, simple]
    exact fun _ _ _ _ _ _ => hne
  | unit digits =>
    simp only [List.cons_append, List.nil_append]
    rw [readMarks, digits]

/-- The parts of a string are read up to its quote. -/
theorem readMarks_of_spells {marks : List Mark} {cells : List Utf8.Cell}
    (h : SpellsMarks marks cells) (found : List Mark) (rest : List Utf8.Cell) :
    readMarks found (cells ++ some '"' :: rest)
      = some (found.reverse ++ marks, rest) := by
  induction h generalizing found with
  | nil =>
    rw [List.append_nil]
    rfl
  | cons first others ih =>
    rw [List.append_assoc, readMarks_mark first, ih, List.reverse_cons,
      List.append_assoc]
    rfl

/-- What is read up to a quote are parts of a string. -/
theorem exists_spells_of_readMarks {found marks : List Mark}
    {input rest : List Utf8.Cell}
    (h : readMarks found input = some (marks, rest)) :
    ∃ more cells, SpellsMarks more cells ∧ marks = found.reverse ++ more ∧
      input = cells ++ some '"' :: rest := by
  -- one part more in front, whatever it is
  have hmore : ∀ {mark : Mark} {cells input : List Utf8.Cell} {found : List Mark},
      SpellsMark mark cells →
      (∃ more cells, SpellsMarks more cells ∧
        marks = (mark :: found).reverse ++ more ∧
        input = cells ++ some '"' :: rest) →
      ∃ more others, SpellsMarks more others ∧ marks = found.reverse ++ more ∧
        cells ++ input = others ++ some '"' :: rest := by
    rintro mark cells _ found hmark ⟨more, others, hothers, rfl, rfl⟩
    exact ⟨mark :: more, cells ++ others, .cons hmark hothers, by simp, by simp⟩
  fun_induction readMarks found input with
  | case1 => cases h
  | case2 found rest' ih => exact hmore .damaged (ih h)
  | case3 found rest' =>
    cases h
    exact ⟨[], [], .nil, by simp, rfl⟩
  | case4 found a b c d rest' n hdigits ih => exact hmore (.unit hdigits) (ih h)
  | case5 => cases h
  | case6 found e rest' c hother hsimple ih =>
    exact hmore (.escape hsimple) (ih h)
  | case7 => cases h
  | case8 => cases h
  | case9 found c rest' hquote hunit hescape hplain ih =>
    rw [not_or] at hplain
    exact hmore (.plain (Nat.not_lt.1 hplain.1) (fun heq => hquote heq) hplain.2)
      (ih h)

/-- **A string is read exactly if its parts are written**, up to its quote. The
quote itself is no part, and what comes behind it is left. -/
theorem readMarks_eq_some_iff {marks : List Mark} {input rest : List Utf8.Cell} :
    readMarks [] input = some (marks, rest) ↔
      ∃ cells, SpellsMarks marks cells ∧ input = cells ++ some '"' :: rest := by
  constructor
  · intro h
    obtain ⟨more, cells, hcells, rfl, hinput⟩ := exists_spells_of_readMarks h
    exact ⟨cells, hcells, hinput⟩
  · rintro ⟨cells, hcells, rfl⟩
    exact readMarks_of_spells hcells [] rest

/-! ## Numerals

A numeral has up to three parts, and the later ones may be missing. Each part is
read as far as it goes. So a part is found as it was written only if what
follows cannot be taken for more of it; `Halts` is a condition that does for all
of them. -/

/-- **Digits are written**, a cell for each. -/
def SpellsDigits (digits : List Nat) (cells : List Utf8.Cell) : Prop :=
  cells.map digit? = digits.map some

/-- Digits start with one. -/
theorem SpellsDigits.exists_cons {digits : List Nat} {cells : List Utf8.Cell}
    (h : SpellsDigits digits cells) (hne : digits ≠ []) :
    ∃ cell more, cells = cell :: more ∧ (digit? cell).isSome = true := by
  cases cells with
  | nil => exact absurd (List.map_eq_nil_iff.1 h.symm) hne
  | cons cell more =>
    obtain ⟨d, -, hd⟩ := List.mem_map.1 (h ▸ List.mem_cons_self :
      digit? cell ∈ digits.map some)
    exact ⟨cell, more, rfl, by rw [← hd]; rfl⟩

/-- **A fraction is written** as this, or none is. A point without a digit
behind it is none. -/
inductive SpellsFraction : Option (List Nat) → List Utf8.Cell → Prop
  /-- There is none. -/
  | absent : SpellsFraction none []
  /-- It stands behind a point. -/
  | present {digits : List Nat} {cells : List Utf8.Cell} (ne_nil : digits ≠ [])
      (spelled : SpellsDigits digits cells) :
      SpellsFraction (some digits) (some '.' :: cells)

/-- **The sign of an exponent is written** as this. -/
inductive SpellsSign : Bool → List Utf8.Cell → Prop
  /-- It need not be. -/
  | absent : SpellsSign false []
  /-- But it may. -/
  | plus : SpellsSign false [some '+']
  /-- A minus makes the exponent negative. -/
  | minus : SpellsSign true [some '-']

/-- **An exponent is written** as this, or none is. -/
inductive SpellsExponent : Option Exponent → List Utf8.Cell → Prop
  /-- There is none. -/
  | absent : SpellsExponent none []
  /-- It stands behind its mark. -/
  | present {mark : Char} {negative : Bool} {digits : List Nat}
      {sign cells : List Utf8.Cell} (marked : mark = 'e' ∨ mark = 'E')
      (signed : SpellsSign negative sign) (ne_nil : digits ≠ [])
      (spelled : SpellsDigits digits cells) :
      SpellsExponent (some ⟨negative, digits⟩) (some mark :: (sign ++ cells))

/-- The minus in front of a numeral. -/
def minusCells (negative : Bool) : List Utf8.Cell :=
  if negative then [some '-'] else []

/-- **A numeral is written** as this. No zero stands in front of its other
digits. -/
inductive SpellsNumeral : Numeral → List Utf8.Cell → Prop
  /-- Its parts are written one behind the other. -/
  | parts {n : Numeral} {whole fraction exponent : List Utf8.Cell}
      (ne_nil : n.whole ≠ []) (no_zero : ∀ d more, n.whole ≠ 0 :: d :: more)
      (whole_spelled : SpellsDigits n.whole whole)
      (fraction_spelled : SpellsFraction n.fraction fraction)
      (exponent_spelled : SpellsExponent n.exponent exponent) :
      SpellsNumeral n
        (minusCells n.negative ++ (whole ++ (fraction ++ exponent)))

/-- **A numeral halts** in front of this: nothing follows, or a blank, or what
parts values or closes a list of them. It is what can follow a value in a
document. -/
def Halts (rest : List Utf8.Cell) : Prop :=
  ∀ cell ∈ rest.head?,
    isGap cell = true ∨ cell ∈ [some ',', some ']', some '\x7d']

/-- Digits end in front of this. This is less than that a numeral halts there,
since a point or an exponent may follow digits. -/
def EndsDigits (rest : List Utf8.Cell) : Prop :=
  ∀ cell ∈ rest.head?, digit? cell = none

theorem halts_nil : Halts [] := nofun

theorem halts_cons {cell : Utf8.Cell} (h : cell ∈ [some ',', some ']', some '\x7d'])
    (rest : List Utf8.Cell) : Halts (cell :: rest) := by
  rintro _ ⟨⟩
  exact .inr h

/-- Blanks may come in between. -/
theorem Halts.of_gap {gap rest : List Utf8.Cell} (hgap : AreGaps gap)
    (h : Halts rest) : Halts (gap ++ rest) := by
  cases gap with
  | nil => exact h
  | cons cell gap =>
    rintro _ ⟨⟩
    exact .inl (hgap _ List.mem_cons_self)

/-- What a numeral halts in front of is none of its characters. -/
theorem Halts.eq_nil_or_cons {rest : List Utf8.Cell} (h : Halts rest) :
    rest = [] ∨ ∃ cell more, rest = cell :: more ∧
      cell ∈ [some ' ', some '\n', some '\t', some '\r', some ',', some ']',
        some '\x7d'] := by
  cases rest with
  | nil => exact .inl rfl
  | cons cell more =>
    refine .inr ⟨cell, more, rfl, ?_⟩
    rcases h cell rfl with hgap | hcell
    · cases cell with
      | none => cases hgap
      | some c =>
        simp only [isGap, Bool.or_eq_true, beq_iff_eq] at hgap
        rcases hgap with ((rfl | rfl) | rfl) | rfl <;> simp
    · simp only [List.mem_cons, List.not_mem_nil, or_false] at hcell
      rcases hcell with rfl | rfl | rfl <;> simp

theorem Halts.endsDigits {rest : List Utf8.Cell} (h : Halts rest) :
    EndsDigits rest := by
  rcases h.eq_nil_or_cons with rfl | ⟨cell, more, rfl, hcell⟩
  · nofun
  · rintro _ ⟨⟩
    simp only [List.mem_cons, List.not_mem_nil, or_false] at hcell
    rcases hcell with rfl | rfl | rfl | rfl | rfl | rfl | rfl <;> rfl

/-- **Digits are read** up to what is no digit, and what is read is digits. All
of them are taken, never some. -/
theorem readDigits_eq_iff {digits : List Nat} {input rest : List Utf8.Cell} :
    readDigits input = (digits, rest) ↔
      ∃ cells, SpellsDigits digits cells ∧ EndsDigits rest ∧
        input = cells ++ rest := by
  -- cells that all are digits are written by the digits they are
  have hspells : ∀ cells : List Utf8.Cell,
      (∀ cell ∈ cells, (digit? cell).isSome = true) →
        SpellsDigits (cells.filterMap digit?) cells := by
    intro cells
    induction cells with
    | nil => exact fun _ => rfl
    | cons cell cells ih =>
      intro hall
      obtain ⟨d, hd⟩ := Option.isSome_iff_exists.1 (hall cell List.mem_cons_self)
      have hrest := ih fun cell hcell => hall cell (List.mem_cons_of_mem _ hcell)
      unfold SpellsDigits at hrest ⊢
      rw [List.filterMap_cons_some hd, List.map_cons, List.map_cons, hrest, hd]
  unfold readDigits
  constructor
  · intro h
    cases h
    refine ⟨input.takeWhile fun cell => (digit? cell).isSome,
      hspells _ fun _ => List.mem_takeWhile_imp, ?_,
      List.takeWhile_append_dropWhile.symm⟩
    intro cell hcell
    have hstop := List.head?_dropWhile_not
      (fun cell => (digit? cell).isSome) input
    rw [hcell] at hstop
    simpa using hstop
  · rintro ⟨cells, hcells, hends, rfl⟩
    have hall : ∀ cell ∈ cells, (digit? cell).isSome = true := by
      intro cell hcell
      have hmem : digit? cell ∈ digits.map some :=
        hcells ▸ List.mem_map_of_mem hcell
      obtain ⟨d, -, hd⟩ := List.mem_map.1 hmem
      rw [← hd]
      rfl
    have hvalues : cells.filterMap digit? = digits := by
      have hsome := hspells cells hall
      unfold SpellsDigits at hcells hsome
      exact (List.map_inj_right fun _ _ => Option.some.inj).1
        (hsome.symm.trans hcells)
    -- what follows the digits stops them, or there is nothing
    have hstop : rest.takeWhile (fun cell => (digit? cell).isSome) = [] ∧
        rest.dropWhile (fun cell => (digit? cell).isSome) = rest := by
      cases rest with
      | nil => exact ⟨rfl, rfl⟩
      | cons cell rest =>
        have hcell : ¬ (digit? cell).isSome = true := by simp [hends cell rfl]
        exact ⟨List.takeWhile_cons_of_neg hcell, List.dropWhile_cons_of_neg hcell⟩
    rw [List.takeWhile_append_of_pos hall, List.dropWhile_append_of_pos hall,
      hstop.1, hstop.2, List.append_nil, hvalues]

/-- **The digits before the point are read.** -/
theorem readWhole?_eq_some_iff {digits : List Nat} {input rest : List Utf8.Cell} :
    readWhole? input = some (digits, rest) ↔
      digits ≠ [] ∧ (∀ d more, digits ≠ 0 :: d :: more) ∧
        ∃ cells, SpellsDigits digits cells ∧ EndsDigits rest ∧
          input = cells ++ rest := by
  rw [← readDigits_eq_iff]
  unfold readWhole?
  constructor
  · intro h
    split at h
    · cases h
    · cases h
    · next hne hzero hread =>
      cases h
      exact ⟨hne, hzero, hread⟩
  · rintro ⟨hne, hzero, hread⟩
    rw [hread]
    split
    · next heq =>
      cases heq
      exact absurd rfl hne
    · next heq =>
      cases heq
      exact absurd rfl (hzero _ _)
    · next heq =>
      cases heq
      rfl

/-- What is read as a fraction is one, or there is none. -/
theorem spells_of_readFraction? {fraction : Option (List Nat)}
    {input rest : List Utf8.Cell}
    (h : readFraction? input = some (fraction, rest)) :
    ∃ cells, SpellsFraction fraction cells ∧ input = cells ++ rest := by
  unfold readFraction? at h
  split at h
  · split at h
    · cases h
    · next digits behind hne hread =>
      cases h
      obtain ⟨cells, hcells, -, rfl⟩ := readDigits_eq_iff.1 hread
      exact ⟨_, .present hne hcells, rfl⟩
  · cases h
    exact ⟨[], .absent, rfl⟩

/-- A fraction is read up to what does not continue it. -/
theorem readFraction?_of_spells {fraction : Option (List Nat)}
    {cells rest : List Utf8.Cell} (h : SpellsFraction fraction cells)
    (hends : EndsDigits rest) (hpoint : rest.head? ≠ some (some '.')) :
    readFraction? (cells ++ rest) = some (fraction, rest) := by
  cases h with
  | absent =>
    rw [List.nil_append]
    unfold readFraction?
    split
    · exact (hpoint rfl).elim
    · rfl
  | @present digits cells ne_nil spelled =>
    have hread : readDigits (cells ++ rest) = (digits, rest) :=
      readDigits_eq_iff.2 ⟨cells, spelled, hends, rfl⟩
    rw [List.cons_append, readFraction?, hread]
    split
    · next heq =>
      cases heq
      exact absurd rfl ne_nil
    · next heq =>
      cases heq
      rfl

/-- What is read as an exponent is one, or there is none. -/
theorem spells_of_readExponent? {exponent : Option Exponent}
    {input rest : List Utf8.Cell}
    (h : readExponent? input = some (exponent, rest)) :
    ∃ cells, SpellsExponent exponent cells ∧ input = cells ++ rest := by
  -- behind its sign the digits of an exponent are read
  have hsigned : ∀ {mark : Char} {negative : Bool} {digits : List Nat}
      {sign behind rest : List Utf8.Cell},
      (mark = 'e' ∨ mark = 'E') → SpellsSign negative sign → digits ≠ [] →
      readDigits behind = (digits, rest) →
      ∃ cells, SpellsExponent (some ⟨negative, digits⟩) cells ∧
        some mark :: (sign ++ behind) = cells ++ rest := by
    intro mark negative digits sign behind rest hmark hsign hne hread
    obtain ⟨cells, hcells, -, rfl⟩ := readDigits_eq_iff.1 hread
    exact ⟨_, .present hmark hsign hne hcells, by simp⟩
  unfold readExponent? at h
  dsimp only at h
  split at h
  · split at h
    · next hmark =>
      split at h
      · split at h
        · cases h
        · next hne hread =>
          cases h
          exact hsigned hmark .minus hne hread
      · split at h
        · cases h
        · next hne hread =>
          cases h
          exact hsigned hmark .plus hne hread
      · split at h
        · cases h
        · next hne hread =>
          cases h
          exact hsigned hmark .absent hne hread
    · cases h
      exact ⟨[], .absent, rfl⟩
  · cases h
    exact ⟨[], .absent, rfl⟩

/-- An exponent is read up to what does not continue it. -/
theorem readExponent?_of_spells {exponent : Option Exponent}
    {cells rest : List Utf8.Cell} (h : SpellsExponent exponent cells)
    (hends : EndsDigits rest)
    (hmark : ∀ mark, mark = 'e' ∨ mark = 'E' → rest.head? ≠ some (some mark)) :
    readExponent? (cells ++ rest) = some (exponent, rest) := by
  cases h with
  | absent =>
    rw [List.nil_append]
    unfold readExponent?
    split
    · split
      · next hor => exact (hmark _ hor rfl).elim
      · rfl
    · rfl
  | @present mark negative digits sign cells marked signed ne_nil spelled =>
    have hread : readDigits (cells ++ rest) = (digits, rest) :=
      readDigits_eq_iff.2 ⟨cells, spelled, hends, rfl⟩
    -- the digits start with neither sign, and are some
    obtain ⟨cell, more, rfl, hcell⟩ := spelled.exists_cons ne_nil
    obtain ⟨digit, digits, rfl⟩ := List.exists_cons_of_ne_nil ne_nil
    rw [List.cons_append, List.append_assoc]
    unfold readExponent?
    dsimp only
    rw [if_pos marked]
    cases signed with
    | plus => simp only [List.singleton_append, hread]
    | minus => simp only [List.singleton_append, hread]
    | absent =>
      split
      · next heq =>
        cases heq
        cases hcell
      · next heq =>
        cases heq
        cases hcell
      · simp only [List.nil_append, hread]

/-- What is read as a numeral is one. -/
theorem spells_of_readNumeral? {n : Numeral} {input rest : List Utf8.Cell}
    (h : readNumeral? input = some (n, rest)) :
    ∃ cells, SpellsNumeral n cells ∧ input = cells ++ rest := by
  unfold readNumeral? at h
  split at h
  next negative behind hsign =>
  -- the sign is put back, written or not
  have hinput : input = minusCells negative ++ behind := by
    split at hsign
    · cases hsign
      rfl
    · cases hsign
      rfl
  split at h
  · cases h
  next whole afterWhole hwhole =>
  split at h
  · cases h
  next fraction afterFraction hfraction =>
  split at h
  · cases h
  next exponent afterExponent hexponent =>
  cases h
  obtain ⟨hne, hzero, wholeCells, hwholeCells, -, rfl⟩ :=
    readWhole?_eq_some_iff.1 hwhole
  obtain ⟨fractionCells, hfractionCells, rfl⟩ := spells_of_readFraction? hfraction
  obtain ⟨exponentCells, hexponentCells, rfl⟩ := spells_of_readExponent? hexponent
  exact ⟨_, .parts hne hzero hwholeCells hfractionCells hexponentCells, by
    rw [hinput]
    simp only [List.append_assoc]⟩

/-- What comes behind the digits of a numeral is none of them. -/
theorem SpellsExponent.head? {exponent : Option Exponent}
    {cells rest : List Utf8.Cell} (h : SpellsExponent exponent cells)
    (hrest : Halts rest) :
    EndsDigits (cells ++ rest) ∧ (cells ++ rest).head? ≠ some (some '.') := by
  cases h with
  | absent =>
    refine ⟨hrest.endsDigits, fun hpoint => ?_⟩
    rcases hrest.eq_nil_or_cons with rfl | ⟨cell, more, rfl, hcell⟩
    · cases hpoint
    · cases hpoint
      exact absurd hcell (by decide)
  | present marked =>
    refine ⟨?_, ?_⟩
    · rintro _ ⟨⟩
      rcases marked with rfl | rfl <;> rfl
    · rintro ⟨⟩
      exact absurd marked (by decide)

theorem SpellsFraction.endsDigits {fraction : Option (List Nat)}
    {cells rest : List Utf8.Cell} (h : SpellsFraction fraction cells)
    (hrest : EndsDigits rest) : EndsDigits (cells ++ rest) := by
  cases h with
  | absent => exact hrest
  | present =>
    rintro _ ⟨⟩
    rfl

/-- **A numeral is read** up to what it halts in front of. -/
theorem readNumeral?_of_spells {n : Numeral} {cells rest : List Utf8.Cell}
    (h : SpellsNumeral n cells) (hrest : Halts rest) :
    readNumeral? (cells ++ rest) = some (n, rest) := by
  obtain ⟨hne, hzero, hwhole, hfraction, hexponent⟩ := h
  next whole fraction exponent =>
  obtain ⟨hends, hpoint⟩ := hexponent.head? hrest
  have hmark : ∀ mark, mark = 'e' ∨ mark = 'E' →
      rest.head? ≠ some (some mark) := by
    intro mark hmark hhead
    rcases hrest.eq_nil_or_cons with rfl | ⟨cell, more, rfl, hcell⟩
    · cases hhead
    · cases hhead
      rcases hmark with rfl | rfl <;> exact absurd hcell (by decide)
  -- each part ends where the next one begins, and the last one where the
  -- numeral halts
  have hreadWhole := readWhole?_eq_some_iff.2 ⟨hne, hzero, whole, hwhole,
    hfraction.endsDigits hends, rfl⟩
  have hreadFraction := readFraction?_of_spells hfraction hends hpoint
  have hreadExponent := readExponent?_of_spells hexponent hrest.endsDigits hmark
  simp only [List.append_assoc]
  unfold readNumeral?
  split
  next negative behind hsign =>
  -- whole digits do not start with a minus
  obtain ⟨cell, more, hcells, hcell⟩ := hwhole.exists_cons hne
  have hbehind : negative = n.negative ∧
      behind = whole ++ (fraction ++ (exponent ++ rest)) := by
    unfold minusCells at hsign
    cases hnegative : n.negative with
    | true =>
      rw [hnegative] at hsign
      cases hsign
      exact ⟨rfl, rfl⟩
    | false =>
      rw [hnegative, hcells] at hsign
      split at hsign
      · next heq =>
        cases heq
        cases hcell
      · cases hsign
        exact ⟨rfl, by rw [hcells]; rfl⟩
  obtain ⟨rfl, rfl⟩ := hbehind
  rw [hreadWhole]
  dsimp only
  rw [hreadFraction]
  dsimp only
  rw [hreadExponent]

end PolicyGateway.Json
