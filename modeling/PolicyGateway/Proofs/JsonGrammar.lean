import Mathlib.Tactic.Conv
import PolicyGateway.Proofs.JsonTokens

/-!
# The grammar of JSON

What a text may look like that spells a document is said here without a reader: one
rule for each kind of value (`Spells`), and blanks wherever tokens meet. What keeps to
the rules spells a document, even where it says nothing: a number beyond all range and
a value that is nested too deep are unreadable parts of it.

The reader accepts exactly the texts of the grammar, and gives the document that they
spell (`read?_eq_some_iff`); so each of them spells one. What follows a value is none
of the reader's business, unless the value is a numeral. The fuel of the reader is
always enough: two for each character, since between two calls that consume nothing
one is consumed.

An object may be taken apart as it is written (`WrittenObject`), in order to say what
becomes of a text that differs by a member.

**Why a grammar beside the reader.** The reader is made to stop at the first
thing that it does not expect, and its arguments are what is left of the text
and the fuel. None of this says which texts are documents. Statements about what
a server may send, or about a text with one more member in it, are about texts;
so they need the grammar, and the reader only has to be shown to follow it, once
and for good.

**Why values carry their blanks.** A list of items is written with blanks around
each one. If the rule for a list had all those blanks and texts as lists of
their own, of equal lengths, every proof would have to keep them in step.
`Written` keeps together what belongs to one item.
-/

namespace PolicyGateway.Json

open PolicyGateway.Record
open PolicyGateway.Text (Utf8.Cell)

/-! ## The grammar

The rule of a sequence has all its items as premises, and that of a mapping all
its members, so that an induction has them as well. The room for nesting goes
down by one from a list to its items. What is spelled without room is an
unreadable part of the document: whoever asks for it is refused, and whoever
does not may pass over it. -/

/-- **A value as it is written**, with blanks around it. -/
structure Written where
  /-- The blanks in front. -/
  before : List Utf8.Cell
  /-- The document that is spelled. -/
  node : Node
  /-- The text that spells it. -/
  text : List Utf8.Cell
  /-- The blanks behind. -/
  after : List Utf8.Cell

namespace Written

/-- The cells of a value and the blanks around it. -/
def cells (value : Written) : List Utf8.Cell :=
  value.before ++ (value.text ++ value.after)

/-- Around the value there are blanks. -/
structure IsPadded (value : Written) : Prop where
  /-- Those in front. -/
  before : AreGaps value.before
  /-- Those behind. -/
  after : AreGaps value.after

end Written

/-- **A member as it is written**: a name between quotes and a value behind a colon,
with blanks around them. -/
structure WrittenMember where
  /-- The blanks in front. -/
  before : List Utf8.Cell
  /-- The parts of the name. -/
  marks : List Mark
  /-- The text between the quotes. -/
  name : List Utf8.Cell
  /-- The blanks between the name and the colon. -/
  between : List Utf8.Cell
  /-- The value. -/
  value : Written

namespace WrittenMember

/-- The cells of a member and the blanks around it. -/
def cells (member : WrittenMember) : List Utf8.Cell :=
  member.before ++ (some '"' :: (member.name ++ (some '"' ::
    (member.between ++ (some ':' :: member.value.cells)))))

/-- **What a member says**: its name, if it is one, and the document of its value. -/
def said (member : WrittenMember) : Option String × Node :=
  (markedString? member.marks, member.value.node)

/-- Around the parts of the member there are blanks, and its name is written. -/
structure IsPadded (member : WrittenMember) : Prop where
  /-- The blanks in front. -/
  before : AreGaps member.before
  /-- The name. -/
  named : SpellsMarks member.marks member.name
  /-- The blanks between the name and the colon. -/
  between : AreGaps member.between
  /-- The blanks around the value. -/
  value : member.value.IsPadded

end WrittenMember

/-- **The parts of a list are written** with commas between them, or blanks
where there is none. So a list without parts may still have blanks between its
brackets. -/
def listed (gap : List Utf8.Cell) : List (List Utf8.Cell) → List Utf8.Cell
  | [] => gap
  | parts => [some ','].intercalate parts

/-- **A text spells a document**, with room for so many levels of nesting. The
texts are cells and not characters, since a body may hold bytes that are no
text; inside a string they may stand, and nowhere else. -/
inductive Spells : Nat → Node → List Utf8.Cell → Prop
  /-- The null value. -/
  | null {room : Nat} :
      Spells room .null [some 'n', some 'u', some 'l', some 'l']
  /-- The truth value of what is true. -/
  | yes {room : Nat} :
      Spells room (.boolean true) [some 't', some 'r', some 'u', some 'e']
  /-- The truth value of what is false. -/
  | no {room : Nat} :
      Spells room (.boolean false)
        [some 'f', some 'a', some 'l', some 's', some 'e']
  /-- A numeral. -/
  | numeral {room : Nat} {n : Numeral} {cells : List Utf8.Cell}
      (spelled : SpellsNumeral n cells) : Spells room (numeralNode n) cells
  /-- A string between its quotes. -/
  | string {room : Nat} {marks : List Mark} {cells : List Utf8.Cell}
      (spelled : SpellsMarks marks cells) :
      Spells room (stringNode marks) (some '"' :: (cells ++ [some '"']))
  /-- A sequence between its brackets. -/
  | sequence {room : Nat} {gap : List Utf8.Cell} {items : List Written}
      (blank : AreGaps gap) (padded : ∀ item ∈ items, item.IsPadded)
      (spelled : ∀ item ∈ items, Spells (room - 1) item.node item.text) :
      Spells room (within room (.sequence (items.map Written.node)))
        (some '[' :: (listed gap (items.map Written.cells) ++ [some ']']))
  /-- A mapping between its braces. -/
  | mapping {room : Nat} {gap : List Utf8.Cell} {members : List WrittenMember}
      (blank : AreGaps gap) (padded : ∀ member ∈ members, member.IsPadded)
      (spelled : ∀ member ∈ members,
        Spells (room - 1) member.value.node member.value.text) :
      Spells room (within room (membersNode (members.map WrittenMember.said)))
        (some '\x7b' :: (listed gap (members.map WrittenMember.cells)
          ++ [some '\x7d']))

/-- **A text is a document**: it spells one, with blanks around it. -/
inductive IsDocument (node : Node) : List Utf8.Cell → Prop
  /-- The blanks, the text and the blanks. -/
  | padded {before text after : List Utf8.Cell} (front : AreGaps before)
      (spelled : Spells greatestDepth node text) (back : AreGaps after) :
      IsDocument node (before ++ (text ++ after))

/-! ## What is spelled is read

The induction is on the spelling. At each value the reader has to take the
branch of the rule, and the parts of the value have to be read with the fuel
that is left. A value that comes in front of a comma or a bracket is followed by
something that ends a numeral, so nothing has to be asked of what follows except
at the very end. -/

/-- **A numeral goes on** as long as it may; any other text is a value whatever
follows it. `12` in front of `3` is not a value with a digit behind it. -/
def EndsBefore (text rest : List Utf8.Cell) : Prop :=
  (∃ n, SpellsNumeral n text) → Halts rest

/-- A character that a numeral starts with. -/
def StartsNumeral (c : Char) : Prop :=
  c = '-' ∨ (digit? (some c)).isSome = true

/-- What starts like a numeral starts like nothing else. -/
theorem StartsNumeral.ne {c d : Char} (h : StartsNumeral c)
    (hd : d ≠ '-' ∧ digit? (some d) = none) : c ≠ d := by
  rintro rfl
  rcases h with h | h
  · exact hd.1 h
  · rw [hd.2] at h
    cases h

theorem StartsNumeral.not_isGap {c : Char} (h : StartsNumeral c) :
    isGap (some c) = false := by
  unfold isGap
  simp only [Bool.or_eq_false_iff, beq_eq_false_iff_ne]
  exact ⟨⟨⟨h.ne (by decide), h.ne (by decide)⟩, h.ne (by decide)⟩,
    h.ne (by decide)⟩

theorem SpellsNumeral.exists_cons {n : Numeral} {cells : List Utf8.Cell}
    (h : SpellsNumeral n cells) :
    ∃ c more, cells = some c :: more ∧ StartsNumeral c := by
  obtain ⟨hne, -, hwhole, -, -⟩ := h
  obtain ⟨cell, more, rfl, hcell⟩ := hwhole.exists_cons hne
  unfold minusCells
  cases n.negative with
  | true => exact ⟨'-', _, rfl, .inl rfl⟩
  | false =>
    cases cell with
    | none => cases hcell
    | some c => exact ⟨c, _, rfl, .inr hcell⟩

/-- **What is spelled starts with a character** that is no blank and closes
nothing. That it closes nothing keeps an item from being taken for the end of
its list. -/
theorem Spells.exists_cons {room : Nat} {node : Node} {text : List Utf8.Cell}
    (h : Spells room node text) :
    ∃ c more, text = some c :: more ∧ isGap (some c) = false ∧ c ≠ ']' := by
  cases h with
  | numeral spelled =>
    obtain ⟨c, more, rfl, hstarts⟩ := spelled.exists_cons
    exact ⟨c, more, rfl, hstarts.not_isGap, hstarts.ne (by decide)⟩
  | _ => exact ⟨_, _, rfl, by decide, by decide⟩

theorem within_of_pos {room : Nat} (h : 0 < room) (node : Node) :
    within room node = node :=
  if_neg (Nat.pos_iff_ne_zero.1 h)

/-! ### One token further

What the reader does at one token, given what it makes of the part behind it. -/

section Tokens

variable {fuel room : Nat} {input rest : List Utf8.Cell}

/-- Blanks in front of a value do not count. -/
theorem readValue_append {gap : List Utf8.Cell} (h : AreGaps gap)
    (input : List Utf8.Cell) :
    readValue fuel room (gap ++ input) = readValue fuel room input := by
  cases fuel with
  | zero => rfl
  | succ fuel => rw [readValue, readValue, skipGap_append h]

/-- **A value that starts like a numeral** is one, or none. -/
theorem readValue_of_startsNumeral {c : Char} (h : StartsNumeral c) :
    readValue (fuel + 1) room (some c :: input)
      = (readNumeral? (some c :: input)).map fun (n, rest) =>
          (numeralNode n, rest) := by
  have hne : ∀ {d : Char} {more : List Utf8.Cell},
      d ≠ '-' ∧ digit? (some d) = none →
      some c :: input ≠ some d :: more := fun hd heq =>
    h.ne hd (Option.some.inj (List.cons.inj heq).1)
  unfold readValue
  rw [skipGap_cons h.not_isGap]
  split
  · next heq => exact absurd heq (hne (by decide))
  · next heq => exact absurd heq (hne (by decide))
  · next heq => exact absurd heq (hne (by decide))
  · next heq => exact absurd heq (hne (by decide))
  · next heq => exact absurd heq (hne (by decide))
  · next heq => exact absurd heq (hne (by decide))
  · cases readNumeral? (some c :: input) <;> rfl

theorem readValue_sequence (hopen : ∀ rest, skipGap input ≠ some ']' :: rest) :
    readValue (fuel + 1) room (some '[' :: input)
      = readItems fuel room [] input := by
  rw [readValue, skipGap_cons (by decide)]
  conv_lhs => whnf
  split
  · next heq => exact absurd heq (hopen _)
  · rfl

theorem readValue_emptySequence (hclosed : skipGap input = some ']' :: rest) :
    readValue (fuel + 1) room (some '[' :: input)
      = some (within room (.sequence []), rest) := by
  rw [readValue, skipGap_cons (by decide)]
  conv_lhs => whnf
  rw [hclosed]
  rfl

theorem readValue_mapping
    (hopen : ∀ rest, skipGap input ≠ some '\x7d' :: rest) :
    readValue (fuel + 1) room (some '\x7b' :: input)
      = readMembers fuel room [] input := by
  rw [readValue, skipGap_cons (by decide)]
  conv_lhs => whnf
  split
  · next heq => exact absurd heq (hopen _)
  · rfl

theorem readValue_emptyMapping (hclosed : skipGap input = some '\x7d' :: rest) :
    readValue (fuel + 1) room (some '\x7b' :: input)
      = some (within room (.mapping []), rest) := by
  rw [readValue, skipGap_cons (by decide)]
  conv_lhs => whnf
  rw [hclosed]
  rfl

theorem readValue_text {marks : List Mark}
    (h : readMarks [] input = some (marks, rest)) :
    readValue (fuel + 1) room (some '"' :: input)
      = some (stringNode marks, rest) := by
  rw [readValue, skipGap_cons (by decide)]
  conv_lhs => whnf
  rw [h]

variable {item : Node} {after cells : List Utf8.Cell}

theorem readItems_next {found : List Node}
    (h : readValue fuel (room - 1) input = some (item, after))
    (hcomma : skipGap after = some ',' :: cells) :
    readItems (fuel + 1) room found input
      = readItems fuel room (item :: found) cells := by
  rw [readItems, h]
  dsimp only
  rw [hcomma]
  rfl

theorem readItems_last {found : List Node}
    (h : readValue fuel (room - 1) input = some (item, after))
    (hclosed : skipGap after = some ']' :: rest) :
    readItems (fuel + 1) room found input
      = some (within room (.sequence (item :: found).reverse), rest) := by
  rw [readItems, h]
  dsimp only
  rw [hclosed]
  rfl

variable {found : List (Option String × Node)} {marks : List Mark}
  {before name between : List Utf8.Cell}
  (hbefore : AreGaps before) (hname : SpellsMarks marks name)
  (hbetween : AreGaps between)
  (h : readValue fuel (room - 1) input = some (item, after))
include hbefore hname hbetween h

/-- Up to its value a member is read. -/
theorem readMembers_member :
    readMembers (fuel + 1) room found (before ++ (some '"' ::
        (name ++ (some '"' :: (between ++ (some ':' :: input))))))
      = match skipGap after with
        | some ',' :: rest =>
          readMembers fuel room ((markedString? marks, item) :: found) rest
        | some '\x7d' :: rest =>
          some (within room (membersNode
            ((markedString? marks, item) :: found).reverse), rest)
        | _ => none := by
  have hquote := readMarks_of_spells hname []
    (between ++ (some ':' :: input))
  rw [readMembers, skipGap_append hbefore, skipGap_cons (by decide)]
  conv_lhs => whnf
  rw [hquote]
  conv_lhs => whnf
  rw [skipGap_append hbetween, skipGap_cons (by decide)]
  conv_lhs => whnf
  rw [h]
  rfl

end Tokens

/-! ### The whole text

Two for each cell is enough fuel: the reader calls itself at most once without
taking a cell, between the bracket and the first item, and then takes one. -/

/-- **A text is read as a document**, behind any blanks and in front of anything
that does not continue it. Fuel for the text is enough; what follows it costs
none. -/
def IsRead (room : Nat) (node : Node) (text : List Utf8.Cell) : Prop :=
  ∀ (fuel : Nat) (before rest : List Utf8.Cell), AreGaps before →
    EndsBefore text rest → 2 * text.length ≤ fuel →
      readValue fuel room (before ++ (text ++ rest)) = some (node, rest)

section Lists

variable {room : Nat}

/-- A value is read up to the mark behind it. -/
theorem Written.readValue_cells {value : Written} (hpadded : value.IsPadded)
    (hread : IsRead room value.node value.text) {fuel : Nat}
    (hfuel : 2 * value.cells.length ≤ fuel) (mark : Utf8.Cell)
    (hmark : mark ∈ [some ',', some ']', some '\x7d'])
    (rest : List Utf8.Cell) :
    readValue fuel room (value.cells ++ mark :: rest)
        = some (value.node, value.after ++ mark :: rest) ∧
      skipGap (value.after ++ mark :: rest) = mark :: rest := by
  have hlength : value.text.length ≤ value.cells.length := by
    simp only [Written.cells, List.length_append]
    omega
  have hgap : isGap mark = false := by
    simp only [List.mem_cons, List.not_mem_nil, or_false] at hmark
    rcases hmark with rfl | rfl | rfl <;> rfl
  refine ⟨?_, (skipGap_append hpadded.after _).trans (skipGap_cons hgap rest)⟩
  unfold Written.cells
  rw [List.append_assoc, List.append_assoc]
  exact hread _ _ _ hpadded.before
    (fun _ => (halts_cons hmark rest).of_gap hpadded.after) (by omega)

/-- A value does not start with the end of a list. -/
theorem Written.skipGap_cells {value : Written} (hpadded : value.IsPadded)
    (hspelled : Spells room value.node value.text) (rest more : List Utf8.Cell) :
    skipGap (value.cells ++ rest) ≠ some ']' :: more := by
  obtain ⟨c, behind, htext, hgap, hne⟩ := hspelled.exists_cons
  unfold Written.cells
  rw [List.append_assoc, skipGap_append hpadded.before, htext, List.cons_append,
    List.cons_append, skipGap_cons hgap]
  intro heq
  cases heq
  exact hne rfl

/-- A member does not start with the end of a list. -/
theorem WrittenMember.skipGap_cells {member : WrittenMember}
    (hpadded : member.IsPadded) (rest more : List Utf8.Cell) :
    skipGap (member.cells ++ rest) ≠ some '\x7d' :: more := by
  unfold WrittenMember.cells
  rw [List.append_assoc, skipGap_append hpadded.before, List.cons_append,
    skipGap_cons (by decide)]
  nofun

/-- In front of other parts the first one has a mark behind it. -/
theorem intercalate_cons_of_ne_nil {parts : List (List Utf8.Cell)}
    (hne : parts ≠ []) (mark : Utf8.Cell) (first : List Utf8.Cell) :
    [mark].intercalate (first :: parts)
      = first ++ mark :: [mark].intercalate parts := by
  obtain ⟨next, parts, rfl⟩ := List.exists_cons_of_ne_nil hne
  rw [List.intercalate_cons_cons, List.append_assoc, List.singleton_append]

/-- The first of listed parts is in front. -/
theorem exists_listed_cons (gap first : List Utf8.Cell)
    (rest : List (List Utf8.Cell)) :
    ∃ behind, listed gap (first :: rest) = first ++ behind := by
  cases rest with
  | nil => exact ⟨[], List.intercalate_singleton.trans (List.append_nil _).symm⟩
  | cons next rest =>
    exact ⟨_, intercalate_cons_of_ne_nil (List.cons_ne_nil _ _) _ _⟩

/-- **The items of a sequence are read.** -/
theorem readItems_of_isRead {items : List Written} (hne : items ≠ [])
    (hpadded : ∀ item ∈ items, item.IsPadded)
    (hread : ∀ item ∈ items, IsRead (room - 1) item.node item.text)
    {fuel : Nat} {found : List Node} (rest : List Utf8.Cell)
    (hfuel : 2 * ([some ','].intercalate (items.map Written.cells)).length
      < fuel) :
    readItems fuel room found
        ([some ','].intercalate (items.map Written.cells) ++ some ']' :: rest)
      = some (within room
          (.sequence (found.reverse ++ items.map Written.node)), rest) := by
  induction items generalizing fuel found with
  | nil => exact absurd rfl hne
  | cons item items ih =>
  cases fuel with
  | zero => omega
  | succ fuel =>
  have hfirst := hread item List.mem_cons_self
  have hpad := hpadded item List.mem_cons_self
  cases items with
  | nil =>
    rw [List.map_singleton, List.intercalate_singleton] at hfuel ⊢
    obtain ⟨hvalue, hafter⟩ := Written.readValue_cells hpad hfirst
      (show _ ≤ fuel by omega) (some ']') (by simp) rest
    rw [readItems_last hvalue hafter, List.reverse_cons, List.map_singleton]
  | cons next items =>
    rw [List.map_cons, intercalate_cons_of_ne_nil (by simp)] at hfuel ⊢
    rw [List.length_append, List.length_cons] at hfuel
    rw [List.append_assoc, List.cons_append]
    -- the comma pays for the call that reads the next items
    obtain ⟨hvalue, hafter⟩ := Written.readValue_cells hpad hfirst
      (show _ ≤ fuel by omega) (some ',') (by simp) _
    rw [readItems_next hvalue hafter, ih (List.cons_ne_nil _ _)
      (fun item hitem => hpadded item (List.mem_cons_of_mem _ hitem))
      (fun item hitem => hread item (List.mem_cons_of_mem _ hitem)) (by omega),
      List.reverse_cons, List.append_assoc]
    rfl

/-- **The members of a mapping are read.** -/
theorem readMembers_of_isRead {members : List WrittenMember} (hne : members ≠ [])
    (hpadded : ∀ member ∈ members, member.IsPadded)
    (hread : ∀ member ∈ members,
      IsRead (room - 1) member.value.node member.value.text)
    {fuel : Nat} {found : List (Option String × Node)} (rest : List Utf8.Cell)
    (hfuel : 2 * ([some ','].intercalate
      (members.map WrittenMember.cells)).length < fuel) :
    readMembers fuel room found
        ([some ','].intercalate (members.map WrittenMember.cells)
          ++ some '\x7d' :: rest)
      = some (within room (membersNode
          (found.reverse ++ members.map WrittenMember.said)), rest) := by
  induction members generalizing fuel found with
  | nil => exact absurd rfl hne
  | cons member members ih =>
  cases fuel with
  | zero => omega
  | succ fuel =>
  obtain ⟨hbefore, hnamed, hbetween, hvaluePadded⟩ :=
    hpadded member List.mem_cons_self
  have hfirst := hread member List.mem_cons_self
  -- a member has more cells than its value, so the fuel is enough for that
  have hlength : member.value.cells.length < member.cells.length := by
    simp only [WrittenMember.cells, List.length_append, List.length_cons]
    omega
  have hcells : ∀ behind, member.cells ++ behind
      = member.before ++ (some '"' :: (member.name ++ (some '"' ::
          (member.between ++ (some ':' :: (member.value.cells ++ behind)))))) := by
    intro behind
    simp only [WrittenMember.cells, List.append_assoc, List.cons_append]
  cases members with
  | nil =>
    rw [List.map_singleton, List.intercalate_singleton] at hfuel ⊢
    obtain ⟨hitem, hafter⟩ := Written.readValue_cells hvaluePadded hfirst
      (show _ ≤ fuel by omega) (some '\x7d') (by simp) rest
    rw [hcells, readMembers_member hbefore hnamed hbetween hitem, hafter,
      List.reverse_cons, List.map_singleton]
    rfl
  | cons next members =>
    rw [List.map_cons, intercalate_cons_of_ne_nil (by simp)] at hfuel ⊢
    rw [List.length_append, List.length_cons] at hfuel
    rw [List.append_assoc, List.cons_append]
    obtain ⟨hitem, hafter⟩ := Written.readValue_cells hvaluePadded hfirst
      (show _ ≤ fuel by omega) (some ',') (by simp) _
    rw [hcells, readMembers_member hbefore hnamed hbetween hitem, hafter]
    refine (ih (List.cons_ne_nil _ _)
      (fun member hmember => hpadded member (List.mem_cons_of_mem _ hmember))
      (fun member hmember => hread member (List.mem_cons_of_mem _ hmember))
      (by omega)).trans ?_
    rw [List.reverse_cons, List.append_assoc]
    rfl

end Lists

/-- What is not empty is read with some fuel. -/
theorem exists_fuel {cell : Utf8.Cell} {more : List Utf8.Cell} {fuel : Nat}
    (h : 2 * (cell :: more).length ≤ fuel) :
    ∃ spare, fuel = spare + 1 ∧ 2 * more.length < spare := by
  rw [List.length_cons] at h
  exact ⟨fuel - 1, by omega, by omega⟩

/-- **What is spelled is read.** -/
theorem Spells.isRead {room : Nat} {node : Node} {text : List Utf8.Cell}
    (h : Spells room node text) : IsRead room node text := by
  -- the premises about items and members come as induction hypotheses, so no
  -- list has to be gone through here
  induction h with
  | null =>
    intro fuel before rest hbefore _ hfuel
    obtain ⟨fuel, rfl, -⟩ := exists_fuel hfuel
    rw [readValue_append hbefore]
    rfl
  | yes =>
    intro fuel before rest hbefore _ hfuel
    obtain ⟨fuel, rfl, -⟩ := exists_fuel hfuel
    rw [readValue_append hbefore]
    rfl
  | no =>
    intro fuel before rest hbefore _ hfuel
    obtain ⟨fuel, rfl, -⟩ := exists_fuel hfuel
    rw [readValue_append hbefore]
    rfl
  | @numeral room n text spelled =>
    intro fuel before rest hbefore hends hfuel
    have hnumeral := readNumeral?_of_spells spelled (hends ⟨n, spelled⟩)
    obtain ⟨c, more, rfl, hstarts⟩ := spelled.exists_cons
    obtain ⟨fuel, rfl, -⟩ := exists_fuel hfuel
    rw [List.cons_append] at hnumeral
    rw [readValue_append hbefore, List.cons_append,
      readValue_of_startsNumeral hstarts, hnumeral]
    rfl
  | @string room marks text spelled =>
    intro fuel before rest hbefore _ hfuel
    obtain ⟨fuel, rfl, -⟩ := exists_fuel hfuel
    rw [readValue_append hbefore, List.cons_append, List.append_assoc]
    exact readValue_text (readMarks_of_spells spelled [] rest)
  | @sequence room gap items blank padded spelled ih =>
    intro fuel before rest hbefore _ hfuel
    obtain ⟨fuel, rfl, hbehind⟩ := exists_fuel hfuel
    -- the opening bracket pays for two calls, and the closing one for two more
    have hinside : 2 * (listed gap (items.map Written.cells)).length < fuel := by
      rw [List.length_append] at hbehind
      omega
    rw [readValue_append hbefore, List.cons_append, List.append_assoc]
    cases items with
    | nil =>
      exact readValue_emptySequence
        ((skipGap_append blank _).trans (skipGap_cons (by decide) rest))
    | cons item items =>
      obtain ⟨behind, hitems⟩ := exists_listed_cons gap item.cells
        (items.map Written.cells)
      rw [readValue_sequence]
      · exact readItems_of_isRead (List.cons_ne_nil _ _) padded ih rest
          hinside
      · intro more
        rw [List.map_cons, hitems, List.append_assoc]
        exact Written.skipGap_cells (padded item List.mem_cons_self)
          (spelled item List.mem_cons_self) _ more
  | @mapping room gap members blank padded spelled ih =>
    intro fuel before rest hbefore _ hfuel
    obtain ⟨fuel, rfl, hbehind⟩ := exists_fuel hfuel
    have hinside : 2 * (listed gap (members.map WrittenMember.cells)).length
        < fuel := by
      rw [List.length_append] at hbehind
      omega
    rw [readValue_append hbefore, List.cons_append, List.append_assoc]
    cases members with
    | nil =>
      exact readValue_emptyMapping
        ((skipGap_append blank _).trans (skipGap_cons (by decide) rest))
    | cons member members =>
      obtain ⟨behind, hmembers⟩ := exists_listed_cons gap member.cells
        (members.map WrittenMember.cells)
      rw [readValue_mapping]
      · exact readMembers_of_isRead (List.cons_ne_nil _ _) padded ih rest
          hinside
      · intro more
        rw [List.map_cons, hmembers, List.append_assoc]
        exact WrittenMember.skipGap_cells (padded member List.mem_cons_self) _ more

/-! ## What is read is spelled

Here the induction is on the fuel, as that is what goes down with each call.
Whatever the reader takes off the front of a text is blanks and a value by the
rules, and the rest is handed on untouched. -/

/-- **What is read in front of a text** is spelled there, behind blanks. -/
def IsInFront (room : Nat) (node : Node) (input rest : List Utf8.Cell) : Prop :=
  ∃ before text, AreGaps before ∧ Spells room node text ∧
    input = before ++ (text ++ rest)

/-- With so much fuel, whatever is read is spelled. It is what the induction
carries: the reader of values hands on less fuel to the readers of lists, and
they hand it back. -/
def IsSound (fuel room : Nat) : Prop :=
  ∀ node input rest, readValue fuel room input = some (node, rest) →
    IsInFront room node input rest

section Sound

variable {fuel room : Nat} {node : Node} {input rest : List Utf8.Cell}

/-- What is read in front of a mark is a value with blanks around it. -/
theorem IsInFront.exists_written {mark : Utf8.Cell} {after : List Utf8.Cell}
    (h : IsInFront room node input after)
    (hafter : skipGap after = mark :: rest) :
    ∃ value : Written, value.IsPadded ∧ Spells room value.node value.text ∧
      value.node = node ∧ input = value.cells ++ mark :: rest := by
  obtain ⟨before, text, hbefore, htext, rfl⟩ := h
  obtain ⟨gap, hgap, hsplit⟩ := exists_gap after
  rw [hafter] at hsplit
  refine ⟨⟨before, node, text, gap⟩, ⟨hbefore, hgap⟩, htext, rfl, ?_⟩
  rw [hsplit]
  simp only [Written.cells, List.append_assoc]

/-- **The items that are read** are spelled one behind the other. -/
theorem items_of_readItems (hsound : ∀ less < fuel, IsSound less (room - 1))
    {found : List Node} (h : readItems fuel room found input = some (node, rest)) :
    ∃ items : List Written, items ≠ [] ∧ (∀ item ∈ items, item.IsPadded) ∧
      (∀ item ∈ items, Spells (room - 1) item.node item.text) ∧
      node = within room (.sequence (found.reverse ++ items.map Written.node)) ∧
      input = [some ','].intercalate (items.map Written.cells)
        ++ some ']' :: rest := by
  -- on the fuel, with what was found so far left open
  induction fuel generalizing found input with
  | zero => cases h
  | succ fuel ih =>
  unfold readItems at h
  split at h
  · cases h
  next item after hvalue =>
  have hfront := hsound fuel (Nat.lt_succ_self _) _ _ _ hvalue
  split at h
  · next cells hcomma =>
    obtain ⟨first, hpadded, hspelled, rfl, rfl⟩ := hfront.exists_written hcomma
    obtain ⟨items, hne, hpads, hspells, rfl, rfl⟩ :=
      ih (fun less hless => hsound less (Nat.lt_succ_of_lt hless)) h
    refine ⟨first :: items, List.cons_ne_nil _ _,
      List.forall_mem_cons.2 ⟨hpadded, hpads⟩,
      List.forall_mem_cons.2 ⟨hspelled, hspells⟩, ?_, ?_⟩
    · rw [List.reverse_cons, List.append_assoc, List.map_cons]
      rfl
    · rw [List.map_cons, intercalate_cons_of_ne_nil (List.map_eq_nil_iff.not.2 hne),
        List.append_assoc, List.cons_append]
  · next hclosed =>
    obtain ⟨first, hpadded, hspelled, rfl, rfl⟩ := hfront.exists_written hclosed
    cases h
    refine ⟨[first], List.cons_ne_nil _ _, by simpa using hpadded,
      by simpa using hspelled, ?_, ?_⟩
    · rw [List.reverse_cons, List.map_singleton]
    · rw [List.map_singleton, List.intercalate_singleton]
  · cases h

/-- **The members that are read** are spelled one behind the other. -/
theorem members_of_readMembers
    (hsound : ∀ less < fuel, IsSound less (room - 1))
    {found : List (Option String × Node)}
    (h : readMembers fuel room found input = some (node, rest)) :
    ∃ members : List WrittenMember, members ≠ [] ∧
      (∀ member ∈ members, member.IsPadded) ∧
      (∀ member ∈ members,
        Spells (room - 1) member.value.node member.value.text) ∧
      node = within room
        (membersNode (found.reverse ++ members.map WrittenMember.said)) ∧
      input = [some ','].intercalate (members.map WrittenMember.cells)
        ++ some '\x7d' :: rest := by
  -- on the fuel, since each call hands on one less; what was found so far
  -- changes with it and is left open
  induction fuel generalizing found input with
  | zero => cases h
  | succ fuel ih =>
  unfold readMembers at h
  split at h
  · next behindQuote hquote =>
    split at h
    · cases h
    next marks behindName hmarks =>
    split at h
    · next behindColon hcolon =>
      split at h
      · cases h
      next item after hvalue =>
      have hfront := hsound fuel (Nat.lt_succ_self _) _ _ _ hvalue
      obtain ⟨before, hbefore, hinput⟩ := exists_gap input
      obtain ⟨name, hname, hbehindQuote⟩ := readMarks_eq_some_iff.1 hmarks
      obtain ⟨between, hbetween, hbehindName⟩ := exists_gap behindName
      rw [hquote, hbehindQuote, hbehindName, hcolon] at hinput
      -- what is written up to the value is the same, whatever follows it
      have hmember : ∀ {value : Written} {mark : Utf8.Cell}
          {cells : List Utf8.Cell}, value.IsPadded →
          Spells (room - 1) value.node value.text → value.node = item →
          behindColon = value.cells ++ mark :: cells →
          ∃ member : WrittenMember, member.IsPadded ∧
            Spells (room - 1) member.value.node member.value.text ∧
            member.said = (markedString? marks, item) ∧
            input = member.cells ++ mark :: cells := by
        rintro value mark cells hpadded hspelled rfl hcells
        refine ⟨⟨before, marks, name, between, value⟩,
          ⟨hbefore, hname, hbetween, hpadded⟩, hspelled, rfl, ?_⟩
        rw [hinput, hcells]
        simp only [WrittenMember.cells, List.append_assoc, List.cons_append]
      dsimp only at h
      split at h
      · next cells hcomma =>
        obtain ⟨value, hpadded, hspelled, hnode, hcells⟩ :=
          hfront.exists_written hcomma
        obtain ⟨first, hpad, hspell, hsaid, rfl⟩ :=
          hmember hpadded hspelled hnode hcells
        obtain ⟨members, hne, hpads, hspells, rfl, rfl⟩ :=
          ih (fun less hless => hsound less (Nat.lt_succ_of_lt hless)) h
        refine ⟨first :: members, List.cons_ne_nil _ _,
          List.forall_mem_cons.2 ⟨hpad, hpads⟩,
          List.forall_mem_cons.2 ⟨hspell, hspells⟩, ?_, ?_⟩
        · rw [List.reverse_cons, List.append_assoc, List.map_cons, hsaid]
          rfl
        · rw [List.map_cons,
            intercalate_cons_of_ne_nil (List.map_eq_nil_iff.not.2 hne),
            List.append_assoc, List.cons_append]
      · next hclosed =>
        obtain ⟨value, hpadded, hspelled, hnode, hcells⟩ :=
          hfront.exists_written hclosed
        obtain ⟨first, hpad, hspell, hsaid, rfl⟩ :=
          hmember hpadded hspelled hnode hcells
        cases h
        refine ⟨[first], List.cons_ne_nil _ _, by simpa using hpad,
          by simpa using hspell, ?_, ?_⟩
        · rw [List.reverse_cons, List.map_singleton, hsaid]
        · rw [List.map_singleton, List.intercalate_singleton]
      · cases h
    · cases h
  · cases h

/-- **What is read is spelled.** -/
theorem isSound (fuel room : Nat) : IsSound fuel room := by
  induction fuel using Nat.strongRecOn generalizing room with
  | _ fuel ih =>
  intro node input rest h
  -- without fuel nothing is read
  cases fuel with
  | zero => cases h
  | succ fuel =>
  obtain ⟨before, hbefore, hinput⟩ := exists_gap input
  -- behind the blanks there is one value, whichever it is
  suffices hspelled : ∃ text, Spells room node text ∧
      skipGap input = text ++ rest by
    obtain ⟨text, htext, hskip⟩ := hspelled
    exact ⟨before, text, hbefore, htext, by rw [← hskip, ← hinput]⟩
  have hsound : ∀ less < fuel, IsSound less (room - 1) :=
    fun less hless => ih less (Nat.lt_succ_of_lt hless) (room - 1)
  unfold readValue at h
  split at h
  · next behind hopen =>
    obtain ⟨gap, hgap, hbehind⟩ := exists_gap behind
    split at h
    · next hclosed =>
      cases h
      rw [hclosed] at hbehind
      exact ⟨_, @Spells.sequence _ gap [] hgap nofun nofun, by
        rw [hopen, hbehind]
        simp [listed]⟩
    · obtain ⟨items, hne, hpads, hspells, rfl, rfl⟩ := items_of_readItems hsound h
      obtain ⟨item, items, rfl⟩ := List.exists_cons_of_ne_nil hne
      exact ⟨_, .sequence areGaps_nil hpads hspells, by
        rw [hopen]
        simp [listed]⟩
  · next behind hopen =>
    obtain ⟨gap, hgap, hbehind⟩ := exists_gap behind
    split at h
    · next hclosed =>
      cases h
      rw [hclosed] at hbehind
      exact ⟨_, @Spells.mapping _ gap [] hgap nofun nofun, by
        rw [hopen, hbehind]
        simp [listed]⟩
    · obtain ⟨members, hne, hpads, hspells, rfl, rfl⟩ :=
        members_of_readMembers hsound h
      obtain ⟨member, members, rfl⟩ := List.exists_cons_of_ne_nil hne
      exact ⟨_, .mapping areGaps_nil hpads hspells, by
        rw [hopen]
        simp [listed]⟩
  · next behind hquote =>
    split at h
    · next marks behindQuote hmarks =>
      cases h
      obtain ⟨cells, hcells, rfl⟩ := readMarks_eq_some_iff.1 hmarks
      exact ⟨_, .string hcells, by
        rw [hquote]
        simp⟩
    · cases h
  · next hword =>
    cases h
    exact ⟨_, .null, hword⟩
  · next hword =>
    cases h
    exact ⟨_, .yes, hword⟩
  · next hword =>
    cases h
    exact ⟨_, .no, hword⟩
  · split at h
    · next numeral behind hnumeral =>
      cases h
      obtain ⟨cells, hcells, hinput⟩ := spells_of_readNumeral? hnumeral
      exact ⟨cells, .numeral hcells, hinput⟩
    · cases h

end Sound

/-! ## Documents

Both directions come together at the whole text, where nothing but blanks may be
left over. -/

/-- **A text is read exactly if it is a document**, and as the document that it
is. -/
theorem read?_eq_some_iff {input : List Utf8.Cell} {node : Node} :
    read? input = some node ↔ IsDocument node input := by
  unfold read?
  constructor
  · intro h
    split at h
    · next rest hread =>
      split at h
      · next hempty =>
        cases h
        obtain ⟨before, text, hbefore, htext, rfl⟩ := isSound _ _ _ _ _ hread
        exact .padded hbefore htext
          (skipGap_eq_nil_iff.1 (List.isEmpty_iff.1 hempty))
      · cases h
    · cases h
  · rintro @⟨before, text, after, hbefore, htext, hafter⟩
    have hends : EndsBefore text after := fun _ => by
      rw [← List.append_nil after]
      exact halts_nil.of_gap hafter
    rw [htext.isRead _ before after hbefore hends (by
      simp only [List.length_append]
      omega)]
    dsimp only
    rw [skipGap_eq_nil_iff.2 hafter]
    rfl

/-- **Behind a value nothing but blanks may come.** Only a numeral may go on,
and is a numeral then. Digits behind digits make a longer number, and not a
number and something else. -/
theorem exists_numeral_of_trailing {before text rest : List Utf8.Cell}
    {node other : Node} (hbefore : AreGaps before)
    (htext : Spells greatestDepth node text) (hrest : ¬ AreGaps rest)
    (h : read? (before ++ (text ++ rest)) = some other) :
    ∃ n, other = numeralNode n := by
  have hlength : 2 * text.length
      ≤ 2 * (before ++ (text ++ rest)).length + 2 := by
    simp only [List.length_append]
    omega
  unfold read? at h
  -- a numeral may be read further than it was written, anything else is read as
  -- it stands
  by_cases hnumeral : ∃ n, SpellsNumeral n text
  · obtain ⟨n, hn⟩ := hnumeral
    obtain ⟨c, more, rfl, hstarts⟩ := hn.exists_cons
    rw [readValue_append hbefore, List.cons_append,
      readValue_of_startsNumeral hstarts] at h
    cases hfound : readNumeral? (some c :: (more ++ rest)) with
    | none =>
      rw [hfound] at h
      cases h
    | some found =>
      rw [hfound] at h
      dsimp only [Option.map_some] at h
      split at h
      · cases h
        exact ⟨found.1, rfl⟩
      · cases h
  · rw [htext.isRead _ before rest hbefore (fun hn => absurd hn hnumeral)
      hlength] at h
    dsimp only at h
    split at h
    · next hempty =>
      exact absurd (skipGap_eq_nil_iff.1 (List.isEmpty_iff.1 hempty)) hrest
    · cases h

/-! ## Objects

An object is a document like any other. It is taken apart a second time because
what changes it is done to one of its members, while all the blanks and the
other members stay where they are. -/

/-- **A member is written**: there are blanks around its parts, its name is
written and so is its value. -/
structure WrittenMember.IsWritten (member : WrittenMember) : Prop where
  /-- The blanks and the name. -/
  padded : member.IsPadded
  /-- The value. -/
  spelled : Spells (greatestDepth - 1) member.value.node member.value.text

/-- **An object as it is written**, with blanks around it. -/
structure WrittenObject where
  /-- The blanks in front. -/
  before : List Utf8.Cell
  /-- What stands between the braces if there is no member. -/
  gap : List Utf8.Cell
  /-- The members. -/
  members : List WrittenMember
  /-- The blanks behind. -/
  after : List Utf8.Cell

namespace WrittenObject

/-- The text of an object, from brace to brace. -/
def text (object : WrittenObject) : List Utf8.Cell :=
  some '\x7b' :: (listed object.gap (object.members.map WrittenMember.cells)
    ++ [some '\x7d'])

/-- The cells of an object and the blanks around it. -/
def cells (object : WrittenObject) : List Utf8.Cell :=
  object.before ++ (object.text ++ object.after)

/-- **What the members say**, one after the other. -/
def said (object : WrittenObject) : List (Option String × Node) :=
  object.members.map WrittenMember.said

/-- There are blanks around the object, and its members are written. -/
structure IsWritten (object : WrittenObject) : Prop where
  /-- The blanks in front. -/
  before : AreGaps object.before
  /-- The blanks where there is no member. -/
  gap : AreGaps object.gap
  /-- The members. -/
  members : ∀ member ∈ object.members, member.IsWritten
  /-- The blanks behind. -/
  after : AreGaps object.after

/-- A member that is written may be put between the others. -/
theorem IsWritten.insert {object : WrittenObject} (h : object.IsWritten)
    {front behind : List WrittenMember} {member : WrittenMember}
    (hmembers : object.members = front ++ behind) (hmember : member.IsWritten) :
    IsWritten { object with members := front ++ member :: behind } where
  before := h.before
  gap := h.gap
  members := by
    obtain ⟨hfront, hbehind⟩ := List.forall_mem_append.1 (hmembers ▸ h.members)
    exact List.forall_mem_append.2
      ⟨hfront, List.forall_mem_cons.2 ⟨hmember, hbehind⟩⟩
  after := h.after

/-- The text of an object spells the mapping of what its members say. -/
theorem spells_text {object : WrittenObject} (h : object.IsWritten) :
    Spells greatestDepth (membersNode object.said) object.text := by
  rw [← within_of_pos (by decide : 0 < greatestDepth) (membersNode object.said)]
  exact .mapping h.gap (fun member hmember => (h.members member hmember).padded)
    fun member hmember => (h.members member hmember).spelled

/-- **An object is read as the mapping of what its members say.** -/
theorem read?_cells {object : WrittenObject} (h : object.IsWritten) :
    read? object.cells = some (membersNode object.said) :=
  read?_eq_some_iff.2 (.padded h.before (spells_text h) h.after)

end WrittenObject

/-- Members are a mapping, or unreadable. -/
theorem membersNode_cases (said : List (Option String × Node)) :
    membersNode said = .unreadable ∨
      ∃ members, membersNode said = .mapping members := by
  unfold membersNode
  split
  · exact .inr ⟨_, rfl⟩
  · exact .inl rfl

/-- Members whose names have been read are a mapping, and no others are. -/
theorem membersNode_eq_mapping_iff {said : List (Option String × Node)}
    {members : List (String × Node)} :
    membersNode said = .mapping members ↔
      said = members.map fun member => (some member.1, member.2) := by
  -- a single name that is no text is enough for there to be no mapping
  have hmapM : said.mapM (fun member => member.1.map (·, member.2))
        = some members ↔
      said = members.map fun member => (some member.1, member.2) := by
    induction said generalizing members with
    | nil => cases members <;> simp
    | cons first said ih =>
      obtain ⟨_ | name, node⟩ := first
      · cases members <;> simp
      · rw [List.mapM_cons]
        refine (Option.bind_eq_some_iff (x := some (name, node))).trans ?_
        constructor
        · rintro ⟨_, ⟨⟩, h⟩
          obtain ⟨rest, hrest, ⟨⟩⟩ := Option.bind_eq_some_iff.1 h
          rw [ih.1 hrest]
          rfl
        · intro h
          obtain ⟨⟨_, _⟩, rest, rfl, heq, hrest⟩ :=
            List.map_eq_cons_iff.1 h.symm
          cases heq
          exact ⟨_, rfl, Option.bind_eq_some_iff.2 ⟨rest, ih.2 hrest.symm, rfl⟩⟩
  rw [← hmapM]
  unfold membersNode
  split
  · next found heq =>
    rw [show said.mapM (fun member => member.1.map (·, member.2)) = some found
      from heq, Node.mapping.injEq, Option.some.injEq]
  · next heq =>
    rw [show said.mapM (fun member => member.1.map (·, member.2)) = none
      from heq]
    exact iff_of_false nofun nofun

/-- **A mapping is read from an object only.** An object whose names are not all
texts has no mapping, and is not meant here. -/
theorem exists_object_of_read? {input : List Utf8.Cell}
    {members : List (String × Node)} (h : read? input = some (.mapping members)) :
    ∃ object : WrittenObject, object.IsWritten ∧ input = object.cells ∧
      object.said = members.map fun member => (some member.1, member.2) := by
  obtain @⟨before, text, after, hbefore, htext, hafter⟩ := read?_eq_some_iff.1 h
  generalize hnode : Node.mapping members = node at htext
  generalize hroom : greatestDepth = room at htext
  have hpos : 0 < room := hroom ▸ by decide
  cases htext with
  | numeral =>
    unfold numeralNode at hnode
    split at hnode <;> cases hnode
  | string =>
    unfold stringNode at hnode
    split at hnode <;> cases hnode
  | sequence =>
    rw [within_of_pos hpos] at hnode
    cases hnode
  | @mapping _ gap written blank padded spelled =>
    subst hroom
    rw [within_of_pos hpos] at hnode
    refine ⟨⟨before, gap, written, after⟩, ⟨hbefore, blank,
      fun member hmember => ⟨padded member hmember, spelled member hmember⟩,
      hafter⟩, rfl, membersNode_eq_mapping_iff.1 hnode.symm⟩
  | _ => cases hnode

end PolicyGateway.Json
