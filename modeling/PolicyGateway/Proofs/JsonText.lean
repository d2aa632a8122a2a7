import PolicyGateway.Json.Printer
import PolicyGateway.Proofs.JsonGrammar
import PolicyGateway.Proofs.Utf8Reading

/-!
# Reading what was written as JSON

A value is written as text, and the text spells a document. Read back it is
the value again, part for part; `Value.node` says which document that is.

Two kinds of values are not read as they are written, and `Value.fits` leaves
them out. The text of a number with a fraction need not be read to its last
bit, and what is nested deeper than a reader follows has no value. All
integers within their bounds are read, and all texts: a control character is
written as an escape and is read from it, the escape is short where there is
one, and every other character stands for itself.

What is written keeps to the grammar, and is written in one of its ways: without a
blank, and with the escapes that have to be. So it spells the document of the value
(`Value.spells_write`), and the reader reads what is spelled.

`readText?_toText` is what comes of it. Where a text is read for its value and
not for its document, the members of an object come back in the order of their
names (`Value.ofBytes?_toText`), and each of them as it was
(`Value.member?_inOrder`).

**Why reading back matters here.** The gateway writes settings and callers that
it reads again later, and it writes questions and errors that others read. If a
text came back as something else, what was agreed on by one side would not be
what the other one goes by. Writer and reader share no code; the grammar is what
they have in common.
-/

namespace PolicyGateway.Json

open PolicyGateway.Record
open PolicyGateway.Text (Utf8.Cell)

/-! ## Strings

A character is written in one way and may be read in many. So it is enough to
say which part it is written as, and that this part says the character. A pair
of surrogates never comes up, since only control characters are escaped by their
code. -/

/-- **The part of a string that a character is written as.** A control character
without a short escape is the unit of its code, and any other character is the
part that says it. -/
def markOf (c : Char) : Mark :=
  if c.toNat < 0x20 ∧ c.toNat ∉ [8, 9, 10, 12, 13] then .unit c.toNat
  else .plain c

/-- The digits of a control character spell its code. -/
theorem hexUnit?_hexPair : ∀ n < 0x20, ∀ a b, hexPair n = [a, b] →
    hexUnit? '0' '0' a b = some n := by
  have h : ∀ n < 0x20, hexUnit? '0' '0' (Nat.digitChar (n / 16))
      (Nat.digitChar (n % 16)) = some n := by decide
  intro n hn a b hab
  cases hab
  exact h n hn

theorem eq_ofNat_of_toNat {c : Char} {n : Nat} (h : c.toNat = n) :
    c = Char.ofNat n := by
  rw [← h, Char.ofNat_toNat]

/-- **A character is written as its part.** -/
theorem spellsMark_escape (c : Char) :
    SpellsMark (markOf c) ((escape c).map some) := by
  unfold escape
  split
  · next h => subst h; exact .escape rfl
  split
  · next h => subst h; exact .escape rfl
  split
  · next h => rw [eq_ofNat_of_toNat h]; exact .escape rfl
  split
  · next h => rw [eq_ofNat_of_toNat h]; exact .escape rfl
  split
  · next h => rw [eq_ofNat_of_toNat h]; exact .escape rfl
  split
  · next h => rw [eq_ofNat_of_toNat h]; exact .escape rfl
  split
  · next h => rw [eq_ofNat_of_toNat h]; exact .escape rfl
  split
  · next hquote hslash h8 h9 h10 h12 h13 hcontrol =>
    -- a control character without a short escape
    have hmark : markOf c = .unit c.toNat :=
      if_pos ⟨hcontrol, by simp [h8, h9, h10, h12, h13]⟩
    rw [hmark]
    exact .unit (hexUnit?_hexPair c.toNat hcontrol _ _ rfl)
  · next hquote hslash h8 h9 h10 h12 h13 hcontrol =>
    have hmark : markOf c = .plain c := if_neg (by simp [hcontrol])
    rw [hmark]
    exact .plain (Nat.not_lt.1 hcontrol) hquote hslash

/-- The parts of a string are written in their order. -/
theorem spellsMarks_flatMap (s : List Char) :
    SpellsMarks (s.map markOf) ((s.flatMap escape).map some) := by
  induction s with
  | nil => exact .nil
  | cons c s ih =>
    rw [List.flatMap_cons, List.map_append]
    exact .cons (spellsMark_escape c) ih

/-- One part says its character. -/
theorem markedText?_markOf (found : List Char) (c : Char)
    (rest : List Mark) :
    markedText? found (markOf c :: rest) = markedText? (c :: found) rest := by
  unfold markOf
  split
  · next h =>
    have hhigh : isHighHalf c.toNat = false := by
      simp only [isHighHalf, Bool.and_eq_false_imp, decide_eq_true_eq,
        decide_eq_false_iff_not]
      omega
    have hlow : isLowHalf c.toNat = false := by
      simp only [isLowHalf, Bool.and_eq_false_imp, decide_eq_true_eq,
        decide_eq_false_iff_not]
      omega
    have hself : Char.ofNat c.toNat = c := Char.ofNat_toNat c
    -- whether another unit follows decides which case of the reader it is
    rcases rest with - | ⟨_ | _ | _, rest⟩ <;>
      simp [markedText?, hhigh, hlow, hself]
  · rfl

/-- **A string is read as it is written.** -/
theorem markedString?_markOf (s : String) :
    markedString? (s.toList.map markOf) = some s := by
  have hfrom : ∀ (s found : List Char),
      markedText? found (s.map markOf) = some (found.reverse ++ s) := by
    intro s
    induction s with
    | nil => exact fun found => congrArg some (List.append_nil _).symm
    | cons c s ih =>
      intro found
      rw [List.map_cons, markedText?_markOf, ih, List.reverse_cons,
        List.append_assoc]
      rfl
  unfold markedString?
  rw [hfrom, Option.map_some]
  exact congrArg some (String.ofList_toList)

/-! ## Integers

An integer is written in decimal digits without a point, and such a numeral has
a value as long as it is within the bounds of a signed or an unsigned word. The
digits are gathered from the front, and it has to be ruled out that a word
overflows on the way. -/

/-- The values of the digits of a number. -/
def digitsOf (n : Nat) : List Nat :=
  (Text.digits n).map fun c => c.toNat - '0'.toNat

theorem digit?_of_isDigit {c : Char} (h : Text.isDigit c = true) :
    digit? (some c) = some (c.toNat - '0'.toNat) := by
  unfold Text.isDigit at h
  unfold digit?
  exact if_pos (by simpa using h)

/-- **The digits of a number are written.** -/
theorem spellsDigits_digits (n : Nat) :
    SpellsDigits (digitsOf n) ((Text.digits n).map some) := by
  unfold SpellsDigits digitsOf
  rw [List.map_map, List.map_map]
  exact List.map_congr_left fun c hc =>
    digit?_of_isDigit (Text.isDigit_of_mem_digits (n := n) hc)

/-- No number but zero starts with a zero. -/
theorem head?_digits {n : Nat} (h : n ≠ 0) :
    (Text.digits n).head? ≠ some '0' := by
  induction n using Nat.strongRecOn with
  | _ n ih =>
    unfold Text.digits
    rw [Nat.toDigits_eq_if (by decide)]
    split
    · next hlt =>
      have hall : ∀ n < 10, n ≠ 0 → Nat.digitChar n ≠ '0' := by decide
      simpa using hall n hlt h
    · next hge =>
      have hfront := ih (n / 10) (by omega) (by omega)
      unfold Text.digits at hfront
      rw [List.head?_append]
      cases hdigits : Nat.toDigits 10 (n / 10) with
      | nil => exact absurd hdigits Nat.toDigits_ne_nil
      | cons c cs =>
        rw [hdigits] at hfront
        exact hfront

/-- **The digits of a number** are some, and start with a zero only if it is the
only one. -/
theorem digitsOf_ne (n : Nat) :
    digitsOf n ≠ [] ∧ ∀ d more, digitsOf n ≠ 0 :: d :: more := by
  by_cases hzero : n = 0
  · subst hzero
    exact ⟨by decide, nofun⟩
  · have hhead := head?_digits hzero
    have hdigits : ∀ c ∈ Text.digits n, Text.isDigit c = true :=
      fun _ => Text.isDigit_of_mem_digits
    unfold digitsOf
    cases hcs : Text.digits n with
    | nil => exact absurd hcs Nat.toDigits_ne_nil
    | cons c cs =>
      rw [hcs] at hhead hdigits
      have hc := hdigits c List.mem_cons_self
      refine ⟨List.cons_ne_nil _ _, fun d more heq => ?_⟩
      have hzero : c.toNat - '0'.toNat = 0 := (List.cons.inj heq).1
      unfold Text.isDigit at hc
      simp only [Bool.and_eq_true, decide_eq_true_eq, Char.le_def] at hc
      have hle : '0'.toNat ≤ c.toNat := hc.1
      exact hhead (congrArg some (Char.toNat_inj.1 (by omega)))

/-- Digits that a word holds are all gathered. -/
theorem gather_eq {s : Nat} {digits : List Nat}
    (h : digits.foldl (fun n d => 10 * n + d) s < UInt64.size) :
    Numeral.gather s digits
      = (digits.foldl (fun n d => 10 * n + d) s, []) := by
  -- more digits never make a number smaller, so the front of one that fits fits
  -- as well
  have hle : ∀ (digits : List Nat) (s : Nat),
      s ≤ digits.foldl (fun n d => 10 * n + d) s := by
    intro digits
    induction digits with
    | nil => exact fun s => Nat.le_refl s
    | cons d rest ih =>
      intro s
      exact Nat.le_trans (show s ≤ 10 * s + d by omega) (ih (10 * s + d))
  induction digits generalizing s with
  | nil => rfl
  | cons d rest ih =>
    unfold Numeral.gather
    rw [if_pos (Nat.lt_of_le_of_lt (hle rest _) h)]
    exact ih h

theorem gather_digitsOf {n : Nat} (h : n < UInt64.size) :
    Numeral.gather 0 (digitsOf n) = (n, []) := by
  have hvalue : (digitsOf n).foldl (fun n d => 10 * n + d) 0 = n := by
    unfold digitsOf
    rw [List.foldl_map]
    exact Nat.ofDigitChars_toDigits (by decide) (by decide)
  rw [gather_eq (by rwa [hvalue]), hvalue]

/-- The numeral of an integer. -/
def numeralOf (n : Int) : Numeral :=
  { negative := decide (n < 0), whole := digitsOf n.natAbs,
    fraction := none, exponent := none }

/-- **An integer is written as its numeral.** -/
theorem spellsNumeral_integerText (n : Int) :
    SpellsNumeral (numeralOf n) ((Number.integerText n).map some) := by
  have hcells : (Number.integerText n).map some
      = minusCells (numeralOf n).negative
        ++ ((Text.digits n.natAbs).map some ++ ([] ++ [])) := by
    unfold Number.integerText numeralOf minusCells
    by_cases hneg : n < 0 <;> simp [hneg, Text.digits]
  obtain ⟨hne, hzero⟩ := digitsOf_ne n.natAbs
  rw [hcells]
  exact .parts hne hzero (spellsDigits_digits _) .absent .absent

/-- **A numeral of an integer has its value.** -/
theorem value?_numeralOf {n : Int} (hleast : Number.leastInteger ≤ n)
    (hgreatest : n ≤ Number.greatestInteger) :
    (numeralOf n).value? = some (.integer n) := by
  have hsize : n.natAbs < UInt64.size := by
    unfold Number.leastInteger at hleast
    unfold Number.greatestInteger at hgreatest
    have : (UInt64.size : Int) = 18446744073709551616 := rfl
    omega
  unfold Numeral.value? numeralOf
  dsimp only
  rw [gather_digitsOf hsize]
  dsimp only
  by_cases hneg : n < 0
  · have habs : -(n.natAbs : Int) = n := by omega
    rw [if_pos (by simpa using hneg), if_pos ⟨by omega, by omega⟩, habs]
  · have habs : (n.natAbs : Int) = n := by omega
    rw [if_neg (by simpa using hneg), habs]

/-! ## Values

What is written is described twice, as a document that does not know about
blanks or escapes, and as a text. A proof about a record uses the document. -/

namespace Value

mutual

/-- **The document that a value is written as.** It says the same as the text,
without saying how the text is written. -/
def node : Value → Node
  | null => .null
  | boolean b => .boolean b
  | number n => .number n
  | text s => .text s
  | array items => .sequence (nodes items)
  | object members => .mapping (memberNodes members)

/-- The documents of the items. -/
def nodes : List Value → List Node
  | [] => []
  | item :: rest => item.node :: nodes rest

/-- The documents of the members, under their names. -/
def memberNodes : List (String × Value) → List (String × Node)
  | [] => []
  | (name, item) :: rest => (name, item.node) :: memberNodes rest

end

mutual

/-- **Whether a value is read as it is written**, with room for so many levels
of nesting: its numbers are integers within their bounds, and it is not nested
too deep. It can be evaluated, so that a fixed value is seen to be read back. -/
def fits : Nat → Value → Bool
  | _, null => true
  | _, boolean _ => true
  | _, number (.integer n) =>
    Number.leastInteger ≤ n && n ≤ Number.greatestInteger
  | _, number (.real _) => false
  | _, text _ => true
  | room, array items => 0 < room && allFit (room - 1) items
  | room, object members => 0 < room && membersFit (room - 1) members

/-- Whether all items are. -/
def allFit : Nat → List Value → Bool
  | _, [] => true
  | room, item :: rest => item.fits room && allFit room rest

/-- Whether all members are. -/
def membersFit : Nat → List (String × Value) → Bool
  | _, [] => true
  | room, (_, item) :: rest => item.fits room && membersFit room rest

end

theorem memberNodes_eq_map (members : List (String × Value)) :
    memberNodes members
      = members.map fun member => (member.1, member.2.node) := by
  induction members with
  | nil => rfl
  | cons member rest ih =>
    unfold memberNodes
    rw [ih, List.map_cons]

variable {room : Nat}

@[simp] theorem fits_null : null.fits room = true := rfl

@[simp] theorem fits_boolean (b : Bool) : (boolean b).fits room = true := rfl

@[simp] theorem fits_text (s : String) : (text s).fits room = true := rfl

/-- Items fit if each of them does. -/
theorem fits_array {items : List Value}
    (h : ∀ item ∈ items, item.fits room = true) :
    (array items).fits (room + 1) = true := by
  have hall : allFit room items = true := by
    induction items with
    | nil => rfl
    | cons item rest ih =>
      rw [allFit, h item List.mem_cons_self,
        ih fun item hitem => h item (List.mem_cons_of_mem _ hitem)]
      rfl
  simpa [fits] using hall

/-- Members fit if each of them does. -/
theorem fits_object {members : List (String × Value)}
    (h : ∀ member ∈ members, member.2.fits room = true) :
    (object members).fits (room + 1) = true := by
  have hall : membersFit room members = true := by
    induction members with
    | nil => rfl
    | cons member rest ih =>
      rw [membersFit, h member List.mem_cons_self,
        ih fun member hmember => h member (List.mem_cons_of_mem _ hmember)]
      rfl
  simpa [fits] using hall

/-- A word fits. -/
theorem fits_natural {n : Nat} (h : n < UInt64.size) :
    (natural n).fits room = true := by
  have hleast : Number.leastInteger ≤ n := by
    unfold Number.leastInteger
    omega
  have hgreatest : (n : Int) ≤ Number.greatestInteger := by
    unfold Number.greatestInteger
    have : (UInt64.size : Int) = 18446744073709551616 := rfl
    have : UInt64.size = 18446744073709551616 := rfl
    omega
  simpa [natural, fits] using And.intro hleast hgreatest

end Value

theorem numeralNode_numeralOf {n : Int}
    (hleast : Number.leastInteger ≤ n)
    (hgreatest : n ≤ Number.greatestInteger) :
    numeralNode (numeralOf n) = .number (.integer n) := by
  unfold numeralNode
  rw [value?_numeralOf hleast hgreatest]

/-! ### Whole values

A value without blanks is a `Written` like any other, so the rules of the
grammar apply to it as they stand. The recursion is that of the writer, over a
value, its items and its members at once. -/

namespace Value

/-- A value as it is written: without blanks. -/
def written (v : Value) : Written :=
  ⟨[], v.node, v.write.map some, []⟩

/-- A member as it is written: without blanks. -/
def writtenMember (member : String × Value) : WrittenMember :=
  ⟨[], member.1.toList.map markOf, (member.1.toList.flatMap escape).map some, [],
    member.2.written⟩

theorem isPadded_written (v : Value) : v.written.IsPadded :=
  ⟨areGaps_nil, areGaps_nil⟩

theorem isPadded_writtenMember (member : String × Value) :
    (writtenMember member).IsPadded :=
  ⟨areGaps_nil, spellsMarks_flatMap _, areGaps_nil, isPadded_written _⟩

theorem cells_written (v : Value) : v.written.cells = v.write.map some :=
  List.append_nil _

theorem cells_writtenMember (name : String) (v : Value) :
    (writtenMember (name, v)).cells = (quote name ++ ':' :: v.write).map some := by
  unfold WrittenMember.cells writtenMember quote
  simp [cells_written]

/-- Items are listed. -/
theorem map_writeItems (items : List Value) :
    (writeItems items).map some
      = listed [] ((items.map written).map Written.cells) := by
  induction items with
  | nil => rfl
  | cons item items ih =>
    cases items with
    | nil => exact (cells_written item).symm.trans List.intercalate_singleton.symm
    | cons next items =>
      have hwrite : writeItems (item :: next :: items)
          = item.write ++ ',' :: writeItems (next :: items) := rfl
      rw [hwrite, List.map_append, List.map_cons, ih, ← cells_written]
      exact (intercalate_cons_of_ne_nil (List.cons_ne_nil _ _) _ _).symm

/-- Members are listed. -/
theorem map_writeMembers (members : List (String × Value)) :
    (writeMembers members).map some
      = listed [] ((members.map writtenMember).map WrittenMember.cells) := by
  induction members with
  | nil => rfl
  | cons member members ih =>
    obtain ⟨name, item⟩ := member
    cases members with
    | nil =>
      exact (cells_writtenMember name item).symm.trans
        List.intercalate_singleton.symm
    | cons next members =>
      have hwrite : writeMembers ((name, item) :: next :: members)
          = (quote name ++ ':' :: item.write)
            ++ ',' :: writeMembers (next :: members) := rfl
      rw [hwrite, List.map_append, List.map_cons, ih, ← cells_writtenMember]
      exact (intercalate_cons_of_ne_nil (List.cons_ne_nil _ _) _ _).symm

theorem nodes_eq_map (items : List Value) :
    nodes items = (items.map written).map Written.node := by
  induction items with
  | nil => rfl
  | cons item rest ih =>
    unfold nodes
    rw [ih]
    rfl

/-- The members have the names that are written. -/
theorem membersNode_written (members : List (String × Value)) :
    membersNode ((members.map writtenMember).map WrittenMember.said)
      = .mapping (memberNodes members) := by
  rw [membersNode_eq_mapping_iff, memberNodes_eq_map, List.map_map, List.map_map]
  refine List.map_congr_left fun member _ => ?_
  exact congrArg (·, member.2.node) (markedString?_markOf member.1)

mutual

/-- **What is written spells the document of the value.** -/
theorem spells_write (v : Value) {room : Nat} (hfits : v.fits room = true) :
    Spells room v.node (v.write.map some) := by
  cases v with
  | null => exact .null
  | boolean b =>
    cases b with
    | true => exact .yes
    | false => exact .no
  | number n =>
    cases n with
    | real x => cases hfits
    | integer n =>
      have hbounds : Number.leastInteger ≤ n ∧ n ≤ Number.greatestInteger := by
        simpa [fits] using hfits
      have hspelled : Spells room (numeralNode (numeralOf n))
          ((Number.integerText n).map some) :=
        .numeral (spellsNumeral_integerText n)
      -- within its bounds the numeral says the integer
      rwa [numeralNode_numeralOf hbounds.1 hbounds.2] at hspelled
  | text s =>
    have hspelled : Spells room (stringNode (s.toList.map markOf))
        (some '"' :: ((s.toList.flatMap escape).map some ++ [some '"'])) :=
      .string (spellsMarks_flatMap _)
    -- every string that is written is text again
    unfold stringNode at hspelled
    rw [markedString?_markOf] at hspelled
    simpa [write, node, quote] using hspelled
  | array items =>
    have hroom : 0 < room ∧ allFit (room - 1) items = true := by
      simpa [fits] using hfits
    have hspelled : Spells room
        (within room (.sequence ((items.map written).map Written.node)))
        (some '[' :: (listed [] ((items.map written).map Written.cells)
          ++ [some ']'])) :=
      .sequence areGaps_nil
        (List.forall_mem_map.2 fun item _ => isPadded_written item)
        (List.forall_mem_map.2 (spells_items items hroom.2))
    rw [within_of_pos hroom.1, ← nodes_eq_map, ← map_writeItems] at hspelled
    simpa [write, node] using hspelled
  | object members =>
    have hroom : 0 < room ∧ membersFit (room - 1) members = true := by
      simpa [fits] using hfits
    have hspelled : Spells room
        (within room (membersNode
          ((members.map writtenMember).map WrittenMember.said)))
        (some '\x7b' :: (listed []
          ((members.map writtenMember).map WrittenMember.cells)
            ++ [some '\x7d'])) :=
      .mapping areGaps_nil
        (List.forall_mem_map.2 fun member _ => isPadded_writtenMember member)
        (List.forall_mem_map.2 (spells_members members hroom.2))
    rw [within_of_pos hroom.1, membersNode_written, ← map_writeMembers] at hspelled
    simpa [write, node] using hspelled

theorem spells_items (items : List Value) {room : Nat}
    (hfits : allFit room items = true) :
    ∀ item ∈ items, Spells room item.node (item.write.map some) := by
  cases items with
  | nil => nofun
  | cons item items =>
    obtain ⟨hitem, hitems⟩ := Bool.and_eq_true_iff.1 hfits
    exact List.forall_mem_cons.2
      ⟨spells_write item hitem, spells_items items hitems⟩

theorem spells_members (members : List (String × Value)) {room : Nat}
    (hfits : membersFit room members = true) :
    ∀ member ∈ members, Spells room member.2.node (member.2.write.map some) := by
  match members with
  | [] => nofun
  | (name, item) :: members =>
    obtain ⟨hitem, hmembers⟩ := Bool.and_eq_true_iff.1 hfits
    exact List.forall_mem_cons.2
      ⟨spells_write item hitem, spells_members members hmembers⟩

end

end Value

/-- **A text is read as it was written.** Nothing is said of a value that does
not fit: it may or may not come back. -/
theorem readText?_toText {v : Value} (h : v.fits greatestDepth = true) :
    readText? v.toText = some v.node := by
  have hdocument : IsDocument v.node ([] ++ (v.write.map some ++ [])) :=
    .padded areGaps_nil (Value.spells_write v h) areGaps_nil
  rw [List.nil_append, List.append_nil] at hdocument
  unfold readText? Value.toText
  rw [String.toList_ofList]
  exact read?_eq_some_iff.2 hdocument

/-! ## What a written value says

Read as a value and not as a document, a text keeps no order among the members
of an object. So what comes back is the value with its members in their order,
and under each name the member is what it was. -/

/-- The bytes of a text are read as the text. -/
theorem readBytes?_bytes (s : String) :
    readBytes? (Text.Utf8.bytes s) = readText? s := by
  unfold readBytes? readText? Text.Utf8.bytes
  rw [Text.Utf8.cells_encode]

namespace Value

mutual

/-- **A value with its members in order**, those of its parts as well. Where a
name is given twice the last member of it stays. -/
def inOrder : Value → Value
  | array items => array (itemsInOrder items)
  | object members => object (sortMembers (membersInOrder members))
  | v => v

/-- The items, each with its members in order. -/
def itemsInOrder : List Value → List Value
  | [] => []
  | item :: rest => item.inOrder :: itemsInOrder rest

/-- The members, each with its own members in order. -/
def membersInOrder : List (String × Value) → List (String × Value)
  | [] => []
  | (name, item) :: rest => (name, item.inOrder) :: membersInOrder rest

end

mutual

/-- **The document of a value has its value.** -/
theorem ofNode?_node (v : Value) : ofNode? v.node = some v.inOrder := by
  cases v with
  | array items => simp [node, ofNode?, inOrder, ofNodes?_nodes items]
  | object members =>
    simp [node, ofNode?, inOrder, ofMembers?_memberNodes members]
  | _ => rfl

theorem ofNodes?_nodes (items : List Value) :
    ofNodes? (nodes items) = some (itemsInOrder items) := by
  cases items with
  | nil => rfl
  | cons item rest =>
    simp [nodes, ofNodes?, itemsInOrder, ofNode?_node item,
      ofNodes?_nodes rest]

theorem ofMembers?_memberNodes (members : List (String × Value)) :
    ofMembers? (memberNodes members) = some (membersInOrder members) := by
  match members with
  | [] => rfl
  | (name, item) :: rest =>
    simp [memberNodes, ofMembers?, membersInOrder, ofNode?_node item,
      ofMembers?_memberNodes rest]

end

/-- **The bytes of a written value have its value.** -/
theorem ofBytes?_toText {v : Value} (h : v.fits greatestDepth = true) :
    ofBytes? (Text.Utf8.bytes v.toText) = some v.inOrder := by
  unfold ofBytes?
  rw [readBytes?_bytes, readText?_toText h, Option.bind_some, ofNode?_node]

theorem itemsInOrder_eq_map (items : List Value) :
    itemsInOrder items = items.map inOrder := by
  induction items with
  | nil => rfl
  | cons item rest ih => simp [itemsInOrder, ih]

theorem membersInOrder_eq_map (members : List (String × Value)) :
    membersInOrder members
      = members.map fun member => (member.1, member.2.inOrder) := by
  induction members with
  | nil => rfl
  | cons member rest ih => simp [membersInOrder, ih]

/-- The first member of a name is found under it. -/
theorem lookup_cons_eq {α : Type} (name : String) (member : String × α)
    (rest : List (String × α)) :
    (member :: rest).lookup name
      = if name = member.1 then some member.2 else rest.lookup name := by
  rw [List.lookup_cons]
  by_cases h : name = member.1
  · rw [if_pos h, beq_iff_eq.2 h]
  · rw [if_neg h, beq_eq_false_iff_ne.2 h]

/-- A member that is filed is found under its name, and every other one as
before. Members are filed one by one, a later one in place of an earlier one of
its name. -/
theorem lookup_insertMember (name other : String) (v : Value)
    (members : List (String × Value)) :
    (insertMember other v members).lookup name
      = if name = other then some v else members.lookup name := by
  induction members with
  | nil => exact lookup_cons_eq name (other, v) []
  | cons member rest ih =>
    obtain ⟨first, kept⟩ := member
    unfold insertMember
    split
    · next hsame =>
      rw [lookup_cons_eq, lookup_cons_eq, ← hsame]
      by_cases hname : name = other <;> simp [hname]
    split
    · exact lookup_cons_eq name (other, v) _
    · next hne _ =>
      rw [lookup_cons_eq, lookup_cons_eq, ih]
      by_cases hname : name = first
      · simp [hname, Ne.symm hne]
      · simp [hname]

/-- **Under a name the last member counts.** -/
theorem lookup_sortMembers (name : String) (members : List (String × Value)) :
    (sortMembers members).lookup name = members.reverse.lookup name := by
  unfold sortMembers
  rw [← List.foldr_reverse]
  induction members.reverse with
  | nil => rfl
  | cons member rest ih => simp [lookup_insertMember, lookup_cons_eq, ih]

/-- **What an object says under a name** is what its last member of this name
says. -/
theorem member?_inOrder (name : String) (members : List (String × Value)) :
    (object members).inOrder.member? name
      = (members.reverse.lookup name).map inOrder := by
  show (sortMembers (membersInOrder members)).lookup name = _
  rw [lookup_sortMembers, membersInOrder_eq_map, ← List.map_reverse]
  induction members.reverse with
  | nil => rfl
  | cons member rest ih =>
    rw [List.map_cons, lookup_cons_eq, lookup_cons_eq, ih]
    split <;> rfl

/-- The text that an object says under a name. -/
def textMember? (name : String) (v : Value) : Option String :=
  match v.member? name with
  | some (text s) => some s
  | _ => none

end Value

end PolicyGateway.Json
