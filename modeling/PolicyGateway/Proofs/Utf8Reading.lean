import PolicyGateway.Text.Utf8

/-!
# Reading UTF-8 byte by byte

Bytes are read one after the other, and what one of them does depends on the
sequence that may have begun in front of it (`step`). Two things follow.

A byte of ASCII begins anew whatever stands around it, so text is read apart
from it (`decodeLossy_append_cons`). And the bytes that a character is written
with are read as that character and nothing else, so the bytes of a text are
the text (`string?_bytes`).

**Why byte by byte.** A body may have bytes that are no text, and it is read all
the same, with a gap where they are. So reading cannot fail, and it cannot be
undone character by character either. What can be said is what one byte does.
From this it follows how a text is read that is put together of parts.
-/

namespace PolicyGateway.Text.Utf8

/-! ## One byte

The reader either has begun a sequence or has not. A byte goes on with it, or
breaks it off, which leaves a gap, and begins anew. -/

/-- The cells that a first byte completes, the latest in front, and the
sequence that it begins. -/
def First.effect : First → List Cell × Option Begun
  | .single c => ([some c], none)
  | .begins sequence => ([], some sequence)
  | .stray => ([none], none)

/-- What a byte does that a sequence goes on with. -/
def Begun.next (sequence : Begun) (b : UInt8) : List Cell × Option Begun :=
  let value := sequence.value * 0x40 + b.toNat % 0x40
  match sequence.more with
  | 0 => ([some (Char.ofNat value)], none)
  | more + 1 => ([], some ⟨value, more, 0x80, 0xbf⟩)

/-- **What one byte does** behind a sequence that may have begun: the cells that
it completes, the latest in front, and the sequence that has begun behind it.
What was found before does not matter for it. -/
def step : Option Begun → UInt8 → List Cell × Option Begun
  | none, b => (first b).effect
  | some sequence, b =>
    if sequence.least ≤ b ∧ b ≤ sequence.greatest then sequence.next b
    else ((first b).effect.1 ++ [none], (first b).effect.2)

theorem step_none (b : UInt8) : step none b = (first b).effect := rfl

theorem step_next {sequence : Begun} {b : UInt8}
    (h : sequence.least ≤ b ∧ b ≤ sequence.greatest) :
    step (some sequence) b = sequence.next b :=
  if_pos h

theorem step_gap {sequence : Begun} {b : UInt8}
    (h : ¬ (sequence.least ≤ b ∧ b ≤ sequence.greatest)) :
    step (some sequence) b
      = ((first b).effect.1 ++ [none], (first b).effect.2) :=
  if_neg h

/-- **Bytes are read one by one.** -/
theorem cellsFrom_cons (found : List Cell) (begun : Option Begun) (b : UInt8)
    (rest : List UInt8) :
    cellsFrom found begun (b :: rest)
      = cellsFrom ((step begun b).1 ++ found) (step begun b).2 rest := by
  cases begun with
  | none =>
    rw [cellsFrom, step_none]
    cases first b <;> rfl
  | some sequence =>
    rw [cellsFrom]
    by_cases hnext : sequence.least ≤ b ∧ b ≤ sequence.greatest
    · rw [if_pos hnext, step_next hnext]
      unfold Begun.next
      dsimp only
      cases sequence.more <;> rfl
    · rw [if_neg hnext, step_gap hnext]
      cases first b <;> rfl

/-- What was found before stays in front. -/
theorem cellsFrom_found (found : List Cell) (begun : Option Begun)
    (bs : List UInt8) :
    cellsFrom found begun bs = found.reverse ++ cellsFrom [] begun bs := by
  induction bs generalizing found begun with
  | nil =>
    cases begun with
    | none => exact (List.append_nil _).symm
    | some sequence => exact List.reverse_cons
  | cons b rest ih =>
    rw [cellsFrom_cons, ih, cellsFrom_cons [], ih (_ ++ []), List.append_nil,
      List.reverse_append, List.append_assoc]

/-- What a byte completes stands in front of what the bytes behind it say. -/
theorem cellsFrom_nil_cons (begun : Option Begun) (b : UInt8)
    (rest : List UInt8) :
    cellsFrom [] begun (b :: rest)
      = (step begun b).1.reverse ++ cellsFrom [] (step begun b).2 rest := by
  rw [cellsFrom_cons, List.append_nil, cellsFrom_found]

/-! ## Text around a character of ASCII

A sequence goes on only with bytes beyond ASCII. So no byte of ASCII is ever a
part of one, and it parts the bytes around it in the same way as the text. -/

/-- Whether a sequence that has begun goes on only beyond ASCII. If none has
begun there is nothing to ask. -/
def GoesBeyond (begun : Option Begun) : Prop :=
  ∀ sequence, begun = some sequence → 0x80 ≤ sequence.least

theorem goesBeyond_none : GoesBeyond none :=
  fun _ h => by cases h

theorem goesBeyond_effect (b : UInt8) : GoesBeyond (first b).effect.2 := by
  intro sequence h
  cases hfirst : first b with
  | begins found =>
    rw [hfirst] at h
    cases h
    unfold first at hfirst
    dsimp only at hfirst
    -- one case for each range of first bytes
    repeat' split at hfirst
    all_goals first
      | cases hfirst; dsimp only; decide
      | cases hfirst
  | _ =>
    rw [hfirst] at h
    cases h

/-- **No byte begins a sequence that goes on in ASCII.** -/
theorem goesBeyond_step (begun : Option Begun) (b : UInt8) :
    GoesBeyond (step begun b).2 := by
  cases begun with
  | none => exact goesBeyond_effect b
  | some sequence =>
    by_cases hnext : sequence.least ≤ b ∧ b ≤ sequence.greatest
    · rw [step_next hnext]
      unfold Begun.next
      dsimp only
      cases sequence.more with
      | zero => exact goesBeyond_none
      | succ more =>
        -- from the second byte on every continuation is beyond ASCII
        rintro _ ⟨⟩
        exact UInt8.le_refl _
    · rw [step_gap hnext]
      exact goesBeyond_effect b

/-- **A byte of ASCII begins anew**: a sequence that has begun is a gap, and the
byte is a character. -/
theorem step_ascii {m : UInt8} (hm : m.toNat < 0x80) {begun : Option Begun}
    (h : GoesBeyond begun) :
    (step begun m).1.reverse
        = cellsFrom [] begun [] ++ [some (Char.ofNat m.toNat)] ∧
      (step begun m).2 = none := by
  have hfirst : first m = .single (Char.ofNat m.toNat) := if_pos hm
  cases begun with
  | none =>
    rw [step_none, hfirst]
    exact ⟨rfl, rfl⟩
  | some sequence =>
    have hstop : ¬ (sequence.least ≤ m ∧ m ≤ sequence.greatest) := by
      rintro ⟨hle, -⟩
      have hleast : (0x80 : UInt8).toNat ≤ m.toNat :=
        UInt8.le_iff_toNat_le.1 (UInt8.le_trans (h sequence rfl) hle)
      exact absurd hm (Nat.not_lt.2 hleast)
    rw [step_gap hstop, hfirst]
    exact ⟨rfl, rfl⟩

/-- **A byte of ASCII is a cell of its own**, whatever stands around it. -/
theorem cellsFrom_append_cons {m : UInt8} (hm : m.toNat < 0x80)
    (bs more : List UInt8) {begun : Option Begun} (h : GoesBeyond begun) :
    cellsFrom [] begun (bs ++ m :: more)
      = cellsFrom [] begun bs ++
          some (Char.ofNat m.toNat) :: cellsFrom [] none more := by
  induction bs generalizing begun with
  | nil =>
    obtain ⟨hcells, hbegun⟩ := step_ascii hm h
    rw [List.nil_append, cellsFrom_nil_cons, hcells, hbegun,
      List.append_assoc]
    rfl
  | cons b rest ih =>
    rw [List.cons_append, cellsFrom_nil_cons, cellsFrom_nil_cons,
      ih (goesBeyond_step begun b), List.append_assoc]

/-- **Text around a character of ASCII** is read apart from it. -/
theorem decodeLossy_append_cons {m : UInt8} (hm : m.toNat < 0x80)
    (bs more : List UInt8) :
    decodeLossy (bs ++ m :: more)
      = decodeLossy bs ++ Char.ofNat m.toNat :: decodeLossy more := by
  unfold decodeLossy cells
  rw [cellsFrom_append_cons hm bs more goesBeyond_none, List.map_append]
  rfl

/-! ## The bytes of a character

A character has up to four bytes, and each number of them has its own first
byte. The second byte is where care is needed: it must not spell what fewer
bytes could spell, nor a surrogate, nor more than the last code point. -/

theorem first_of_lt {n : Nat} (h : n < 0x80) :
    first (UInt8.ofNat n) = .single (Char.ofNat n) := by
  have hn : (UInt8.ofNat n).toNat = n :=
    UInt8.toNat_ofNat_of_lt' (Nat.lt_trans h (by decide))
  unfold first
  rw [hn]
  exact if_pos h

/-- The first of two bytes. -/
theorem first_of_two {a : Nat} (hlow : 2 ≤ a) (hhigh : a < 0x20) :
    first (UInt8.ofNat (a + 0xc0)) = .begins ⟨a, 0, 0x80, 0xbf⟩ := by
  have hn : (UInt8.ofNat (a + 0xc0)).toNat = a + 0xc0 :=
    UInt8.toNat_ofNat_of_lt' (show _ < 0x100 by omega)
  have hvalue : (a + 0xc0) % 0x20 = a := by omega
  unfold first
  rw [hn]
  dsimp only
  rw [if_neg (by omega), if_neg (by omega), if_pos (by omega), hvalue]

/-- **A sequence may go on** with a byte of these six bits. The bounds of the
sequence are for its next byte only. -/
def Begun.TakesBits (sequence : Begun) (b : Nat) : Prop :=
  sequence.least.toNat ≤ b + 0x80 ∧ b + 0x80 ≤ sequence.greatest.toNat

/-- The first of three bytes. The second one leaves out what two bytes can
spell, and surrogates. -/
theorem first_of_three {a b : Nat} (ha : a < 0x10) (hb : b < 0x40)
    (hlong : a = 0 → 0x20 ≤ b) (hhalf : a = 0xd → b < 0x20) :
    ∃ sequence, first (UInt8.ofNat (a + 0xe0)) = .begins sequence ∧
      sequence.value = a ∧ sequence.more = 1 ∧ sequence.TakesBits b := by
  unfold Begun.TakesBits
  -- the second byte has bounds of its own behind two of the first ones
  by_cases hzero : a = 0
  · subst hzero
    refine ⟨_, rfl, rfl, rfl, ?_, ?_⟩
    · exact Nat.add_le_add_right (hlong rfl) 0x80
    · exact Nat.add_le_add_right (Nat.le_of_lt_succ hb) 0x80
  by_cases hd : a = 0xd
  · subst hd
    refine ⟨_, rfl, rfl, rfl, ?_, ?_⟩
    · exact Nat.le_add_left _ _
    · exact Nat.add_le_add_right (Nat.le_of_lt_succ (hhalf rfl)) 0x80
  refine ⟨⟨a, 1, 0x80, 0xbf⟩, ?_, rfl, rfl, Nat.le_add_left _ _,
    Nat.add_le_add_right (Nat.le_of_lt_succ hb) 0x80⟩
  have hn : (UInt8.ofNat (a + 0xe0)).toNat = a + 0xe0 :=
    UInt8.toNat_ofNat_of_lt' (show _ < 0x100 by omega)
  have hvalue : (a + 0xe0) % 0x10 = a := by omega
  unfold first
  rw [hn]
  dsimp only
  rw [if_neg (by omega), if_neg (by omega), if_neg (by omega),
    if_neg (by omega), if_neg (by omega), if_pos (by omega), hvalue]

/-- The first of four bytes. The second one leaves out what three bytes can
spell, and values beyond the last code point. -/
theorem first_of_four {a b : Nat} (ha : a ≤ 4) (hb : b < 0x40)
    (hlong : a = 0 → 0x10 ≤ b) (hlast : a = 4 → b < 0x10) :
    ∃ sequence, first (UInt8.ofNat (a + 0xf0)) = .begins sequence ∧
      sequence.value = a ∧ sequence.more = 2 ∧ sequence.TakesBits b := by
  unfold Begun.TakesBits
  have hall : b + 0x80 ≤ (0xbf : UInt8).toNat :=
    Nat.add_le_add_right (Nat.le_of_lt_succ hb) 0x80
  obtain rfl | rfl | rfl | rfl | rfl :
      a = 0 ∨ a = 1 ∨ a = 2 ∨ a = 3 ∨ a = 4 := by omega
  · exact ⟨_, rfl, rfl, rfl, Nat.add_le_add_right (hlong rfl) 0x80, hall⟩
  · exact ⟨_, rfl, rfl, rfl, Nat.le_add_left _ _, hall⟩
  · exact ⟨_, rfl, rfl, rfl, Nat.le_add_left _ _, hall⟩
  · exact ⟨_, rfl, rfl, rfl, Nat.le_add_left _ _, hall⟩
  · exact ⟨_, rfl, rfl, rfl, Nat.le_add_left _ _,
      Nat.add_le_add_right (Nat.le_of_lt_succ (hlast rfl)) 0x80⟩

section Cells

variable (found : List Cell) (rest : List UInt8)

theorem cellsFrom_begins {byte : UInt8} {sequence : Begun}
    (h : first byte = .begins sequence) :
    cellsFrom found none (byte :: rest) = cellsFrom found (some sequence) rest := by
  rw [cellsFrom_cons, step_none, h]
  rfl

variable {sequence : Begun} {b : Nat}

/-- A byte of these bits goes on with a sequence that takes them. -/
theorem cellsFrom_takes (h : sequence.TakesBits b) (hb : b < 0x40) :
    cellsFrom found (some sequence) (UInt8.ofNat (b + 0x80) :: rest)
      = match sequence.more with
        | 0 =>
          cellsFrom (some (Char.ofNat (sequence.value * 0x40 + b)) :: found)
            none rest
        | more + 1 =>
          cellsFrom found (some ⟨sequence.value * 0x40 + b, more, 0x80, 0xbf⟩)
            rest := by
  have hn : (UInt8.ofNat (b + 0x80)).toNat = b + 0x80 :=
    UInt8.toNat_ofNat_of_lt' (show _ < 0x100 by omega)
  have hvalue : (b + 0x80) % 0x40 = b := by omega
  rw [cellsFrom_cons, step_next ⟨UInt8.le_iff_toNat_le.2 (by rw [hn]; exact h.1),
    UInt8.le_iff_toNat_le.2 (by rw [hn]; exact h.2)⟩]
  unfold Begun.next
  rw [hn, hvalue]
  dsimp only
  cases sequence.more <;> rfl

theorem takesBits_last (value more : Nat) (hb : b < 0x40) :
    Begun.TakesBits ⟨value, more, 0x80, 0xbf⟩ b :=
  ⟨Nat.le_add_left _ _, Nat.add_le_add_right (Nat.le_of_lt_succ hb) 0x80⟩

end Cells

/-- **The bytes of a character are read as the character.** -/
theorem cellsFrom_utf8EncodeChar (found : List Cell) (c : Char)
    (rest : List UInt8) :
    cellsFrom found none (String.utf8EncodeChar c ++ rest)
      = cellsFrom (some c :: found) none rest := by
  obtain ⟨n, hn⟩ : ∃ n, c.val.toNat = n := ⟨_, rfl⟩
  -- the bits of the bytes, put together again, are the code point
  have hself : ∀ m, m = n → Char.ofNat m = c := fun m hm => by
    rw [hm, ← hn]
    exact Char.ofNat_toNat c
  have hvalid : n < 0xd800 ∨ 0xdfff < n ∧ n < 0x110000 := hn ▸ c.valid
  -- by the number of bytes, as the character is written
  unfold String.utf8EncodeChar
  dsimp only
  rw [hn]
  split
  · next hone =>
    rw [List.singleton_append, cellsFrom_cons, step_none,
      first_of_lt (by omega), hself n rfl]
    rfl
  split
  · next htwo =>
    have hfirst := first_of_two (a := n / 64 % 32) (by omega) (by omega)
    have hlast := takesBits_last (n / 64 % 32) 0 (b := n % 64) (by omega)
    rw [List.cons_append, List.singleton_append,
      cellsFrom_begins _ _ hfirst, cellsFrom_takes _ _ hlast (by omega)]
    dsimp only
    rw [hself _ (by omega)]
  split
  · next hthree =>
    obtain ⟨sequence, hfirst, hvalue, hmore, htakes⟩ :=
      first_of_three (a := n / 4096 % 16) (b := n / 64 % 64) (by omega)
        (by omega) (by omega) (by omega)
    have hlast := takesBits_last (n / 4096 % 16 * 64 + n / 64 % 64) 0
      (b := n % 64) (by omega)
    rw [List.cons_append, List.cons_append, List.singleton_append,
      cellsFrom_begins _ _ hfirst, cellsFrom_takes _ _ htakes (by omega),
      hmore, hvalue]
    dsimp only
    rw [cellsFrom_takes _ _ hlast (by omega)]
    dsimp only
    rw [hself _ (by omega)]
  · next hthree =>
    obtain ⟨sequence, hfirst, hvalue, hmore, htakes⟩ :=
      first_of_four (a := n / 262144 % 8) (b := n / 4096 % 64) (by omega)
        (by omega) (by omega) (by omega)
    have hthird := takesBits_last (n / 262144 % 8 * 64 + n / 4096 % 64) 1
      (b := n / 64 % 64) (by omega)
    have hlast := takesBits_last
      ((n / 262144 % 8 * 64 + n / 4096 % 64) * 64 + n / 64 % 64) 0
      (b := n % 64) (by omega)
    rw [List.cons_append, List.cons_append, List.cons_append,
      List.singleton_append, cellsFrom_begins _ _ hfirst,
      cellsFrom_takes _ _ htakes (by omega), hmore, hvalue]
    dsimp only
    rw [cellsFrom_takes _ _ hthird (by omega)]
    dsimp only
    rw [cellsFrom_takes _ _ hlast (by omega)]
    dsimp only
    rw [hself _ (by omega)]

/-- The bytes of a text are read as its characters. -/
theorem cells_encode (cs : List Char) : cells (encode cs) = cs.map some := by
  have hfrom : ∀ (cs : List Char) (found : List Cell),
      cellsFrom found none (encode cs) = found.reverse ++ cs.map some := by
    intro cs
    induction cs with
    | nil => exact fun found => (List.append_nil _).symm
    | cons c rest ih =>
      intro found
      unfold encode
      rw [List.flatMap_cons, cellsFrom_utf8EncodeChar]
      refine (ih _).trans ?_
      rw [List.reverse_cons, List.append_assoc]
      rfl
  exact hfrom cs []

/-- **A string is read from its bytes.** -/
theorem string?_bytes (s : String) : string? (bytes s) = some s := by
  unfold string? decode? bytes
  rw [cells_encode]
  have hmap : (s.toList.map some).mapM id = some s.toList := by
    induction s.toList with
    | nil => rfl
    | cons c rest ih => simp [ih]
  rw [hmap, Option.map_some, String.ofList_toList]

end PolicyGateway.Text.Utf8
