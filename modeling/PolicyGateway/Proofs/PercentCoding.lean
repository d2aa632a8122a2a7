import PolicyGateway.Text.Percent

/-!
# What percent encoded text stands for

Two texts say the same if they stand for the same bytes once their percent
signs are resolved (`decoded`). Spelling the characters that may not stand in
a text keeps what it says, as long as the permitted characters are ASCII and
among them are the percent sign and the hexadecimal digits
(`decoded_percentEncode`). A mark that is neither of these parts what is said
where it parts the text (`IsMark.decoded_append_cons`).

A dot has three spellings, as itself and with either letter case behind a
percent sign, and no others (`decoded_eq_dot_cons`).

**Why what is said.** The same path may be spelled in many ways on its way
through the gateway: as the client writes it, as the address that is made of it,
and as the backend service resolves it. To ask whether it is the same path is to
ask what these spellings say; `decoded` is the answer, in bytes, without a view
on whether they make up a text.
-/

namespace PolicyGateway.Text

/-! ## Characters as bytes

A character of ASCII is a byte, and the bytes of all others lie beyond ASCII. So
a mark that is looked for among the bytes is never found inside another
character. -/

namespace Utf8

theorem encode_nil : encode [] = [] := rfl

theorem encode_append (cs ds : List Char) :
    encode (cs ++ ds) = encode cs ++ encode ds :=
  List.flatMap_append

theorem encode_cons (c : Char) (cs : List Char) :
    encode (c :: cs) = encode [c] ++ encode cs :=
  encode_append [c] cs

/-- A character of ASCII is one byte. -/
theorem encode_ascii {c : Char} (h : c.toNat < 0x80) :
    encode [c] = [UInt8.ofNat c.toNat] := by
  have hle : c.val.toNat ≤ 0x7f := Nat.le_of_lt_succ h
  show String.utf8EncodeChar c ++ [] = _
  rw [List.append_nil]
  unfold String.utf8EncodeChar
  exact if_pos hle

/-- The bytes of any other character are all beyond ASCII. -/
theorem le_of_mem_encode {c : Char} (h : 0x80 ≤ c.toNat) {b : UInt8}
    (hb : b ∈ encode [c]) : 0x80 ≤ b.toNat := by
  have hlow : ¬ c.val.toNat ≤ 0x7f := Nat.not_le.2 h
  change b ∈ String.utf8EncodeChar c ++ [] at hb
  rw [List.append_nil] at hb
  unfold String.utf8EncodeChar at hb
  rw [if_neg hlow] at hb
  split at hb
  · simp only [List.mem_cons, List.not_mem_nil, or_false] at hb
    rcases hb with rfl | rfl <;> rw [UInt8.toNat_ofNat'] <;> omega
  · split at hb
    · simp only [List.mem_cons, List.not_mem_nil, or_false] at hb
      rcases hb with rfl | rfl | rfl <;> rw [UInt8.toNat_ofNat'] <;> omega
    · simp only [List.mem_cons, List.not_mem_nil, or_false] at hb
      rcases hb with rfl | rfl | rfl | rfl <;>
        rw [UInt8.toNat_ofNat'] <;> omega

theorem encode_singleton_ne_nil (c : Char) : encode [c] ≠ [] := by
  show String.utf8EncodeChar c ++ [] ≠ []
  rw [List.append_nil]
  exact String.utf8EncodeChar_ne_nil

theorem encode_eq_nil {cs : List Char} : encode cs = [] ↔ cs = [] := by
  cases cs with
  | nil => simp [encode_nil]
  | cons c rest =>
    rw [encode_cons]
    simp [encode_singleton_ne_nil c]

theorem toNat_charOfNat {n : Nat} (h : n < 0x80) :
    (Char.ofNat n).toNat = n := by
  unfold Char.ofNat
  rw [dif_pos (.inl (Nat.lt_trans h (by decide)))]
  rfl

/-- **A byte of ASCII in front is its character in front.** -/
theorem encode_eq_cons {cs : List Char} {b : UInt8} {bs : List UInt8}
    (hb : b.toNat < 0x80) :
    encode cs = b :: bs ↔
      ∃ rest, cs = Char.ofNat b.toNat :: rest ∧ encode rest = bs := by
  have hchar := toNat_charOfNat hb
  constructor
  · intro h
    cases cs with
    | nil => cases h
    | cons c rest =>
      rw [encode_cons] at h
      -- any other character would have a byte beyond ASCII in front
      by_cases hc : c.toNat < 0x80
      · rw [encode_ascii hc, List.singleton_append] at h
        obtain ⟨hhead, htail⟩ := List.cons.inj h
        have hnat : b.toNat = c.toNat := by
          rw [← hhead, UInt8.toNat_ofNat_of_lt' (Nat.lt_trans hc (by decide))]
        refine ⟨rest, ?_, htail⟩
        rw [hnat, Char.ofNat_toNat]
      · obtain ⟨first, more, hfirst⟩ :=
          List.exists_cons_of_ne_nil (encode_singleton_ne_nil c)
        rw [hfirst] at h
        have hlarge := le_of_mem_encode (Nat.not_lt.1 hc)
          (hfirst ▸ List.mem_cons_self)
        obtain ⟨hhead, -⟩ := List.cons.inj h
        rw [hhead] at hlarge
        omega
  · rintro ⟨rest, rfl, rfl⟩
    rw [encode_cons, encode_ascii (by rw [hchar]; exact hb), hchar,
      UInt8.ofNat_toNat]
    rfl

end Utf8

/-! ## Resolving percent signs

A percent sign counts only with two digits behind it. What stands behind those
goes on as if it had come first, so an induction along the text makes steps of
one byte or of three (`percent_induction`). -/

/-- The byte that two hexadecimal digits in front spell, and what follows
them. -/
def hexPair? : List UInt8 → Option (UInt8 × List UInt8)
  | a :: b :: rest =>
    match hexByte? a, hexByte? b with
    | some x, some y => some (UInt8.ofNat (16 * x + y), rest)
    | _, _ => none
  | _ => none

theorem hexPair?_cons_cons (a b : UInt8) (rest : List UInt8) :
    hexPair? (a :: b :: rest)
      = match hexByte? a, hexByte? b with
        | some x, some y => some (UInt8.ofNat (16 * x + y), rest)
        | _, _ => none :=
  rfl

/-- A byte other than a percent sign stands for itself. -/
theorem percentDecode_cons {b : UInt8} (h : b ≠ 0x25) (rest : List UInt8) :
    percentDecode (b :: rest) = b :: percentDecode rest := by
  rw [percentDecode]
  exact fun _ _ _ heq _ => h heq

/-- A percent sign stands for a byte with the two digits behind it, and
otherwise for itself. -/
theorem percentDecode_percent (rest : List UInt8) :
    percentDecode (0x25 :: rest)
      = match hexPair? rest with
        | some (b, behind) => b :: percentDecode behind
        | none => 0x25 :: percentDecode rest := by
  match rest with
  | [] => rfl
  | [_] => rfl
  | a :: b :: behind =>
    rw [percentDecode, hexPair?_cons_cons]
    cases hexByte? a <;> cases hexByte? b <;> rfl

/-- What follows two digits is shorter than what they stand in front of. -/
theorem length_of_hexPair? {rest behind : List UInt8} {b : UInt8}
    (h : hexPair? rest = some (b, behind)) :
    rest.length = behind.length + 2 := by
  unfold hexPair? at h
  split at h
  · split at h
    · cases h
      rfl
    · cases h
  · cases h

/-- **Induction along percent signs**, the way they are resolved. -/
theorem percent_induction {motive : List UInt8 → Prop}
    (nil : motive [])
    (plain : ∀ b rest, b ≠ 0x25 → motive rest → motive (b :: rest))
    (pair : ∀ rest b behind, hexPair? rest = some (b, behind) →
      motive behind → motive (0x25 :: rest))
    (single : ∀ rest, hexPair? rest = none → motive rest →
      motive (0x25 :: rest)) :
    ∀ bs, motive bs
  | [] => nil
  | b :: rest => by
    by_cases hb : b = 0x25
    · subst hb
      cases hpair : hexPair? rest with
      | none =>
        exact single rest hpair
          (percent_induction nil plain pair single rest)
      | some p =>
        have hlen := length_of_hexPair? hpair
        exact pair rest p.1 p.2 hpair
          (percent_induction nil plain pair single p.2)
    · exact plain b rest hb (percent_induction nil plain pair single rest)
termination_by bs => bs.length
decreasing_by all_goals simp only [List.length_cons]; omega

/-- A byte that is no digit ends what digits may spell. -/
theorem hexPair?_append_cons {m : UInt8} (hm : hexByte? m = none)
    (rest more : List UInt8) :
    hexPair? (rest ++ m :: more)
      = (hexPair? rest).map fun p => (p.1, p.2 ++ m :: more) := by
  match rest with
  | [] =>
    cases more with
    | nil => rfl
    | cons d after =>
      show hexPair? (m :: d :: after) = none
      rw [hexPair?_cons_cons, hm]
  | [a] =>
    show hexPair? (a :: m :: more) = none
    rw [hexPair?_cons_cons, hm]
    cases hexByte? a <;> rfl
  | a :: b :: behind =>
    show hexPair? (a :: b :: (behind ++ m :: more)) = _
    rw [hexPair?_cons_cons, hexPair?_cons_cons]
    cases hexByte? a <;> cases hexByte? b <;> rfl

/-- **A mark parts what is resolved** where it parts the bytes, if it is neither
a percent sign nor a digit. If it were a digit it could complete an encoding
that has begun in front of it. -/
theorem percentDecode_append_cons {m : UInt8} (hm : m ≠ 0x25)
    (hdigit : hexByte? m = none) (bs more : List UInt8) :
    percentDecode (bs ++ m :: more)
      = percentDecode bs ++ m :: percentDecode more := by
  induction bs using percent_induction with
  | nil => exact percentDecode_cons hm more
  | plain b rest hb ih =>
    rw [List.cons_append, percentDecode_cons hb, percentDecode_cons hb, ih]
    rfl
  | pair rest b behind hpair ih =>
    rw [List.cons_append, percentDecode_percent, percentDecode_percent,
      hexPair?_append_cons hdigit, hpair]
    exact congrArg (b :: ·) ih
  | single rest hpair ih =>
    rw [List.cons_append, percentDecode_percent, percentDecode_percent,
      hexPair?_append_cons hdigit, hpair]
    exact congrArg (0x25 :: ·) ih

theorem percentDecode_eq_nil {bs : List UInt8} :
    percentDecode bs = [] ↔ bs = [] := by
  refine ⟨fun h => ?_, by rintro rfl; rfl⟩
  cases bs with
  | nil => rfl
  | cons b rest =>
    by_cases hb : b = 0x25
    · subst hb
      rw [percentDecode_percent] at h
      cases hpair : hexPair? rest <;> rw [hpair] at h <;> cases h
    · rw [percentDecode_cons hb] at h
      cases h

/-! ## Spelling bytes

To spell a text in permitted characters, the bytes of all others are written as
encodings. This must not touch encodings that are there already, so what they
are made of has to be permitted. -/

/-- Whether a byte is a character that may stand in a text. -/
def IsPermitted (isPermitted : Char → Bool) (b : UInt8) : Prop :=
  b.toNat < 0x80 ∧ isPermitted (Char.ofNat b.toNat) = true

instance (isPermitted : Char → Bool) :
    DecidablePred (IsPermitted isPermitted) :=
  fun _ => inferInstanceAs (Decidable (_ ∧ _))

/-- **The spelling of a byte** in a text of permitted characters. A permitted
one stays, and any other is written as a percent sign with two digits. -/
def spell (isPermitted : Char → Bool) (b : UInt8) : List UInt8 :=
  if IsPermitted isPermitted b then [b] else Utf8.encode (percentByte b)

/-- **Permitted characters that keep percent encodings**: they are ASCII, and
what an encoding is written with is among them. If the percent sign were not
permitted, an encoding would be encoded once more and would then say itself. -/
structure KeepsCodes (isPermitted : Char → Bool) : Prop where
  /-- Every one is a single byte. -/
  ascii : ∀ c, isPermitted c = true → c.toNat < 0x80
  /-- The percent sign is one. -/
  percent : isPermitted '%' = true
  /-- The hexadecimal digits are. -/
  digits : ∀ c, (hexDigit? c).isSome → isPermitted c = true

/-- Hexadecimal digits are ASCII. -/
theorem toNat_lt_of_hexDigit? {c : Char} (h : (hexDigit? c).isSome) :
    c.toNat < 0x80 := by
  unfold hexDigit? at h
  split at h
  · next hc => exact Nat.lt_of_le_of_lt hc.2 (by decide)
  · split at h
    · next hc => exact Nat.lt_of_le_of_lt hc.2 (by decide)
    · split at h
      · next hc => exact Nat.lt_of_le_of_lt hc.2 (by decide)
      · cases h

theorem toNat_charOfByte (b : UInt8) :
    (Char.ofNat b.toNat).toNat = b.toNat := by
  unfold Char.ofNat
  rw [dif_pos (.inl (Nat.lt_trans b.toNat_lt (by decide)))]
  rfl

/-- The bytes of an encoding are its three characters. -/
theorem encode_percentByte (b : UInt8) :
    Utf8.encode (percentByte b)
      = [0x25, UInt8.ofNat (upperHexDigit (b.toNat / 16)).toNat,
          UInt8.ofNat (upperHexDigit (b.toNat % 16)).toNat] := by
  have hdigit : ∀ n < 16, (upperHexDigit n).toNat < 0x80 := by decide
  have hb := b.toNat_lt
  unfold percentByte
  rw [Utf8.encode_cons, Utf8.encode_cons (upperHexDigit _),
    Utf8.encode_ascii (by decide), Utf8.encode_ascii (hdigit _ (by omega)),
    Utf8.encode_ascii (hdigit _ (by omega))]
  rfl

/-- **An encoding stands for its byte.** -/
theorem hexPair?_percentByte (b : UInt8) (rest : List UInt8) :
    hexPair? (UInt8.ofNat (upperHexDigit (b.toNat / 16)).toNat ::
        UInt8.ofNat (upperHexDigit (b.toNat % 16)).toNat :: rest)
      = some (b, rest) := by
  have hdigit : ∀ n < 16,
      hexByte? (UInt8.ofNat (upperHexDigit n).toNat) = some n := by decide
  have hb := b.toNat_lt
  rw [hexPair?_cons_cons, hdigit _ (by omega), hdigit _ (by omega)]
  dsimp only
  rw [Nat.div_add_mod, UInt8.ofNat_toNat]

section Spelling

variable {isPermitted : Char → Bool} {b : UInt8}

theorem spell_permitted (hb : IsPermitted isPermitted b) :
    spell isPermitted b = [b] :=
  if_pos hb

theorem spell_other (hb : ¬ IsPermitted isPermitted b) :
    spell isPermitted b
      = [0x25, UInt8.ofNat (upperHexDigit (b.toNat / 16)).toNat,
          UInt8.ofNat (upperHexDigit (b.toNat % 16)).toNat] := by
  unfold spell
  rw [if_neg hb, encode_percentByte]

/-- Bytes that are no permitted characters are all spelled out. -/
theorem encode_flatMap_percentByte {bs : List UInt8}
    (h : ∀ b ∈ bs, ¬ IsPermitted isPermitted b) :
    Utf8.encode (bs.flatMap percentByte) = bs.flatMap (spell isPermitted) := by
  induction bs with
  | nil => rfl
  | cons b rest ih =>
    rw [List.flatMap_cons, List.flatMap_cons, Utf8.encode_append,
      ih fun d hd => h d (List.mem_cons_of_mem b hd), encode_percentByte,
      spell_other (h b List.mem_cons_self)]

/-- A character that may not stand in the text is spelled out byte by
byte. -/
theorem not_isPermitted_of_mem_encode {c : Char} (hc : ¬ isPermitted c = true)
    (hb : b ∈ Utf8.encode [c]) : ¬ IsPermitted isPermitted b := by
  rintro ⟨hlow, hpermitted⟩
  by_cases hascii : c.toNat < 0x80
  · rw [Utf8.encode_ascii hascii, List.mem_singleton] at hb
    rw [hb, UInt8.toNat_ofNat_of_lt' (Nat.lt_trans hascii (by decide)),
      Char.ofNat_toNat] at hpermitted
    exact hc hpermitted
  · have hhigh := Utf8.le_of_mem_encode (Nat.not_lt.1 hascii) hb
    omega

namespace KeepsCodes

variable (h : KeepsCodes isPermitted)
include h

/-- The digits of an encoding may stand in the text. -/
theorem of_hexByte? (hb : (hexByte? b).isSome) : IsPermitted isPermitted b := by
  have hpermitted := h.digits _ hb
  refine ⟨?_, hpermitted⟩
  rw [← toNat_charOfByte]
  exact h.ascii _ hpermitted

/-- A spelling starts with a digit only if it is that digit. -/
theorem exists_spell_eq (b : UInt8) :
    ∃ first more, spell isPermitted b = first :: more ∧
      hexByte? first = hexByte? b ∧
      ((hexByte? b).isSome → first = b ∧ more = []) := by
  by_cases hb : IsPermitted isPermitted b
  · exact ⟨b, [], spell_permitted hb, rfl, fun _ => ⟨rfl, rfl⟩⟩
  · have hnone : hexByte? b = none := by
      cases hx : hexByte? b with
      | none => rfl
      | some x => exact absurd (h.of_hexByte? (by rw [hx]; rfl)) hb
    refine ⟨_, _, spell_other hb, ?_, fun hsome => ?_⟩
    · rw [hnone]
      decide
    · rw [hnone] at hsome
      cases hsome

/-- Digits are spelled as digits, and nothing else is. -/
theorem hexPair?_spell (rest : List UInt8) :
    hexPair? (rest.flatMap (spell isPermitted))
      = (hexPair? rest).map fun p =>
          (p.1, p.2.flatMap (spell isPermitted)) := by
  match rest with
  | [] => rfl
  | [a] =>
    rw [List.flatMap_singleton]
    by_cases ha : IsPermitted isPermitted a
    · rw [spell_permitted ha]
      rfl
    · rw [spell_other ha]
      rfl
  | a :: b :: behind =>
    rw [List.flatMap_cons, List.flatMap_cons, hexPair?_cons_cons]
    -- by the first byte: a digit is spelled as itself, and what is none is
    -- spelled with none in front
    obtain ⟨first, more, hfirst, hdigit, hself⟩ := h.exists_spell_eq a
    cases ha : hexByte? a with
    | none =>
      rw [hfirst, List.cons_append]
      rw [ha] at hdigit
      generalize more ++ _ = tail
      cases tail with
      | nil => rfl
      | cons d after =>
        rw [hexPair?_cons_cons, hdigit]
        rfl
    | some x =>
      obtain ⟨rfl, rfl⟩ := hself (by rw [ha]; rfl)
      obtain ⟨second, more, hsecond, hdigit', hself'⟩ := h.exists_spell_eq b
      rw [hfirst, hsecond]
      show hexPair? (first :: second :: (more ++ _)) = _
      rw [hexPair?_cons_cons, ha, hdigit']
      cases hb : hexByte? b with
      | none => rfl
      | some y =>
        obtain ⟨rfl, rfl⟩ := hself' (by rw [hb]; rfl)
        rfl

/-- **Bytes say the same however they are spelled.** A percent sign with no
digits behind it stays one, because no digits come to stand there. -/
theorem percentDecode_spell (bs : List UInt8) :
    percentDecode (bs.flatMap (spell isPermitted)) = percentDecode bs := by
  have hpercent : spell isPermitted 0x25 = [0x25] :=
    spell_permitted ⟨by decide, h.percent⟩
  induction bs using percent_induction with
  | nil => rfl
  | plain b rest hb ih =>
    rw [List.flatMap_cons, percentDecode_cons hb, ← ih]
    by_cases hpermitted : IsPermitted isPermitted b
    · rw [spell_permitted hpermitted]
      exact percentDecode_cons hb _
    · rw [spell_other hpermitted]
      show percentDecode (0x25 :: _ :: _ :: _) = _
      rw [percentDecode_percent, hexPair?_percentByte]
      rfl
  | pair rest b behind hpair ih =>
    rw [List.flatMap_cons, hpercent, List.singleton_append,
      percentDecode_percent, percentDecode_percent, h.hexPair?_spell, hpair]
    exact congrArg (b :: ·) ih
  | single rest hpair ih =>
    rw [List.flatMap_cons, hpercent, List.singleton_append,
      percentDecode_percent, percentDecode_percent, h.hexPair?_spell, hpair]
    exact congrArg (0x25 :: ·) ih

/-- The bytes of a spelled text are its bytes, spelled. -/
theorem encode_percentEncode (cs : List Char) :
    Utf8.encode (percentEncode isPermitted cs)
      = (Utf8.encode cs).flatMap (spell isPermitted) := by
  induction cs with
  | nil => rfl
  | cons c rest ih =>
    rw [Utf8.encode_cons, List.flatMap_append, ← ih]
    unfold percentEncode
    rw [List.flatMap_cons, Utf8.encode_append]
    refine congrArg (· ++ _) ?_
    split
    · next hc =>
      have hlow := h.ascii c hc
      have hnat : (UInt8.ofNat c.toNat).toNat = c.toNat :=
        UInt8.toNat_ofNat_of_lt' (Nat.lt_trans hlow (by decide))
      rw [Utf8.encode_ascii hlow, List.flatMap_singleton]
      refine (spell_permitted ⟨by rw [hnat]; exact hlow, ?_⟩).symm
      rw [hnat, Char.ofNat_toNat]
      exact hc
    · next hc =>
      exact encode_flatMap_percentByte fun b hb =>
        not_isPermitted_of_mem_encode hc hb

end KeepsCodes

end Spelling

/-! ## What a text stands for

From here on it is texts, and marks in them. The part in front of a mark and the
part behind it say what they say, each on its own. -/

/-- **The bytes that a text stands for**, its percent signs resolved. It is made
of bytes, since what is encoded need not be text. -/
def decoded (cs : List Char) : List UInt8 :=
  percentDecode (Utf8.encode cs)

/-- **A text says the same in permitted characters.** -/
theorem decoded_percentEncode {isPermitted : Char → Bool}
    (h : KeepsCodes isPermitted) (cs : List Char) :
    decoded (percentEncode isPermitted cs) = decoded cs := by
  unfold decoded
  rw [h.encode_percentEncode, h.percentDecode_spell]

theorem decoded_nil : decoded [] = [] := rfl

theorem decoded_eq_nil {cs : List Char} : decoded cs = [] ↔ cs = [] := by
  unfold decoded
  rw [percentDecode_eq_nil, Utf8.encode_eq_nil]

/-- **A character that parts what a text says**: it is ASCII and no part of an
encoding. The marks that part a path or a query are of this kind. -/
structure IsMark (c : Char) : Prop where
  /-- It is a single byte. -/
  ascii : c.toNat < 0x80
  /-- It starts no encoding. -/
  percent : c ≠ '%'
  /-- It is no digit of one. -/
  digit : hexDigit? c = none

namespace IsMark

variable {mark : Char} (h : IsMark mark)
include h

/-- The byte of a mark. -/
theorem toNat_ofNat : (UInt8.ofNat mark.toNat).toNat = mark.toNat :=
  UInt8.toNat_ofNat_of_lt' (Nat.lt_trans h.ascii (by decide))

theorem ofNat_ne_percent : UInt8.ofNat mark.toNat ≠ 0x25 := by
  intro heq
  refine h.percent ?_
  have hpercent : mark.toNat = 0x25 := by
    rw [← h.toNat_ofNat, heq]
    rfl
  rw [← Char.ofNat_toNat mark, hpercent]

theorem hexByte?_ofNat : hexByte? (UInt8.ofNat mark.toNat) = none := by
  unfold hexByte?
  rw [h.toNat_ofNat, Char.ofNat_toNat]
  exact h.digit

theorem encode_append_cons (cs ds : List Char) :
    Utf8.encode (cs ++ mark :: ds)
      = Utf8.encode cs ++ UInt8.ofNat mark.toNat :: Utf8.encode ds := by
  rw [Utf8.encode_append, Utf8.encode_cons, Utf8.encode_ascii h.ascii]
  rfl

/-- **A mark parts what a text says** where it parts the text. -/
theorem decoded_append_cons (cs ds : List Char) :
    decoded (cs ++ mark :: ds)
      = decoded cs ++ UInt8.ofNat mark.toNat :: decoded ds := by
  unfold decoded
  rw [h.encode_append_cons]
  exact percentDecode_append_cons h.ofNat_ne_percent h.hexByte?_ofNat _ _

end IsMark

/-! ## The spellings of a dot

There are three. That there is no fourth is a matter of all bytes, as the two
digits of an encoding are bytes; it is tested for each of them. -/

/-- What holds of the bytes one by one holds of all. -/
theorem forall_byte {p : UInt8 → Prop} (h : ∀ n < 256, p (UInt8.ofNat n))
    (b : UInt8) : p b := by
  rw [show b = UInt8.ofNat b.toNat from UInt8.ofNat_toNat.symm]
  exact h b.toNat b.toNat_lt

theorem hexByte?_lt : ∀ b, ∀ x ∈ hexByte? b, x < 16 :=
  forall_byte (by decide +kernel)

theorem hexByte?_eq_two : ∀ b, hexByte? b = some 2 → b = 0x32 :=
  forall_byte (by decide +kernel)

theorem hexByte?_eq_fourteen :
    ∀ b, hexByte? b = some 14 → b = 0x65 ∨ b = 0x45 :=
  forall_byte (by decide +kernel)

/-- The digits of a dot. -/
theorem hexPair?_eq_dot {rest behind : List UInt8} :
    hexPair? rest = some (0x2e, behind) ↔
      rest = 0x32 :: 0x65 :: behind ∨ rest = 0x32 :: 0x45 :: behind := by
  refine ⟨fun h => ?_, by rintro (rfl | rfl) <;> rfl⟩
  unfold hexPair? at h
  split at h
  · next a b more =>
    split at h
    · next x y hx hy =>
      simp only [Option.some.injEq, Prod.mk.injEq] at h
      obtain ⟨hdot, rfl⟩ := h
      have hx' := hexByte?_lt a x hx
      have hy' := hexByte?_lt b y hy
      have hvalue : 16 * x + y = 0x2e := by
        have := congrArg UInt8.toNat hdot
        rw [UInt8.toNat_ofNat_of_lt' (show 16 * x + y < 256 by omega)] at this
        exact this
      obtain rfl : x = 2 := by omega
      obtain rfl : y = 14 := by omega
      rw [hexByte?_eq_two a hx]
      rcases hexByte?_eq_fourteen b hy with rfl | rfl
      · exact .inl rfl
      · exact .inr rfl
    · cases h
  · cases h

/-- **What resolves to a dot in front** is a dot in one of its spellings. -/
theorem percentDecode_eq_dot_cons {bs ds : List UInt8} :
    percentDecode bs = 0x2e :: ds ↔
      ∃ rest, percentDecode rest = ds ∧
        (bs = 0x2e :: rest ∨ bs = 0x25 :: 0x32 :: 0x65 :: rest ∨
          bs = 0x25 :: 0x32 :: 0x45 :: rest) := by
  constructor
  · intro h
    cases bs with
    | nil => cases h
    | cons b rest =>
      -- a percent sign makes a dot with its two digits, and no other byte but
      -- the dot does
      by_cases hb : b = 0x25
      · subst hb
        rw [percentDecode_percent] at h
        cases hpair : hexPair? rest with
        | none =>
          rw [hpair] at h
          exact absurd (List.cons.inj h).1 (by decide)
        | some p =>
          obtain ⟨d, behind⟩ := p
          rw [hpair] at h
          obtain ⟨rfl, rfl⟩ := List.cons.inj h
          rcases hexPair?_eq_dot.1 hpair with rfl | rfl
          · exact ⟨behind, rfl, .inr (.inl rfl)⟩
          · exact ⟨behind, rfl, .inr (.inr rfl)⟩
      · rw [percentDecode_cons hb] at h
        obtain ⟨rfl, rfl⟩ := List.cons.inj h
        exact ⟨rest, rfl, .inl rfl⟩
  · rintro ⟨rest, rfl, rfl | rfl | rfl⟩
    · exact percentDecode_cons (by decide) rest
    · rw [percentDecode_percent, hexPair?_eq_dot.2 (.inl rfl)]
    · rw [percentDecode_percent, hexPair?_eq_dot.2 (.inr rfl)]

/-- **A text that says a dot in front** starts with one of its spellings. -/
theorem decoded_eq_dot_cons {cs : List Char} {ds : List UInt8} :
    decoded cs = 0x2e :: ds ↔
      ∃ rest, decoded rest = ds ∧
        (cs = '.' :: rest ∨ cs = '%' :: '2' :: 'e' :: rest ∨
          cs = '%' :: '2' :: 'E' :: rest) := by
  unfold decoded
  rw [percentDecode_eq_dot_cons]
  constructor
  · rintro ⟨bs, rfl, h | h | h⟩
    · obtain ⟨rest, rfl, rfl⟩ := (Utf8.encode_eq_cons (by decide)).1 h
      exact ⟨rest, rfl, .inl rfl⟩
    · obtain ⟨_, rfl, h₁⟩ := (Utf8.encode_eq_cons (by decide)).1 h
      obtain ⟨_, rfl, h₂⟩ := (Utf8.encode_eq_cons (by decide)).1 h₁
      obtain ⟨rest, rfl, rfl⟩ := (Utf8.encode_eq_cons (by decide)).1 h₂
      exact ⟨rest, rfl, .inr (.inl rfl)⟩
    · obtain ⟨_, rfl, h₁⟩ := (Utf8.encode_eq_cons (by decide)).1 h
      obtain ⟨_, rfl, h₂⟩ := (Utf8.encode_eq_cons (by decide)).1 h₁
      obtain ⟨rest, rfl, rfl⟩ := (Utf8.encode_eq_cons (by decide)).1 h₂
      exact ⟨rest, rfl, .inr (.inr rfl)⟩
  · rintro ⟨rest, rfl, rfl | rfl | rfl⟩
    · exact ⟨_, rfl, .inl rfl⟩
    · exact ⟨_, rfl, .inr (.inl rfl)⟩
    · exact ⟨_, rfl, .inr (.inr rfl)⟩

end PolicyGateway.Text
