import PolicyGateway.Text.Pieces

/-!
# Letter case

Methods and field names are compared without regard to letter case, and a key
keeps its method in capitals. Both are about ASCII alone: a small letter and its
capital are 32 code points apart, and every other character, an accented letter
among them, is its own capital and its own small letter.

What later modules need of this are two facts. A change of case never makes a
mark out of a letter or a letter out of a mark, so a text may be cut at its
colons, slashes and dots before or after the change (`toUpper_eq_iff`,
`toLower_eq_iff`). And a change of case is not seen by a comparison that ignores
it, so it makes no difference in which case a name is kept
(`sameIgnoringCase_uppercase`, `sameIgnoringCase_lowercase`).
-/

namespace PolicyGateway.Text

/-! ## Small letters

The letters are told apart by their code points, so each fact is one about
numbers between 65 and 122. The only step that needs care is the way back, from
what a character has become to what it was. -/

/-- What is no capital stays as it is. -/
theorem toLower_eq_self {c : Char}
    (h : ¬ (0x41 ≤ c.toNat ∧ c.toNat ≤ 0x5a)) : c.toLower = c :=
  dif_neg h

/-- A capital becomes the letter that stands 32 places behind it. -/
theorem toNat_toLower {c : Char} (hlow : 0x41 ≤ c.toNat)
    (hhigh : c.toNat ≤ 0x5a) : c.toLower.toNat = c.toNat + 0x20 := by
  have hval : c.toLower.val = c.val + ('a'.val - 'A'.val) :=
    congrArg Char.val (dif_pos ⟨hlow, hhigh⟩)
  show c.toLower.val.toNat = _
  rw [hval, UInt32.toNat_add]
  show (c.toNat + 0x20) % 2 ^ 32 = _
  omega

/-- Only the capitals are put into lower case. -/
theorem eq_of_toLower_eq {c d : Char} (h : c.toLower = d) :
    c = d ∨ 0x61 ≤ d.toNat ∧ d.toNat ≤ 0x7a ∧ d.toNat = c.toNat + 0x20 := by
  subst h
  by_cases hcap : 0x41 ≤ c.toNat ∧ c.toNat ≤ 0x5a
  · have hadd := toNat_toLower hcap.1 hcap.2
    exact .inr ⟨by omega, by omega, hadd⟩
  · exact .inl (toLower_eq_self hcap).symm

/-- What is in lower case stays as it is. -/
theorem toLower_toLower (c : Char) : c.toLower.toLower = c.toLower := by
  rcases eq_of_toLower_eq (c := c) rfl with h | ⟨hle, -, -⟩
  · exact congrArg Char.toLower h.symm
  · exact toLower_eq_self (by omega)

/-- What is no letter comes from nothing else. -/
theorem toLower_eq_iff {c d : Char} (hd : d.toNat < 0x41) :
    c.toLower = d ↔ c = d := by
  constructor
  · intro h
    rcases eq_of_toLower_eq h with h | ⟨hle, -, -⟩
    · exact h
    · omega
  · rintro rfl
    exact toLower_eq_self (by omega)

theorem toLower_eq_e {c : Char} : c.toLower = 'e' ↔ c = 'e' ∨ c = 'E' := by
  constructor
  · intro h
    rcases eq_of_toLower_eq h with h | ⟨-, -, heq⟩
    · exact .inl h
    · have hcap : c.toNat = 0x45 := Nat.add_right_cancel heq.symm
      rw [← Char.ofNat_toNat c, hcap]
      exact .inr rfl
  · rintro (rfl | rfl) <;> rfl

/-! ## Capitals

The same facts in the other direction. They cannot be had from the ones above by
symmetry, because the difference is now subtracted. -/

/-- What is no small letter stays as it is. -/
theorem toUpper_eq_self {c : Char}
    (h : ¬ (0x61 ≤ c.toNat ∧ c.toNat ≤ 0x7a)) : c.toUpper = c :=
  dif_neg h

/-- A small letter becomes the capital that stands 32 places in front of it. -/
theorem toNat_toUpper {c : Char} (hlow : 0x61 ≤ c.toNat)
    (hhigh : c.toNat ≤ 0x7a) : c.toUpper.toNat + 0x20 = c.toNat := by
  have hsmall : 'a'.val ≤ c.val ∧ c.val ≤ 'z'.val := ⟨hlow, hhigh⟩
  -- the difference of the two letters is negative, and wraps around
  have hwrapped : ('A'.val - 'a'.val).toNat = 2 ^ 32 - 0x20 := by decide
  have hval : c.val.toNat = c.toNat := rfl
  unfold Char.toUpper
  rw [dif_pos hsmall]
  show (c.val + ('A'.val - 'a'.val)).toNat + 0x20 = c.toNat
  rw [UInt32.toNat_add, hwrapped, hval]
  omega

/-- Only the small letters are put into upper case. -/
theorem eq_of_toUpper_eq {c d : Char} (h : c.toUpper = d) :
    c = d ∨ 0x41 ≤ d.toNat ∧ d.toNat ≤ 0x5a ∧ d.toNat + 0x20 = c.toNat := by
  subst h
  by_cases hsmall : 0x61 ≤ c.toNat ∧ c.toNat ≤ 0x7a
  · have hadd := toNat_toUpper hsmall.1 hsmall.2
    exact .inr ⟨by omega, by omega, hadd⟩
  · exact .inl (toUpper_eq_self hsmall).symm

/-- What is in upper case stays as it is. -/
theorem toUpper_toUpper (c : Char) : c.toUpper.toUpper = c.toUpper := by
  rcases eq_of_toUpper_eq (c := c) rfl with h | ⟨-, hle, -⟩
  · exact congrArg Char.toUpper h.symm
  · exact toUpper_eq_self (by omega)

/-- What is no letter comes from nothing else. -/
theorem toUpper_eq_iff {c d : Char} (hd : d.toNat < 0x41) :
    c.toUpper = d ↔ c = d := by
  constructor
  · intro h
    rcases eq_of_toUpper_eq h with h | ⟨hle, -, -⟩
    · exact h
    · omega
  · rintro rfl
    exact toUpper_eq_self (by omega)

/-- A letter and its capital have the same small letter. -/
theorem toLower_toUpper (c : Char) : c.toUpper.toLower = c.toLower := by
  rcases eq_of_toUpper_eq (c := c) rfl with h | ⟨hlow, hhigh, hadd⟩
  · exact congrArg Char.toLower h.symm
  · have hsmall := toNat_toLower hlow hhigh
    rw [toLower_eq_self (c := c) (by omega)]
    exact Char.toNat_inj.1 (hsmall.trans hadd)

/-! ## Comparisons that ignore case

Two texts are the same but for their case if their small letters are. So a text
may be put into either case before it is compared. -/

/-- Upper case is a spelling of the same text. -/
theorem sameIgnoringCase_uppercase (a b : String) :
    sameIgnoringCase (uppercase a) b = sameIgnoringCase b a := by
  unfold sameIgnoringCase uppercase
  rw [String.toList_ofList, List.map_map,
    show Char.toLower ∘ Char.toUpper = Char.toLower from
      funext toLower_toUpper]
  exact BEq.comm

/-- So is lower case. -/
theorem sameIgnoringCase_lowercase (a b : String) :
    sameIgnoringCase (lowercase a) b = sameIgnoringCase a b := by
  unfold sameIgnoringCase lowercase
  rw [String.toList_ofList, List.map_map,
    show Char.toLower ∘ Char.toLower = Char.toLower from
      funext toLower_toLower]

end PolicyGateway.Text
