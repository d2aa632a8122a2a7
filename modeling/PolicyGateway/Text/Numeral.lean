/-!
# Natural numbers in text

Durations, ports and lengths are written as decimal digits. A plus sign may
stand in front where a person writes the number; nothing else may.

`natural?` accepts every row of digits, leading zeros included, so a number
has many spellings; `Nat.toDigits` writes the shortest, and
`natural?_digits` says that it reads back.
-/

namespace PolicyGateway.Text

/-- Whether a character is an ASCII digit. -/
def isDigit (c : Char) : Bool :=
  '0' ≤ c && c ≤ '9'

/-- The value of a hexadecimal digit. -/
def hexDigit? (c : Char) : Option Nat :=
  if '0' ≤ c ∧ c ≤ '9' then some (c.toNat - '0'.toNat)
  else if 'a' ≤ c ∧ c ≤ 'f' then some (c.toNat - 'a'.toNat + 10)
  else if 'A' ≤ c ∧ c ≤ 'F' then some (c.toNat - 'A'.toNat + 10)
  else none

/-- **The number that a row of digits spells**, if it is one. -/
def natural? (cs : List Char) : Option Nat :=
  if cs.isEmpty then none
  else if cs.all isDigit then some (Nat.ofDigitChars 10 cs 0)
  else none

/-- A number with an optional plus sign, at most `greatest`. -/
def boundedNatural? (greatest : Nat) (cs : List Char) : Option Nat :=
  let digits :=
    match cs with
    | '+' :: rest => rest
    | _ => cs
  match natural? digits with
  | some n => if n ≤ greatest then some n else none
  | none => none

/-- The decimal digits of a number. -/
def digits (n : Nat) : List Char :=
  Nat.toDigits 10 n

theorem isDigit_of_mem_digits {n : Nat} {c : Char} (h : c ∈ digits n) :
    isDigit c = true := by
  have hd := Nat.isDigit_of_mem_toDigits (by decide) (by decide) h
  simpa [isDigit, Char.isDigit, Char.le_def] using hd

/-- The shortest spelling of a number reads back. -/
theorem natural?_digits (n : Nat) : natural? (digits n) = some n := by
  have hne : (digits n).isEmpty = false := by
    simp [digits, Nat.toDigits_ne_nil]
  have hall : (digits n).all isDigit = true :=
    List.all_eq_true.2 fun _ hc => isDigit_of_mem_digits hc
  rw [natural?, hne, hall]
  simp [digits, Nat.ofDigitChars_toDigits]

theorem le_of_boundedNatural? {greatest n : Nat} {cs : List Char}
    (h : boundedNatural? greatest cs = some n) : n ≤ greatest := by
  unfold boundedNatural? at h
  dsimp only at h
  generalize natural? _ = number at h
  cases number with
  | none => cases h
  | some number =>
    obtain ⟨hle, rfl⟩ : number ≤ greatest ∧ number = n := by
      simpa using h
    exact hle

end PolicyGateway.Text
