/-!
# Blank characters

Keys, durations and URLs may be written with room around them. What counts
as room is the Unicode property `White_Space`, so a no-break space or an
ideographic space around a rule key is as harmless as a tab.

`trim` removes blanks at both ends and nothing inside.
-/

namespace PolicyGateway.Text

/-- **Blank characters**: the code points of the Unicode property
`White_Space`. -/
def isBlank (c : Char) : Bool :=
  let n := c.toNat
  (0x9 ≤ n && n ≤ 0xd) || n == 0x20 || n == 0x85 || n == 0xa0 || n == 0x1680 ||
    (0x2000 ≤ n && n ≤ 0x200a) || n == 0x2028 || n == 0x2029 || n == 0x202f ||
    n == 0x205f || n == 0x3000

/-- The text from its first character that is not blank. -/
def trimStart (cs : List Char) : List Char :=
  cs.dropWhile isBlank

/-- The text up to its last character that is not blank. -/
def trimEnd (cs : List Char) : List Char :=
  (cs.reverse.dropWhile isBlank).reverse

/-- **The text without the blanks around it.** -/
def trim (cs : List Char) : List Char :=
  trimEnd (trimStart cs)

/-- A string without the blanks around it. -/
def trimmed (s : String) : String :=
  String.ofList (trim s.toList)

end PolicyGateway.Text
