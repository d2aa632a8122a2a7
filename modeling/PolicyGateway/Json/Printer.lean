import PolicyGateway.Json.Value

/-!
# Writing JSON

Values are written without any blank between tokens, members in the order
in which the object holds them. In a string only the quote, the backslash
and the control characters are escaped, the control characters by their
short escape where they have one; all other characters stand as they are.
-/

namespace PolicyGateway.Json

/-- The hexadecimal digits of a control character's code. -/
def hexPair (n : Nat) : List Char :=
  [Nat.digitChar (n / 16), Nat.digitChar (n % 16)]

/-- **A character inside a string.** -/
def escape (c : Char) : List Char :=
  if c = '"' then ['\\', '"']
  else if c = '\\' then ['\\', '\\']
  else if c.toNat = 8 then ['\\', 'b']
  else if c.toNat = 9 then ['\\', 't']
  else if c.toNat = 10 then ['\\', 'n']
  else if c.toNat = 12 then ['\\', 'f']
  else if c.toNat = 13 then ['\\', 'r']
  else if c.toNat < 0x20 then ['\\', 'u', '0', '0'] ++ hexPair c.toNat
  else [c]

/-- A string between quotes. -/
def quote (s : String) : List Char :=
  '"' :: s.toList.flatMap escape ++ ['"']

namespace Value

mutual

/-- **The text of a value.** -/
def write : Value → List Char
  | null => ['n', 'u', 'l', 'l']
  | boolean true => ['t', 'r', 'u', 'e']
  | boolean false => ['f', 'a', 'l', 's', 'e']
  | number n => n.text
  | text s => quote s
  | array items => '[' :: writeItems items ++ [']']
  | object members => '\x7b' :: writeMembers members ++ ['\x7d']

/-- The items, with commas between them. -/
def writeItems : List Value → List Char
  | [] => []
  | [item] => item.write
  | item :: rest => item.write ++ ',' :: writeItems rest

/-- The members, with commas between them. -/
def writeMembers : List (String × Value) → List Char
  | [] => []
  | [(name, item)] => quote name ++ ':' :: item.write
  | (name, item) :: rest =>
    quote name ++ ':' :: item.write ++ ',' :: writeMembers rest

end

/-- The text of a value as a string. -/
def toText (v : Value) : String :=
  String.ofList v.write

end Value

end PolicyGateway.Json
