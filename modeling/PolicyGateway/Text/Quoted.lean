import PolicyGateway.Text.Unprintable

/-!
# Quoted texts

Messages quote the texts they are about: between double quotes, quotes and
backslashes escaped, the usual control characters by their letter, and
every other character without a face by its number in braces.
-/

namespace PolicyGateway.Text

/-- **A character of a quoted text.** -/
def quotedChar (c : Char) : List Char :=
  if c.toNat = 0 then ['\\', '0']
  else if c = '\t' then ['\\', 't']
  else if c = '\r' then ['\\', 'r']
  else if c = '\n' then ['\\', 'n']
  else if c = '\\' then ['\\', '\\']
  else if c = '"' then ['\\', '"']
  else if isFaceless c then
    ['\\', 'u', '\x7b'] ++ Nat.toDigits 16 c.toNat ++ ['\x7d']
  else [c]

/-- **A text between quotes**, as messages show it. -/
def quoted (s : String) : String :=
  String.ofList ('"' :: s.toList.flatMap quotedChar ++ ['"'])

end PolicyGateway.Text
