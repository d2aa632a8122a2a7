import PolicyGateway.Json.Value
import PolicyGateway.Record.OrderedMap
import PolicyGateway.Text.Percent
import PolicyGateway.Text.Pieces

/-!
# Query parameters

A query is a row of parameters between ampersands, each a key and a value
around an equals sign. A plus stands for a blank, a percent sign with two
hexadecimal digits for a byte, and bytes that spell no text read as the
replacement character. Empty parameters do not count.

`pairs` lists the parameters in order. `grouped` collects the values of each
key, in the order in which the keys first appear, and `toJson` shows a key
that appears once with its value and any other with all its values.
-/

namespace PolicyGateway.Query

open PolicyGateway.Json (Value)
open PolicyGateway.Record (OrderedMap)

/-- The byte of a character, blanks restored. -/
def plusToBlank (b : UInt8) : UInt8 :=
  if b = 0x2b then 0x20 else b

/-- **The text that part of a parameter stands for.** -/
def decode (cs : List Char) : String :=
  String.ofList (Text.Utf8.decodeLossy
    (Text.percentDecode ((Text.Utf8.encode cs).map plusToBlank)))

/-- The key and the value of one parameter. -/
def pair (cs : List Char) : String × String :=
  match Text.cutFirst '=' cs with
  | some (key, value) => (decode key, decode value)
  | none => (decode cs, "")

/-- **The parameters of a query**, in order. -/
def pairs (query : String) : List (String × String) :=
  (query.toList.splitOn '&').filter (!·.isEmpty) |>.map pair

/-- Put a value behind the other values of its key. -/
def collect (groups : OrderedMap (List String))
    (parameter : String × String) : OrderedMap (List String) :=
  groups.insert parameter.1
    ((groups.find? parameter.1).getD [] ++ [parameter.2])

/-- **The values of each key**, in the order in which the keys first
appear. -/
def grouped (query : String) : OrderedMap (List String) :=
  (pairs query).foldl collect .empty

/-- The values of one key as a JSON value. -/
def valuesJson : List String → Value
  | [value] => .text value
  | values => Value.texts values

/-- **The parameters as a JSON value.** -/
def toJson (query : String) : Value :=
  .object ((grouped query).entries.map fun (key, values) =>
    (key, valuesJson values))

end PolicyGateway.Query
