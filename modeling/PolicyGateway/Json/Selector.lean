import PolicyGateway.Json.Value
import PolicyGateway.Text.Pieces
import PolicyGateway.Text.Quoted

/-!
# Selecting part of a value

A rule names the parts of a request body that it wants judged by small
dotted paths: `$.user.name` walks down objects, `$.items[*]` takes the
elements of an array, and `$.items[*].id` takes one part of every element.
The mark `$` in front may be left out, and empty steps do not count.

A step that is not there is an error, with one exception: a name that says
whether something was used or exists answers its own question, so `couponUsed`
reads as false where it is missing.

Whether a path is malformed depends on the path alone. `Selector.parse`
takes a path apart before any value is looked at, and `select` does the
rest.
-/

namespace PolicyGateway.Json

open PolicyGateway.Text

/-- What is wrong with a malformed path. It is found without a look at any
value. -/
inductive PathFault where
  /-- It has a second `[*]`. -/
  | secondWildcard
  /-- Something other than a dot follows `[*]`. -/
  | strayAfterWildcard
  /-- It has a bracket that is not part of `[*]`. -/
  | strayBracket
  deriving Repr, DecidableEq

/-- The kind of value that a step needs. Anything else is a mismatch, and the
path says where. -/
inductive Shape where
  /-- An object. -/
  | object
  /-- An array. -/
  | array
  deriving Repr, DecidableEq

/-- **Why a part of a value cannot be selected.** Each cause names the
whole path. -/
inductive SelectError where
  /-- The object has no such member. -/
  | missing (path field : String)
  /-- The value at a step has another shape. -/
  | mismatch (path step : String) (expected : Shape)
  /-- The path is malformed. -/
  | malformed (path : String) (fault : PathFault)
  deriving Repr, DecidableEq

/-- The wording of a path's fault. -/
def PathFault.reason : PathFault → String
  | secondWildcard => "more than one [*] wildcard"
  | strayAfterWildcard => "[*] must be followed by '.' or end the path"
  | strayBracket => "only [*] is supported inside brackets"

/-- The name of a shape. -/
def Shape.name : Shape → String
  | object => "object"
  | array => "array"

/-- The wording of a failed selection. -/
def SelectError.message : SelectError → String
  | missing path field =>
    "path " ++ quoted path ++ ": field " ++ quoted field ++
      " not found in object"
  | mismatch path step expected =>
    "path " ++ quoted path ++ ": expected " ++ expected.name ++ " at " ++
      quoted step
  | malformed path fault =>
    "malformed path " ++ quoted path ++ ": " ++ fault.reason

/-- **A path taken apart.** Elements are asked for at one place at most. -/
inductive Selector where
  /-- Steps down from the root. -/
  | plain (steps : List Char)
  /-- Steps to an array, and steps down from each of its elements. -/
  | each (array element : List Char)
  deriving Repr, DecidableEq

namespace Selector

/-- The mark of all elements. -/
def wildcard : List Char := ['[', '*', ']']

/-- A path without the root mark in front. -/
def unrooted (path : List Char) : List Char :=
  match path with
  | '$' :: '.' :: rest => rest
  | '$' :: rest => rest
  | _ => path

/-- Whether the text holds a bracket. -/
def hasBracket (cs : List Char) : Bool :=
  cs.contains '[' || cs.contains ']'

/-- **Take a path apart**, or say what is wrong with it. -/
def parse (path : List Char) : Except PathFault Selector :=
  let body := unrooted path
  match cutAtText wildcard body with
  | none =>
    if hasBracket body then .error .strayBracket else .ok (plain body)
  | some (front, back) =>
    if occurs wildcard back then .error .secondWildcard
    else if !back.isEmpty && back.head? != some '.' then
      .error .strayAfterWildcard
    else if hasBracket front || hasBracket back then .error .strayBracket
    else .ok (each front (dropLeading '.' back))

end Selector

/-- The steps of a dotted path; empty ones do not count. -/
def steps (dotted : List Char) : List String :=
  (dotted.splitOn '.').filter (!·.isEmpty) |>.map String.ofList

/-- **Names that answer for themselves**: a missing field whose name says
whether something was used or exists reads as false. -/
def defaultsToFalse (name : String) : Bool :=
  occurs "Used".toList name.toList || occurs "Exists".toList name.toList

/-- Walk down from a value. The whole path is named in errors. -/
def walk (path : String) : List String → Value → Except SelectError Value
  | [], value => .ok value
  | step :: rest, .object members =>
    match members.lookup step with
    | some next => walk path rest next
    | none =>
      if defaultsToFalse step then .ok (.boolean false)
      else .error (.missing path step)
  | step :: _, _ => .error (.mismatch path step .object)

/-- The part of each element, from the element with this index on. -/
def walkEach (path : String) (array : List Char) (steps : List String) :
    Nat → List Value → Except SelectError (List Value)
  | _, [] => .ok []
  | index, element :: rest =>
    if element.isObject then
      match walk path steps element with
      | .ok part =>
        (walkEach path array steps (index + 1) rest).map (part :: ·)
      | .error e => .error e
    else
      .error (.mismatch path
        (String.ofList (array ++ '[' :: Nat.toDigits 10 index ++ [']']))
        .object)

/-- **Select the part of a value that a path addresses.** -/
def select (value : Value) (path : String) : Except SelectError Value :=
  match Selector.parse path.toList with
  | .error fault => .error (.malformed path fault)
  | .ok (.plain body) => walk path (steps body) value
  | .ok (.each array element) =>
    match walk path (steps array) value with
    | .error e => .error e
    | .ok (.array elements) =>
      if element.isEmpty then .ok (.array elements)
      else (walkEach path array (steps element) 0 elements).map .array
    | .ok _ => .error (.mismatch path (String.ofList array) .array)

end PolicyGateway.Json
