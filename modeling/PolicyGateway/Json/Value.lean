import PolicyGateway.Json.Reader

/-!
# JSON values

A value is what a document says once every part of it has been read. The
names of an object are distinct: of repeated names the last one counts, and
members are kept in the order of their names, by code point.

Objects that the gateway itself makes, such as the questions it sends, keep
the order in which they are made. Both are the same type, and a member is
looked up in the same way.
-/

namespace PolicyGateway.Json

open PolicyGateway.Record
open PolicyGateway.Text (Utf8.Cell)

/-- **A JSON value.** The members of an object are a list, in the order in which
they are written or were read. -/
inductive Value where
  /-- The null value. -/
  | null
  /-- A truth value. -/
  | boolean (b : Bool)
  /-- A number. -/
  | number (n : Number)
  /-- A text. -/
  | text (s : String)
  /-- An array. -/
  | array (items : List Value)
  /-- Members under names. -/
  | object (members : List (String × Value))
  deriving Inhabited, Repr

namespace Value

/-- **File a member under its name**, among members in the order of their
names; it replaces one of the same name. -/
def insertMember (name : String) (value : Value) :
    List (String × Value) → List (String × Value)
  | [] => [(name, value)]
  | (other, kept) :: rest =>
    if name = other then (name, value) :: rest
    else if name < other then (name, value) :: (other, kept) :: rest
    else (other, kept) :: insertMember name value rest

/-- The members of an object in the order of their names; of a repeated
name the last one counts. -/
def sortMembers (members : List (String × Value)) : List (String × Value) :=
  members.foldl (fun sorted (name, value) => insertMember name value sorted)
    []

mutual

/-- **The value of a document**, if every part of it has one. -/
def ofNode? : Node → Option Value
  | .null => some null
  | .boolean b => some (boolean b)
  | .number n => some (number n)
  | .text s => some (text s)
  | .sequence items => (ofNodes? items).map array
  | .mapping members => (ofMembers? members).map (object ∘ sortMembers)
  | .symbol _ => none
  | .unreadable => none

/-- The values of the items. -/
def ofNodes? : List Node → Option (List Value)
  | [] => some []
  | item :: rest =>
    match ofNode? item with
    | none => none
    | some value => (ofNodes? rest).map (value :: ·)

/-- The values of the members. -/
def ofMembers? : List (String × Node) → Option (List (String × Value))
  | [] => some []
  | (name, item) :: rest =>
    match ofNode? item with
    | none => none
    | some value => (ofMembers? rest).map ((name, value) :: ·)

end

/-- The value that a text spells. -/
def ofText? (s : String) : Option Value :=
  (readText? s).bind ofNode?

/-- The value that the bytes of a message spell. -/
def ofBytes? (bs : List UInt8) : Option Value :=
  (readBytes? bs).bind ofNode?

/-- The member of an object under a name. -/
def member? (name : String) : Value → Option Value
  | object members => members.lookup name
  | _ => none

/-- Whether the value is an object. -/
def isObject : Value → Bool
  | object _ => true
  | _ => false

/-- An array of texts. -/
def texts (items : List String) : Value :=
  array (items.map text)

/-- An integer as a value. -/
def natural (n : Nat) : Value :=
  number (.integer n)

end Value

end PolicyGateway.Json
