import PolicyGateway.Record.Node
import PolicyGateway.Record.OrderedMap

/-!
# Reading records

A record has named fields, and every one of them may be missing: it then
keeps its default. A record is written as a mapping, where unknown names do
not count and a known name may stand only once, or as a sequence of its
fields in their declared order, as many as one likes to give.

`Fields.ofNode?` finds the nodes of the declared fields. A reader of a
record then asks for one field after the other, and fails as soon as a field
is there and has the wrong shape. No shape is ever converted into another.
-/

namespace PolicyGateway.Record

/-- **The formats of documents.** They differ in what may stand for a number or
a symbol, and hardly in anything else. -/
inductive Format where
  /-- JSON. -/
  | json
  /-- TOML. -/
  | toml
  deriving Repr, DecidableEq

namespace Node

/-- The text of a node. -/
def asText? : Node → Option String
  | text s => some s
  | _ => none

/-- The truth value of a node. -/
def asBoolean? : Node → Option Bool
  | boolean b => some b
  | _ => none

/-- The natural number of a node, at most `greatest`. -/
def asNatural? (greatest : Nat) : Node → Option Nat
  | number (.integer n) =>
    if 0 ≤ n ∧ n ≤ greatest then some n.toNat else none
  | _ => none

/-- A node that may be null, where null stands for no value. -/
def asOptional? {α : Type} (read : Node → Option α) : Node → Option (Option α)
  | null => some none
  | node => (read node).map some

/-- The items of a sequence. -/
def asList? {α : Type} (read : Node → Option α) : Node → Option (List α)
  | sequence items => items.mapM read
  | _ => none

/-- **The members of a mapping as an ordered map.** A name that is given
again replaces the value and keeps its first place. -/
def asMap? {α : Type} (read : Node → Option α) :
    Node → Option (OrderedMap α)
  | mapping members =>
    (members.mapM fun (member : String × Node) =>
      (read member.2).map (member.1, ·)).map OrderedMap.ofList
  | _ => none

end Node

/-- **The nodes of a record's fields**, under their names. A name that is not
among them was not given, which is not the same as null. -/
structure Fields where
  /-- The fields that are given. -/
  given : List (String × Node)

namespace Fields

/-- Whether no name occurs twice. -/
def areDistinct : List String → Bool
  | [] => true
  | name :: rest => !rest.contains name && areDistinct rest

/-- The declared fields among the members of a mapping, none of them
twice. -/
def ofMembers? (names : List String) (members : List (String × Node)) :
    Option Fields :=
  let known := members.filter fun (name, _) => names.contains name
  if areDistinct (known.map Prod.fst) then some ⟨known⟩ else none

/-- **The fields of a record** with these declared names. A JSON sequence
may not hold more items than the record has fields; of a TOML array the
items beyond them do not count. -/
def ofNode? (format : Format) (names : List String) : Node → Option Fields
  | .mapping members => ofMembers? names members
  | .sequence items =>
    if items.length ≤ names.length ∨ format = .toml then
      some ⟨names.zip items⟩
    else none
  | _ => none

/-- **The fields of a section**: a record that is always a mapping and
whose unknown members have to be readable all the same. -/
def ofSection? (names : List String) : Node → Option Fields
  | .mapping members =>
    if members.all fun (name, node) => names.contains name || node.isReadable
    then ofMembers? names members
    else none
  | _ => none

/-- **The value of a field**, or its default where it is not given. -/
def get? {α : Type} (fields : Fields) (name : String)
    (read : Node → Option α) (absent : α) : Option α :=
  match fields.given.lookup name with
  | none => some absent
  | some node => read node

end Fields

end PolicyGateway.Record
