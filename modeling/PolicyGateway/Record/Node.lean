import PolicyGateway.Number

/-!
# Documents

Settings, callers and answers arrive as documents in one of two formats.
Whatever the format, a document is a tree of scalars, sequences and
mappings, and that tree is all that the readers of records look at.

A part that keeps to the format but has no value – a number beyond all
range, half a surrogate pair, a nesting too deep to follow – is
**unreadable**. It spoils what is read from it and nothing else, so an
unknown field may hold it without harm.

A mapping keeps its members in the order of the document and keeps
repeated names, since whether a repetition is an error depends on what the
mapping is read as.
-/

namespace PolicyGateway.Record

/-- **A document**, or a part of one. It is what both formats have in common;
records are read from it, whichever format they were written in. -/
inductive Node where
  /-- The null value. -/
  | null
  /-- A truth value. -/
  | boolean (b : Bool)
  /-- A number. -/
  | number (n : Number)
  /-- A text. -/
  | text (s : String)
  /-- A scalar beyond these, such as an infinity, by its name. -/
  | symbol (name : String)
  /-- A sequence of nodes. -/
  | sequence (items : List Node)
  /-- Members under names, in order. -/
  | mapping (members : List (String × Node))
  /-- A part that has no value. -/
  | unreadable
  deriving Inhabited, Repr

namespace Node

mutual

/-- **Whether every part of a node has a value.** -/
def isReadable : Node → Bool
  | unreadable => false
  | sequence items => areReadable items
  | mapping members => membersReadable members
  | null | boolean _ | number _ | text _ | symbol _ => true

/-- Whether every item has a value. -/
def areReadable : List Node → Bool
  | [] => true
  | item :: rest => item.isReadable && areReadable rest

/-- Whether every member has a value. -/
def membersReadable : List (String × Node) → Bool
  | [] => true
  | (_, item) :: rest => item.isReadable && membersReadable rest

end

end Node

end PolicyGateway.Record
