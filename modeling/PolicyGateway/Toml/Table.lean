import PolicyGateway.Record.Node

/-!
# TOML tables under construction

A TOML text builds its tables piece by piece: headers open them, dotted keys
open tables inside the open one, and the path of a header implies tables
that have no header yet. What may still be added to a table depends on how
it came about, so every table remembers that.

- A **headed** table has its header, or is an element of an array of
  tables, and cannot get another one.
- An **implied** table may still get its header. It then moves to the end of
  the table that holds it.
- A **dotted** table may be extended by dotted keys, but gets no header.

Values that were written in one place, inline tables among them, are closed.
-/

namespace PolicyGateway.Toml

open PolicyGateway.Record

/-- **How a table came about.** It decides whether the table may be added to
later. -/
inductive Origin where
  /-- By a header. -/
  | headed
  /-- By the path of a header. -/
  | implied
  /-- By a dotted key. -/
  | dotted
  deriving Repr, DecidableEq

/-- **What stands under a key**, while tables are built. A value is closed once
it is written, and a table is not. -/
inductive Item where
  /-- A closed value. -/
  | closed (node : Node)
  /-- A table. -/
  | table (origin : Origin) (members : List (String × Item))
  /-- An array of tables, the latest in front. -/
  | tables (latest : List (List (String × Item)))
  deriving Inhabited

/-- The members of a table under construction. -/
abbrev Members := List (String × Item)

namespace Members

/-- The members with another item under a key that is there. -/
def replace (members : Members) (key : String) (item : Item) : Members :=
  members.map fun (name, kept) =>
    if name = key then (name, item) else (name, kept)

/-- The members without a key. -/
def remove (members : Members) (key : String) : Members :=
  members.filter fun (name, _) => name ≠ key

/-- **Change the table at the end of a path**, and open the tables on the
way that are not there. Along a dotted key no table with a header may be
entered, an element of an array excepted. -/
def change (dotted : Bool)
    (act : Origin → Members → Option Members) :
    List String → Origin → Members → Option Members
  | [], origin, members => act origin members
  | key :: path, _, members =>
    match members.lookup key with
    | none =>
      let origin := if dotted then .dotted else .implied
      (change dotted act path origin []).map fun inner =>
        members ++ [(key, .table origin inner)]
    | some (.closed _) => none
    | some (.table origin inner) =>
      if dotted ∧ origin = .headed then none
      else
        (change dotted act path origin inner).map fun inner =>
          replace members key (.table origin inner)
    | some (.tables []) => none
    | some (.tables (inner :: earlier)) =>
      (change dotted act path .headed inner).map fun inner =>
        replace members key (.tables (inner :: earlier))

/-- **Add a value** under the last key of a dotted key, inside the table
that the other keys lead to. A table that the keys lead to has to stem from
dotted keys as well. -/
def addValue (path : List String) (key : String) (node : Node)
    (origin : Origin) (members : Members) : Option Members :=
  change true (fun origin inner =>
    if path ≠ [] ∧ origin ≠ .dotted then none
    else if (inner.lookup key).isSome then none
    else some (inner ++ [(key, .closed node)])) path origin members

/-- **Open a table by its header.** -/
def openTable (path : List String) (key : String) (members : Members) :
    Option Members :=
  change false (fun _ inner =>
    match inner.lookup key with
    | none => some (inner ++ [(key, .table .headed [])])
    | some (.table .implied opened) =>
      some (remove inner key ++ [(key, .table .headed opened)])
    | some _ => none) path .headed members

/-- **Open an element of an array of tables by its header.** -/
def openElement (path : List String) (key : String) (members : Members) :
    Option Members :=
  change false (fun _ inner =>
    match inner.lookup key with
    | none => some (inner ++ [(key, .tables [[]])])
    | some (.tables latest) =>
      some (replace inner key (.tables ([] :: latest)))
    | some _ => none) path .headed members

end Members

namespace Item

mutual

/-- **The node of an item** once all of it is built. -/
def node : Item → Node
  | closed node => node
  | table _ members => .mapping (memberNodes members)
  | tables latest => .sequence (tableNodes latest [])

/-- The nodes of the members of a table. -/
def memberNodes : List (String × Item) → List (String × Node)
  | [] => []
  | (key, item) :: rest => (key, item.node) :: memberNodes rest

/-- The nodes of the elements of an array, from the latest back, in front
of those of later ones. -/
def tableNodes : List (List (String × Item)) → List Node → List Node
  | [], later => later
  | members :: earlier, later =>
    tableNodes earlier (.mapping (memberNodes members) :: later)

end

end Item

end PolicyGateway.Toml
