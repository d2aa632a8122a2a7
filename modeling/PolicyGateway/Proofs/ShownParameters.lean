import Mathlib.Data.List.Forall2
import PolicyGateway.Json.Printer
import PolicyGateway.Proofs.QueryWeight
import PolicyGateway.Proofs.RuleSelection

/-!
# The parameters that are shown of a query

The parameters of a query are shown as an object. A key that appears once has its
value there, and any other key all its values, so that the object has to be read
together with the rule which of the two it is. Read in this way it says of each key
which values it has, as often as it has them and in their order, and nothing of any
key that does not appear.

The parameters are what the pieces between ampersands say (`Says`), those of nothing
left out. Their values are collected one parameter after the other. `Collects` is what
each step keeps: the keys stand in the order of their first appearance, and under each
of them are its values so far. `Query.toJson_shows` is what comes of it, for every
query.

**Why multiplicities count.** A key that is given twice is where two readers
part: one goes by the first value and one by the last. If the policy server were
shown only one of them, the backend service could act on the other. So both are
shown, and the server has to decide about a request that has both.
-/

namespace PolicyGateway.Query

open PolicyGateway.Json (Value)
open PolicyGateway.Record (OrderedMap)
open PolicyGateway.Route (foldl_invariant)

/-! ## Reading

A query is cut at its ampersands, and each piece at its first equals sign.
Percent signs are resolved only then, so that an encoded ampersand is a
character of a value. -/

/-- **What a piece of a query says**: a key, and behind the first equals sign its
value. -/
inductive Says : List Char → String × String → Prop
  /-- There is an equals sign behind the key. -/
  | keyed {key : List Char} (value : List Char) (unmarked : '=' ∉ key) :
      Says (key ++ '=' :: value) (decode key, decode value)
  /-- There is none. -/
  | bare {key : List Char} (unmarked : '=' ∉ key) : Says key (decode key, "")

theorem says_pair (piece : List Char) : Says piece (pair piece) := by
  rcases exists_key piece with hbare | ⟨key, value, rfl, hkey⟩
  · rw [pair_of_not_mem hbare]
    exact .bare hbare
  · rw [pair_append_cons hkey]
    exact .keyed value hkey

/-- **The parameters of a query** are what its pieces say, those of nothing left
out. -/
theorem forall₂_says_pairs (query : String) :
    List.Forall₂ Says ((query.toList.splitOn '&').filter (!·.isEmpty))
      (pairs query) :=
  List.forall₂_map_right_iff.2 (List.forall₂_same.2 fun piece _ => says_pair piece)

/-! ## Collecting

Grouping goes through the parameters once, with the groups so far. The invariant
says of these that they are what one would have by going through all parameters
again for each key. -/

/-- **The values of a key** among parameters, in their order. Keys are compared
once they are decoded. -/
def valuesOf (key : String) (parameters : List (String × String)) :
    List String :=
  (parameters.filter (·.1 == key)).map Prod.snd

theorem valuesOf_concat (key : String) (parameters : List (String × String))
    (parameter : String × String) :
    valuesOf key (parameters ++ [parameter])
      = if key = parameter.1 then valuesOf key parameters ++ [parameter.2]
        else valuesOf key parameters := by
  unfold valuesOf
  rw [List.filter_append, List.map_append, List.filter_cons, List.filter_nil]
  by_cases h : key = parameter.1
  · rw [if_pos h, if_pos (beq_iff_eq.2 h.symm)]
    rfl
  · rw [if_neg h, if_neg fun he => h (beq_iff_eq.1 he).symm]
    exact List.append_nil _

/-- A key has values exactly if it appears. -/
theorem valuesOf_ne_nil_iff {key : String}
    {parameters : List (String × String)} :
    valuesOf key parameters ≠ [] ↔ key ∈ parameters.map Prod.fst := by
  unfold valuesOf
  rw [ne_eq, List.map_eq_nil_iff, List.filter_eq_nil_iff, List.mem_map]
  simp only [beq_iff_eq, Classical.not_forall, Classical.not_not, exists_prop]

/-- **What is collected from parameters**: the keys in the order in which they first
appear, and under each of them its values. -/
structure Collects (parameters : List (String × String))
    (groups : OrderedMap (List String)) : Prop where
  /-- The keys, each at its first appearance. -/
  names : groups.names = (parameters.map Prod.fst).eraseDups
  /-- The values under each key. -/
  values : ∀ key, (groups.find? key).getD [] = valuesOf key parameters

namespace Collects

theorem empty : Collects [] .empty := ⟨rfl, fun _ => rfl⟩

/-- One parameter more comes to the values of its key, and its key comes last if it
did not appear before. -/
theorem collect {parameters : List (String × String)}
    {groups : OrderedMap (List String)} (h : Collects parameters groups)
    (parameter : String × String) :
    Collects (parameters ++ [parameter]) (Query.collect groups parameter) where
  names := by
    unfold Query.collect
    rw [OrderedMap.names_insert, h.names, List.map_append, List.map_singleton,
      List.eraseDups_append]
    unfold List.removeAll
    rw [List.filter_cons, List.filter_nil]
    -- a key that has appeared keeps its place
    by_cases hmem : parameter.1 ∈ parameters.map Prod.fst
    · rw [if_pos (List.mem_eraseDups.2 hmem), if_neg (by simpa using hmem)]
      exact (List.append_nil _).symm
    · rw [if_neg (mt List.mem_eraseDups.1 hmem), if_pos (by simpa using hmem)]
      rfl
  values := by
    intro key
    unfold Query.collect
    rw [OrderedMap.find?_insert, valuesOf_concat, ← h.values key]
    split
    · next heq =>
      rw [heq]
      rfl
    · rfl

variable {parameters : List (String × String)}
  {groups : OrderedMap (List String)}

/-- **Values stand under a key** exactly if they are its values, and there are
any. -/
theorem mem_entries_iff (h : Collects parameters groups) {key : String}
    {values : List String} :
    (key, values) ∈ groups.entries ↔
      values = valuesOf key parameters ∧ values ≠ [] := by
  rw [← OrderedMap.find?_eq_some_iff]
  constructor
  · intro hfind
    have hvalues := h.values key
    rw [hfind] at hvalues
    -- a key that is there has appeared
    have hmem : key ∈ groups.names :=
      List.mem_map.2 ⟨_, OrderedMap.find?_eq_some_iff.1 hfind, rfl⟩
    rw [h.names, List.mem_eraseDups, ← valuesOf_ne_nil_iff, ← hvalues] at hmem
    exact ⟨hvalues, hmem⟩
  · rintro ⟨rfl, hne⟩
    rw [← h.values key] at hne ⊢
    cases hfind : groups.find? key with
    | none =>
      rw [hfind] at hne
      exact absurd rfl hne
    | some values => rfl

end Collects

/-- **The parameters of a query are collected.** -/
theorem collects_grouped (query : String) :
    Collects (pairs query) (grouped query) :=
  foldl_invariant (motive := Collects) (fun _ _ item h => h.collect item)
    (pairs query) [] .empty .empty

/-! ## Showing

A single value is shown as a text and several are shown as an array. So a text
under a key stands for a list of one, and no list of one is ever shown as an
array; without this a reader could not tell them apart. -/

/-- **How the values of a key are shown.** -/
inductive ShownAs : List String → Value → Prop
  /-- A single one as it is. -/
  | single (value : String) : ShownAs [value] (.text value)
  /-- Several in a row. -/
  | several {values : List String} (two_le : 2 ≤ values.length) :
      ShownAs values (.texts values)

/-- Values are shown by what they are made into, and only if there are any. -/
theorem shownAs_iff {values : List String} {shown : Value} :
    ShownAs values shown ↔ values ≠ [] ∧ shown = valuesJson values := by
  constructor
  · rintro (value | ⟨two_le⟩)
    · exact ⟨List.cons_ne_nil _ _, rfl⟩
    · match values, two_le with
      | first :: second :: rest, _ => exact ⟨List.cons_ne_nil _ _, rfl⟩
  · rintro ⟨hne, rfl⟩
    match values, hne with
    | [value], _ => exact .single value
    | first :: second :: rest, _ =>
      exact .several (Nat.succ_le_succ (Nat.succ_le_succ (Nat.zero_le _)))

/-- **An object shows parameters**: each key that appears, at the place of its
first appearance, with its values, and no other. The first parts say which keys
there are, and the last two what they are said to have. -/
structure Shows (parameters : List (String × String))
    (members : List (String × Value)) : Prop where
  /-- The keys, each at its first appearance. -/
  keys : members.map Prod.fst = (parameters.map Prod.fst).eraseDups
  /-- Each key stands there once. -/
  distinct : (members.map Prod.fst).Nodup
  /-- What stands under a key shows its values: a single one as it is, several in a
  row, and none not at all. -/
  mem_iff : ∀ key shown,
    (key, shown) ∈ members ↔ ShownAs (valuesOf key parameters) shown
  /-- Each key is said to have the values that it has. -/
  values : ∀ key,
    ((members.lookup key).map textsOf).getD [] = valuesOf key parameters

/-- Under its key, what shows values stands for them. -/
theorem lookup_shown (key : String) (entries : List (String × List String)) :
    ((entries.map fun entry => (entry.1, valuesJson entry.2)).lookup key).map
        textsOf
      = entries.lookup key := by
  induction entries with
  | nil => rfl
  | cons entry rest ih =>
    rw [List.map_cons, List.lookup_cons, List.lookup_cons]
    split
    · exact congrArg some (textsOf_valuesJson entry.2)
    · exact ih

/-- What is collected from parameters shows them. -/
theorem Collects.shows {parameters : List (String × String)}
    {groups : OrderedMap (List String)} (h : Collects parameters groups) :
    Shows parameters
      (groups.entries.map fun entry => (entry.1, valuesJson entry.2)) := by
  have hkeys : (groups.entries.map fun entry =>
      (entry.1, valuesJson entry.2)).map Prod.fst = groups.names := by
    rw [List.map_map]
    rfl
  refine ⟨hkeys.trans h.names, hkeys ▸ groups.distinct, fun key shown => ?_,
    fun key => ?_⟩
  · rw [List.mem_map, shownAs_iff]
    constructor
    · rintro ⟨⟨other, values⟩, hmem, ⟨⟩⟩
      obtain ⟨rfl, hne⟩ := h.mem_entries_iff.1 hmem
      exact ⟨hne, rfl⟩
    · rintro ⟨hne, rfl⟩
      exact ⟨_, h.mem_entries_iff.2 ⟨rfl, hne⟩, rfl⟩
  · rw [← h.values key]
    exact congrArg (·.getD []) (lookup_shown key groups.entries)

/-- **No parameter is lost or invented.** What is shown of a query is an object that
shows its parameters, and these are what its pieces say. -/
theorem toJson_shows (query : String) :
    List.Forall₂ Says ((query.toList.splitOn '&').filter (!·.isEmpty))
        (pairs query) ∧
      ∃ members, toJson query = .object members ∧ Shows (pairs query) members :=
  ⟨forall₂_says_pairs query, _, rfl, (collects_grouped query).shows⟩

/-- Keys are compared as they are read, and an empty one is a key like any other. -/
example : (toJson "tag=a&=&%74ag=b+c&tag").toText
    = "\x7b\"tag\":[\"a\",\"b c\",\"\"],\"\":\"\"\x7d" := by
  decide +kernel

end PolicyGateway.Query
