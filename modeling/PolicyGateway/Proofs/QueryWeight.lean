import PolicyGateway.Proofs.PercentCoding
import PolicyGateway.Proofs.Utf8Reading
import PolicyGateway.Query

/-!
# What the parameters of a query weigh

A parameter weighs as much as the characters of its key and of its value, and
one more, and a query as much as its parameters. Grouping the parameters by
their keys keeps the weight, so it can be read off what a policy server is
shown (`weightOf_toJson`).

Text in front of a query that a mark parts from it makes the query heavier
(`weight_lt`). It may do so in every way: by a longer key or value of the first
parameter, by an equals sign that turns its key into a value, by parameters of
its own. But it never makes up for what it adds, and so no query shows the same
with and without it.

**Why a measure.** A policy server is shown the parameters of a query, and the
question is whether text that gets in front of the query can go unnoticed. The
text may do many things to the first parameter. To follow each of them would be
to ask of every pair of texts whether they happen to agree. With a number that
only grows there is nothing to follow: what is heavier is not the same.
-/

namespace PolicyGateway.Query

open PolicyGateway.Json (Value)
open PolicyGateway.Record (OrderedMap)
open PolicyGateway.Text (IsMark)

/-! ## Weights

The weight is that of what is shown, and it can be read off the JSON value. How
the parameters are grouped does not matter, since grouping only moves them. -/

/-- The weight of one parameter. The one more is for a parameter with an empty
key and an empty value, which is shown all the same. -/
def weighs (key value : String) : Nat :=
  key.length + value.length + 1

/-- **The weight of parameters.** It does not depend on their order. -/
def weight (parameters : List (String × String)) : Nat :=
  parameters.foldr (fun p total => weighs p.1 p.2 + total) 0

theorem weight_cons (p : String × String) (rest : List (String × String)) :
    weight (p :: rest) = weighs p.1 p.2 + weight rest :=
  rfl

theorem weight_append (before behind : List (String × String)) :
    weight (before ++ behind) = weight before + weight behind := by
  induction before with
  | nil => exact (Nat.zero_add _).symm
  | cons p rest ih =>
    rw [List.cons_append, weight_cons, weight_cons, ih, Nat.add_assoc]

/-- The parameters that values under their keys stand for. -/
def spread (entries : List (String × List String)) :
    List (String × String) :=
  entries.flatMap fun p => p.2.map (Prod.mk p.1)

theorem weight_spread_cons (p : String × List String)
    (rest : List (String × List String)) :
    weight (spread (p :: rest))
      = weight (p.2.map (Prod.mk p.1)) + weight (spread rest) := by
  unfold spread
  rw [List.flatMap_cons, weight_append]

/-- The texts that a JSON value holds at its top. -/
def textsOf : Value → List String
  | .text s => [s]
  | .array values => values.flatMap fun
    | .text s => [s]
    | _ => []
  | _ => []

/-- **The weight that an object of parameters shows.** It is read off what the
policy server gets, without the query. -/
def weightOf : Value → Nat
  | .object members =>
    weight (spread (members.map fun p => (p.1, textsOf p.2)))
  | _ => 0

/-- One value more under a key. -/
theorem weight_spread_put (key value : String)
    (entries : List (String × List String)) :
    weight (spread (OrderedMap.put key
        ((entries.lookup key).getD [] ++ [value]) entries))
      = weight (spread entries) + weighs key value := by
  induction entries with
  | nil => exact Nat.add_comm _ _
  | cons p rest ih =>
    obtain ⟨other, values⟩ := p
    unfold OrderedMap.put
    -- under its key there is a value more, and every other one stays
    by_cases hkey : other = key
    · subst hkey
      rw [if_pos rfl, List.lookup_cons_self, weight_spread_cons,
        weight_spread_cons, Option.getD_some, List.map_append, weight_append]
      show weight (values.map (Prod.mk other)) + weighs other value
        + weight (spread rest) = _
      exact Nat.add_right_comm _ _ _
    · rw [if_neg hkey, List.lookup_cons, beq_eq_false_iff_ne.2 (Ne.symm hkey),
        weight_spread_cons, weight_spread_cons, Nat.add_assoc]
      exact congrArg (_ + ·) ih

/-- **Grouping keeps the weight.** It holds for whatever has been grouped so
far, which the induction needs. -/
theorem weight_spread_foldl (parameters : List (String × String))
    (groups : OrderedMap (List String)) :
    weight (spread (parameters.foldl collect groups).entries)
      = weight (spread groups.entries) + weight parameters := by
  induction parameters generalizing groups with
  | nil => rfl
  | cons p rest ih =>
    rw [List.foldl_cons, ih, weight_cons, ← Nat.add_assoc]
    exact congrArg (· + weight rest)
      (weight_spread_put p.1 p.2 groups.entries)

theorem textsOf_valuesJson (values : List String) :
    textsOf (valuesJson values) = values := by
  unfold valuesJson
  split
  · rfl
  · show (values.map Value.text).flatMap _ = values
    rw [List.flatMap_map]
    exact List.flatMap_singleton' values

/-- **What is shown of a query has its weight.** -/
theorem weightOf_toJson (query : String) :
    weightOf (toJson query) = weight (pairs query) := by
  have hshown : weightOf (toJson query)
      = weight (spread (grouped query).entries) := by
    unfold toJson weightOf
    dsimp only
    rw [List.map_map]
    refine congrArg (weight <| spread ·) (List.map_id'' (fun p => ?_) _)
    exact congrArg (Prod.mk p.1) (textsOf_valuesJson p.2)
  rw [hshown]
  unfold grouped
  rw [weight_spread_foldl]
  exact Nat.zero_add _

/-! ## Text in front of a query

The mark that parts the text from the query is itself a character of the first
parameter, and it adds at least one to what that parameter says. So it is enough
to look at this parameter; those behind it stay as they are, and any in front of
it only add. -/

/-- **A character that stands for itself** in a query, whatever stands around
it. -/
structure IsPlain (c : Char) : Prop extends IsMark c where
  /-- It is no blank. -/
  plus : c ≠ '+'
  /-- It ends no key. -/
  equals : c ≠ '='
  /-- It ends no parameter. -/
  ampersand : c ≠ '&'

/-- What a mark parts is decoded apart. -/
theorem length_decode_append_cons {mark : Char} (h : IsMark mark)
    (hplus : mark ≠ '+') (cs ds : List Char) :
    (decode (cs ++ mark :: ds)).length
      = (decode cs).length + 1 + (decode ds).length := by
  have hlow : (UInt8.ofNat mark.toNat).toNat < 0x80 := by
    rw [h.toNat_ofNat]
    exact h.ascii
  have hblank : plusToBlank (UInt8.ofNat mark.toNat)
      = UInt8.ofNat mark.toNat := by
    refine if_neg fun heq => hplus ?_
    have hnat : mark.toNat = 0x2b := by
      rw [← h.toNat_ofNat, heq]
      rfl
    rw [← Char.ofNat_toNat mark, hnat]
  unfold decode
  rw [String.length_ofList, String.length_ofList, String.length_ofList,
    h.encode_append_cons, List.map_append, List.map_cons, hblank,
    Text.percentDecode_append_cons h.ofNat_ne_percent h.hexByte?_ofNat,
    Text.Utf8.decodeLossy_append_cons hlow, List.length_append,
    List.length_cons]
  omega

/-- The weight of a parameter as it is written. -/
def writtenWeight (piece : List Char) : Nat :=
  if piece.isEmpty then 0 else weighs (pair piece).1 (pair piece).2

/-- The weight of the pieces of a query. -/
def piecesWeight (pieces : List (List Char)) : Nat :=
  weight ((pieces.filter (!·.isEmpty)).map pair)

theorem weight_pairs (query : String) :
    weight (pairs query) = piecesWeight (query.toList.splitOn '&') :=
  rfl

theorem piecesWeight_append (before behind : List (List Char)) :
    piecesWeight (before ++ behind)
      = piecesWeight before + piecesWeight behind := by
  unfold piecesWeight
  rw [List.filter_append, List.map_append, weight_append]

theorem piecesWeight_cons (piece : List Char) (rest : List (List Char)) :
    piecesWeight (piece :: rest) = writtenWeight piece + piecesWeight rest := by
  unfold piecesWeight writtenWeight
  rw [List.filter_cons]
  cases hpiece : piece.isEmpty with
  | true => exact (Nat.zero_add _).symm
  | false => rfl

/-- An equals sign in front of a text makes it a value. -/
theorem pair_append_cons {key : List Char} (h : '=' ∉ key)
    (value : List Char) :
    pair (key ++ '=' :: value) = (decode key, decode value) := by
  have hcut : Text.cutFirst '=' (key ++ '=' :: value) = some (key, value) := by
    induction key with
    | nil => rfl
    | cons c rest ih =>
      rw [List.mem_cons, not_or] at h
      rw [List.cons_append, Text.cutFirst, if_neg (Ne.symm h.1), ih h.2]
      rfl
  unfold pair
  rw [hcut]

/-- A text without an equals sign is a key. -/
theorem pair_of_not_mem {key : List Char} (h : '=' ∉ key) :
    pair key = (decode key, "") := by
  have hcut : Text.cutFirst '=' key = none := by
    induction key with
    | nil => rfl
    | cons c rest ih =>
      rw [List.mem_cons, not_or] at h
      rw [Text.cutFirst, if_neg (Ne.symm h.1), ih h.2]
      rfl
  unfold pair
  rw [hcut]

/-- A text is a key, or a key and a value around its first equals sign. -/
theorem exists_key (cs : List Char) :
    '=' ∉ cs ∨ ∃ key value, cs = key ++ '=' :: value ∧ '=' ∉ key := by
  by_cases h : '=' ∈ cs
  · exact .inr (List.eq_append_cons_of_mem h)
  · exact .inl h

theorem writtenWeight_of_ne_nil {piece : List Char} (h : piece ≠ []) :
    writtenWeight piece = weighs (pair piece).1 (pair piece).2 :=
  if_neg (by simpa using h)

/-- What a parameter says is at least its key and its value. -/
theorem writtenWeight_le (piece : List Char) :
    writtenWeight piece ≤ (decode piece).length + 1 := by
  by_cases hnil : piece = []
  · subst hnil
    exact Nat.zero_le _
  · rw [writtenWeight_of_ne_nil hnil]
    rcases exists_key piece with hkey | ⟨key, value, rfl, hkey⟩
    · rw [pair_of_not_mem hkey]
      exact Nat.le_refl _
    · rw [pair_append_cons hkey,
        length_decode_append_cons ⟨by decide, by decide, by decide⟩ (by decide)]
      unfold weighs
      dsimp only
      omega

/-- **A parameter behind other text is heavier**, whatever the text makes of
it. -/
theorem writtenWeight_lt {mark : Char} (h : IsPlain mark)
    (text piece : List Char) :
    writtenWeight piece < writtenWeight (text ++ mark :: piece) := by
  have hlen (cs ds : List Char) :=
    length_decode_append_cons h.toIsMark h.plus cs ds
  have hne : text ++ mark :: piece ≠ [] := by simp
  rw [writtenWeight_of_ne_nil hne]
  -- the first equals sign may be in the text, in the piece, or in neither
  rcases exists_key text with htext | ⟨key, value, rfl, hkey⟩
  · rcases exists_key piece with hpiece | ⟨key, value, rfl, hkey⟩
    · have hall : '=' ∉ text ++ mark :: piece := by
        rw [List.mem_append, List.mem_cons, not_or, not_or]
        exact ⟨htext, h.equals.symm, hpiece⟩
      have hle := writtenWeight_le piece
      rw [pair_of_not_mem hall]
      unfold weighs
      dsimp only
      rw [hlen]
      omega
    · have hall : '=' ∉ text ++ mark :: key := by
        rw [List.mem_append, List.mem_cons, not_or, not_or]
        exact ⟨htext, h.equals.symm, hkey⟩
      rw [writtenWeight_of_ne_nil (by simp), pair_append_cons hkey,
        show text ++ mark :: (key ++ '=' :: value)
          = (text ++ mark :: key) ++ '=' :: value by simp,
        pair_append_cons hall]
      unfold weighs
      dsimp only
      rw [hlen]
      omega
  · have hle := writtenWeight_le piece
    rw [show key ++ '=' :: value ++ mark :: piece
        = key ++ '=' :: (value ++ mark :: piece) by simp,
      pair_append_cons hkey]
    unfold weighs
    dsimp only
    rw [hlen]
    omega

/-- Where two texts meet, a piece of each makes one. -/
theorem splitOn_append (mark : Char) (cs : List Char) :
    ∃ before last, ∀ first rest ds, ds.splitOn mark = first :: rest →
      (cs ++ ds).splitOn mark = before ++ (last ++ first) :: rest := by
  induction cs with
  | nil => exact ⟨[], [], fun first rest ds h => h⟩
  | cons c more ih =>
    obtain ⟨before, last, ih⟩ := ih
    by_cases hc : (c == mark) = true
    · refine ⟨[] :: before, last, fun first rest ds h => ?_⟩
      rw [List.cons_append, List.splitOn_cons_eq_if_modifyHead, if_pos hc,
        ih first rest ds h]
      rfl
    · cases before with
      | nil =>
        refine ⟨[], c :: last, fun first rest ds h => ?_⟩
        rw [List.cons_append, List.splitOn_cons_eq_if_modifyHead, if_neg hc,
          ih first rest ds h]
        rfl
      | cons piece before =>
        refine ⟨(c :: piece) :: before, last, fun first rest ds h => ?_⟩
        rw [List.cons_append, List.splitOn_cons_eq_if_modifyHead, if_neg hc,
          ih first rest ds h]
        rfl

/-- **A query behind other text is heavier.** -/
theorem weight_lt {mark : Char} (h : IsPlain mark) (text query : List Char) :
    weight (pairs (String.ofList query))
      < weight (pairs (String.ofList (text ++ mark :: query))) := by
  obtain ⟨first, rest, hquery⟩ :=
    List.exists_cons_of_ne_nil (List.splitOn_ne_nil '&' query)
  obtain ⟨before, last, happend⟩ := splitOn_append '&' text
  -- the mark ends no parameter, so it belongs to the first one of the query
  have hmark : (mark :: query).splitOn '&' = (mark :: first) :: rest := by
    rw [List.splitOn_cons_eq_if_modifyHead,
      if_neg (by simpa using h.ampersand), hquery]
    rfl
  have hlt := writtenWeight_lt h last first
  rw [weight_pairs, weight_pairs, String.toList_ofList, String.toList_ofList,
    hquery, happend _ _ _ hmark, piecesWeight_append, piecesWeight_cons,
    piecesWeight_cons]
  omega

/-- **Queries of different weight show different parameters.** The weight is a
function of what is shown. -/
theorem toJson_ne_of_weight_lt {query heavier : String}
    (h : weight (pairs query) < weight (pairs heavier)) :
    toJson heavier ≠ toJson query := by
  intro heq
  rw [← weightOf_toJson, ← weightOf_toJson, heq] at h
  exact Nat.lt_irrefl _ h

end PolicyGateway.Query
