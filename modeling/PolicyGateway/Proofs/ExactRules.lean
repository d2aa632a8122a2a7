import PolicyGateway.Proofs.PatternScores
import PolicyGateway.Proofs.RuleKeys
import PolicyGateway.Proofs.RuleOrder

/-!
# Where an exact rule comes first

A rule whose path pattern is the path itself is as specific as a rule can be. Its
score is a base and the length of the path in bytes; the score of every other
pattern is a sum over segments. So on a path of many short segments the sum may
be the higher one, and the table then answers with another rule, though an exact
one is there.

How high the sum can be is `greatestOther`: every segment of the path as it
stands, with `*` for one that would be read as a wildcard, and a `**` behind
them. No other pattern scores more (`exists_le_greatestOther`), and this one does
(`pathScore?_rival`). `exact_first_iff` says for which paths an exact rule comes
first, of the scores and of what tables answer. `asked_passed_over` is a
path for which it does not.

**Why this is looked for.** Whoever writes a rule for one path, word for word,
means this path, and expects no pattern to be preferred to it. The base of the
score is large enough for most paths to bear this out. But a sum has no bound,
while the base is what it is, so that it cannot be large enough for all. The
question is where it ends.
-/

namespace PolicyGateway.Route

/-! ## The closest other pattern

A literal is worth the most, so the best that another pattern can do is to
repeat the path as it stands and have a `**` behind it. Only a segment of the
path that is itself written like a `**` cannot be repeated, for it would end the
pattern; an asterisk takes its place. -/

/-- A segment of a path as a segment of a pattern that is no `**`. -/
def asPattern (segment : List Char) : List Char :=
  if segment = restText then oneText else segment

/-- **The greatest sum that another pattern can come to** on a path: ten for
each of its segments, two where the segment is written like a wildcard, and one.
The one that is added in the end is for the `**`, which keeps the pattern from
being the path itself. -/
def greatestOther (path : String) : Nat :=
  worthTo (segments path.toList).length
    ((segments path.toList).map asPattern) + 1

theorem greatestOther_eq {path : String} {parts : List (List Char)}
    (h : segments path.toList = parts) :
    greatestOther path = worthTo parts.length (parts.map asPattern) + 1 := by
  rw [← h]
  rfl

/-- The segments of a pattern that goes along with a path for so many segments,
and has a `**` there. -/
def rivalParts (count : Nat) (parts : List (List Char)) : List (List Char) :=
  (parts.take count).map asPattern ++ restText :: parts.drop count

/-- **A pattern that goes along with a path** for so many segments. Behind the
`**` it goes on with the rest of the path, which no longer counts. That it may
stop early is needed where the full sum is larger than a word. -/
def rival (count : Nat) (path : String) : String :=
  String.ofList ('/' :: ['/'].intercalate
    (rivalParts count (segments path.toList)))

theorem asPattern_ne_restText (segment : List Char) :
    asPattern segment ≠ restText := by
  unfold asPattern
  split
  · decide
  · next h => exact h

/-- It fits the segment. -/
theorem asPattern_agrees (segment : List Char) :
    asPattern segment = oneText ∨ asPattern segment = segment := by
  unfold asPattern
  split
  · exact .inl rfl
  · exact .inr rfl

/-- Nothing else that fits the segment is worth more. -/
theorem worth_le_asPattern {expected actual : List Char}
    (hrest : expected ≠ restText)
    (h : expected = oneText ∨ expected = actual) :
    worth expected ≤ worth (asPattern actual) := by
  rcases h with rfl | rfl
  · unfold worth
    rw [if_pos rfl]
    split <;> decide
  · have hkept : asPattern expected = expected := if_neg hrest
    exact Nat.le_of_eq (congrArg worth hkept.symm)

/-! ### Its score

The pattern is followed along the path: it fits segment by segment up to the
`**`, and there the sum is complete. -/

section Rival

variable {count : Nat} {parts : List (List Char)}

theorem length_map_take (h : count ≤ parts.length) :
    ((parts.take count).map asPattern).length = count := by
  rw [List.length_map, List.length_take_of_le h]

theorem length_rivalParts (h : count ≤ parts.length) :
    (rivalParts count parts).length = parts.length + 1 := by
  unfold rivalParts
  rw [List.length_append, length_map_take h, List.length_cons,
    List.length_drop]
  omega

theorem getElem?_rivalParts (h : count ≤ parts.length) {i : Nat}
    (hi : i < count) :
    (rivalParts count parts)[i]? = parts[i]?.map asPattern := by
  unfold rivalParts
  rw [List.getElem?_append_left (by rwa [length_map_take h]),
    List.getElem?_map, List.getElem?_take_of_lt hi]

theorem isFirstRest_rivalParts (h : count ≤ parts.length) :
    IsFirstRest count (rivalParts count parts) := by
  constructor
  · unfold rivalParts
    rw [List.getElem?_append_right (Nat.le_of_eq (length_map_take h)),
      length_map_take h, Nat.sub_self]
    rfl
  · intro i hi
    rw [getElem?_rivalParts h hi]
    intro heq
    obtain ⟨segment, -, hsegment⟩ := Option.map_eq_some_iff.1 heq
    exact asPattern_ne_restText segment hsegment

theorem fitsTo_rivalParts (h : count ≤ parts.length) :
    FitsTo count (rivalParts count parts) parts := by
  refine ⟨h, fun i hi => ?_⟩
  have hget := List.getElem?_eq_getElem (Nat.lt_of_lt_of_le hi h)
  rw [getElem?_rivalParts h hi, hget, Option.map_some, Option.some.injEq,
    Option.some.injEq]
  exact asPattern_agrees _

theorem worthTo_rivalParts (h : count ≤ parts.length) :
    worthTo count (rivalParts count parts)
      = worthTo count (parts.map asPattern) := by
  unfold worthTo rivalParts
  rw [List.take_left' (length_map_take h), List.map_take]

end Rival

theorem segments_rival (count : Nat) (path : String) :
    segments (rival count path).toList
      = rivalParts count (segments path.toList) := by
  have hparts : Parts path.toList (segments path.toList) := parts_iff.2 rfl
  unfold rival
  rw [String.toList_ofList, ← parts_iff]
  refine ⟨by simp [rivalParts], fun part hpart => ?_, rfl⟩
  rcases List.mem_append.1 hpart with hpart | hpart
  · obtain ⟨segment, hsegment, rfl⟩ := List.mem_map.1 hpart
    rcases asPattern_agrees segment with h | h
    · rw [h]
      decide
    · rw [h]
      exact hparts.slash segment (List.mem_of_mem_take hsegment)
  · rcases List.mem_cons.1 hpart with rfl | hpart
    · decide
    · exact hparts.slash part (List.mem_of_mem_drop hpart)

section Rival

variable {count : Nat} {path : String}
  (h : count ≤ (segments path.toList).length)
include h

/-- It is another pattern, since it has a segment more. -/
theorem rival_ne : rival count path ≠ path := by
  intro heq
  have hlength := length_rivalParts h
  rw [← segments_rival, heq] at hlength
  omega

/-- **It fits**, and scores by the segments that it goes along with. -/
theorem pathScore?_rival :
    pathScore? (rival count path) path
      = some (UInt32.ofNat
          (worthTo count ((segments path.toList).map asPattern) + 1)) := by
  rw [pathScore?_of_ne (rival_ne h), segments_rival,
    scoreFrom_of_isFirstRest (isFirstRest_rivalParts h), worthTo_rivalParts h]
  exact ⟨fitsTo_rivalParts h, rfl⟩

end Rival

/-! ## No other pattern scores more

Whatever fits the path segment by segment is worth no more than the path as a
pattern, in every place and so in the sum. A pattern without a `**` lacks the
one that is added for it; it has at least one wildcard, since otherwise it would
be the path. -/

/-- A segment more is worth no less, and ten at most. -/
theorem worthTo_step (count : Nat) (pattern : List (List Char)) :
    worthTo count pattern ≤ worthTo (count + 1) pattern ∧
      worthTo (count + 1) pattern ≤ worthTo count pattern + 10 := by
  have hlast : ((pattern[count]?.toList).map worth).sum ≤ 10 := by
    cases pattern[count]? with
    | none => decide
    | some expected => simpa using worth_le expected
  unfold worthTo
  rw [List.take_add_one, List.map_append, List.sum_append]
  omega

theorem worthTo_mono {count more : Nat} (h : count ≤ more)
    (pattern : List (List Char)) :
    worthTo count pattern ≤ worthTo more pattern := by
  induction h with
  | refl => exact Nat.le_refl _
  | step _ ih => exact Nat.le_trans ih (worthTo_step _ pattern).1

/-- **The sums leave out no ten numbers** in a row, up to the last one. No
segment is worth more than ten, so the sums go up in steps that small. -/
theorem exists_worthTo_near {goal count : Nat} {pattern : List (List Char)}
    (h : goal ≤ worthTo count pattern) :
    ∃ fewer ≤ count, goal ≤ worthTo fewer pattern ∧
      worthTo fewer pattern < goal + 10 := by
  induction count with
  | zero => exact ⟨0, Nat.le_refl 0, h, Nat.add_pos_right goal (by decide)⟩
  | succ count ih =>
    by_cases hbefore : goal ≤ worthTo count pattern
    · obtain ⟨fewer, hfewer, hnear⟩ := ih hbefore
      exact ⟨fewer, Nat.le_succ_of_le hfewer, hnear⟩
    · have := (worthTo_step count pattern).2
      exact ⟨count + 1, Nat.le_refl _, h, by omega⟩

/-- What fits a path is worth no more than the path as a pattern. -/
theorem worthTo_le_asPattern {count : Nat} {pattern path : List (List Char)}
    (hcount : count ≤ pattern.length)
    (hrest : ∀ i < count, pattern[i]? ≠ some restText)
    (h : FitsTo count pattern path) :
    worthTo count pattern ≤ worthTo count (path.map asPattern) := by
  -- along both at once, segment by segment
  induction count generalizing pattern path with
  | zero => exact Nat.le_refl 0
  | succ count ih =>
    cases pattern with
    | nil => cases hcount
    | cons expected pattern =>
      cases path with
      | nil => exact absurd h (not_fitsTo_nil count _)
      | cons actual path =>
        obtain ⟨hfirst, hlater⟩ := Nat.forall_lt_succ_left.1 hrest
        obtain ⟨hfits, hbehind⟩ := fitsTo_succ.1 h
        have hworth := worth_le_asPattern
          (fun he => hfirst (congrArg some he)) hfits
        have := ih (Nat.le_of_succ_le_succ hcount) hlater hbehind
        rw [List.map_cons, worthTo_succ, worthTo_succ]
        omega

/-- **No other pattern comes to more** than the greatest sum. -/
theorem exists_le_greatestOther {pattern path : String}
    (hne : pattern ≠ path) {score : Score}
    (h : pathScore? pattern path = some score) :
    ∃ total ≤ greatestOther path, score = UInt32.ofNat total := by
  rw [pathScore?_of_ne hne] at h
  have hbound : ∀ count ≤ (segments pattern.toList).length,
      (∀ i < count, (segments pattern.toList)[i]? ≠ some restText) →
      FitsTo count (segments pattern.toList) (segments path.toList) →
      worthTo count (segments pattern.toList) + 1 ≤ greatestOther path :=
    fun count hcount hrest hfits => Nat.succ_le_succ (Nat.le_trans
      (worthTo_le_asPattern hcount hrest hfits) (worthTo_mono hfits.1 _))
  -- a pattern without a `**` is one short of the greatest sum at least
  by_cases hrest : restText ∈ segments pattern.toList
  · obtain ⟨place, hplace⟩ := exists_isFirstRest hrest
    obtain ⟨hfits, rfl⟩ := (scoreFrom_of_isFirstRest hplace _ _).1 h
    have hlt := (List.getElem?_eq_some_iff.1 hplace.1).1
    exact ⟨_, hbound place (Nat.le_of_lt hlt) hplace.2 hfits, rfl⟩
  · obtain ⟨-, hfits, rfl⟩ := (scoreFrom_of_not_mem hrest _ _).1 h
    have hnone := hbound _ (Nat.le_refl _)
      (fun i _ hi => hrest (List.mem_of_getElem? hi)) hfits
    exact ⟨_, Nat.le_of_succ_le hnone, rfl⟩

/-! ## The score of the path itself

A base and a length, which stop at the greatest word instead of wrapping around.
So this score is never small for a path that is long, and only the sums have to
be looked at with care. -/

/-- **A path outscores** every other pattern that fits it. This is about all
patterns there could be, and not about those of one table. -/
def Outscores (path : String) : Prop :=
  ∀ pattern, pattern ≠ path → ∀ score,
    pathScore? pattern path = some score → score < verbatimScore path

/-- **A path outscores the others** if it is above the greatest sum. -/
theorem outscores_of_lt {path : String}
    (h : greatestOther path
      < min (1000 + path.utf8ByteSize) (2 ^ 32 - 1)) : Outscores path := by
  intro pattern hne score hscore
  obtain ⟨total, hle, rfl⟩ := exists_le_greatestOther hne hscore
  have htotal : (UInt32.ofNat total).toNat = total :=
    UInt32.toNat_ofNat_of_lt' (by
      rw [UInt32.size]
      omega)
  rw [UInt32.lt_iff_toNat_lt, htotal, toNat_verbatimScore]
  exact Nat.lt_of_le_of_lt hle h

/-- Every character has a byte of its own. -/
theorem length_le_utf8ByteSize (s : String) :
    s.toList.length ≤ s.utf8ByteSize := by
  have hpush : ∀ cs : List Char,
      cs.length ≤ (String.ofList cs).utf8ByteSize := by
    intro cs
    induction cs with
    | nil => exact Nat.zero_le _
    | cons c rest ih =>
      have hc := c.utf8Size_pos
      rw [String.ofList_cons, String.utf8ByteSize_append,
        String.utf8ByteSize_singleton, List.length_cons]
      omega
  have := hpush s.toList
  rwa [String.ofList_toList] at this

/-- **A path of at most 110 segments** is above the greatest sum, whatever they
are. -/
theorem greatestOther_lt {path : String}
    (h : (segments path.toList).length ≤ 110) :
    greatestOther path < min (1000 + path.utf8ByteSize) (2 ^ 32 - 1) := by
  have hparts : Parts path.toList (segments path.toList) := parts_iff.2 rfl
  have hlength := hparts.length_le
  have hbytes := length_le_utf8ByteSize path
  have hworth := worthTo_le (segments path.toList).length
    ((segments path.toList).map asPattern)
  unfold greatestOther
  omega

/-- **Otherwise there is a rival** that scores as much or more: where the
greatest sum is a score, the pattern that has it; where it would wrap around, one
with a sum just below that. -/
theorem exists_rival {path : String}
    (hfits : greatestOther path < 2 ^ 32 ∨ path.utf8ByteSize + 1010 ≤ 2 ^ 32)
    (h : min (1000 + path.utf8ByteSize) (2 ^ 32 - 1) ≤ greatestOther path) :
    ∃ count ≤ (segments path.toList).length,
      verbatimScore path ≤ UInt32.ofNat
        (worthTo count ((segments path.toList).map asPattern) + 1) := by
  obtain ⟨count, hcount, hsmall, hle⟩ :
      ∃ count ≤ (segments path.toList).length,
        worthTo count ((segments path.toList).map asPattern) + 1 < 2 ^ 32 ∧
        min (1000 + path.utf8ByteSize) (2 ^ 32 - 1)
          ≤ worthTo count ((segments path.toList).map asPattern) + 1 := by
    -- the sums go up by ten at most, so that one of them is among the ten
    -- numbers below the largest score; it does not wrap around
    by_cases hscore : greatestOther path < 2 ^ 32
    · exact ⟨_, Nat.le_refl _, hscore, h⟩
    · unfold greatestOther at hscore
      have hhigh : 2 ^ 32 - 11 ≤ worthTo (segments path.toList).length
          ((segments path.toList).map asPattern) := by omega
      obtain ⟨count, hcount, hnear⟩ := exists_worthTo_near hhigh
      have hshort := hfits.resolve_left hscore
      exact ⟨count, hcount, by omega, by omega⟩
  refine ⟨count, hcount, ?_⟩
  rw [UInt32.le_iff_toNat_le, toNat_verbatimScore,
    UInt32.toNat_ofNat_of_lt' hsmall]
  exact hle

/-! ## What tables answer

A rule admits methods too, and a table may have more than one exact rule for a
path; then it does not choose among them. What it should not do is to answer
with anything else. -/

namespace Table

variable {α : Type}

/-- **An exact rule** for a request admits its method, and its path pattern is
the path. -/
def IsExact (method : Option String) (path : String) (rule : Pattern × α) :
    Prop :=
  rule.1.admits method = true ∧ rule.1.path = path

instance (method : Option String) (path : String) :
    DecidablePred (IsExact (α := α) method path) :=
  fun _ => inferInstanceAs (Decidable (_ ∧ _))

/-- **A table answers by exact rules alone**: with one of them, or with an
ambiguity that names no others. An ambiguity among exact rules counts as such an
answer: it is a fault of the table, and it is told with the names of these
rules. -/
def AnswersExactly (table : Table α) (method : Option String)
    (path : String) : Prop :=
  (∃ rule ∈ table.entries, IsExact method path rule ∧
    table.best? method path = .ok (some rule)) ∨
  ∃ rules : List (Pattern × α), rules.Sublist table.entries ∧
    (∀ rule ∈ rules, IsExact method path rule) ∧
    table.best? method path
      = .error { path, patterns := rules.map (·.1.raw) }

section Outscored

variable {method : Option String} {path : String} (h : Outscores path)
include h

/-- The score of the path is that of the exact rules. -/
theorem score?_eq_verbatim_iff (rule : Pattern × α) :
    rule.1.score? method path = some (verbatimScore path) ↔
      IsExact method path rule := by
  unfold Pattern.score? IsExact
  split
  · next hadmits =>
    rw [and_iff_right hadmits]
    constructor
    · intro hscore
      exact Decidable.byContradiction fun hne =>
        UInt32.lt_irrefl _ (h _ hne _ hscore)
    · intro hpath
      exact if_pos hpath
  · next hadmits => exact ⟨nofun, fun hexact => absurd hexact.1 hadmits⟩

/-- No rule has a higher one. -/
theorem bounds_of_outscores (rules : List (Pattern × α)) :
    Bounds rules method path (verbatimScore path) := by
  intro rule _ reached hreached
  unfold Pattern.score? at hreached
  split at hreached
  · by_cases hpath : rule.1.path = path
    · rw [pathScore?, if_pos hpath] at hreached
      exact UInt32.le_of_eq (Option.some.inj hreached).symm
    · exact UInt32.le_of_lt (h _ hpath _ hreached)
  · cases hreached

/-- **Where the path outscores the others**, a table with an exact rule answers
by exact rules. -/
theorem answersExactly_of_outscores {table : Table α}
    (hexact : ∃ rule ∈ table.entries, IsExact method path rule) :
    table.AnswersExactly method path := by
  -- those at the highest score are the exact rules, and there is one
  have hreaching : reaching table.entries method path (verbatimScore path)
      = table.entries.filter fun rule => IsExact method path rule :=
    List.filter_congr fun rule _ =>
      decide_eq_decide.2 (score?_eq_verbatim_iff h rule)
  cases hrules : reaching table.entries method path (verbatimScore path) with
  | nil =>
    obtain ⟨rule, hrule, hexact⟩ := hexact
    rw [hreaching, List.filter_eq_nil_iff] at hrules
    exact absurd (decide_eq_true hexact) (hrules rule hrule)
  | cons first level =>
    have hbest := best?_of_reaching hrules (bounds_of_outscores h _)
    have hall : ∀ rule ∈ first :: level,
        rule ∈ table.entries ∧ IsExact method path rule := by
      intro rule hrule
      rw [← hrules, hreaching, List.mem_filter] at hrule
      exact ⟨hrule.1, of_decide_eq_true hrule.2⟩
    by_cases hlevel : level = []
    · rw [if_pos hlevel] at hbest
      obtain ⟨hin, hfirst⟩ := hall first List.mem_cons_self
      exact .inl ⟨first, hin, hfirst, hbest⟩
    · rw [if_neg hlevel] at hbest
      refine .inr ⟨first :: level, ?_, fun rule hrule => (hall rule hrule).2,
        hbest⟩
      rw [← hrules]
      exact List.filter_sublist

end Outscored

/-! ### A table with a rival

To show that a condition on scores is needed, there has to be a table that goes
wrong without it. Two rules do for that, if any path can be written as the key
of a rule. A method in the key sees to it, as it keeps a colon in the path from
being read as the one in front of a method. -/

/-- The key of a rule about a path and one method. The method in it keeps colons
in the path from being taken for the one in front of a method. -/
def keyOf (path : String) : String :=
  String.ofList ('[' :: (path.toList ++ ":GET".toList) ++ [']'])

/-- **Any path can be the path pattern of a rule.** -/
theorem parse_keyOf (path : String) :
    Pattern.parse (keyOf path)
      = { raw := keyOf path, path, method := some "GET" } := by
  have hkey : keyOf path = Pattern.keyFor path (some "GET") := by
    unfold keyOf Pattern.keyFor
    simp [← String.toList_inj]
  rw [hkey]
  exact Pattern.parse_keyFor_some (by decide) (by decide)

/-- **Two rules**: one is exact for a path, and one has another pattern. They
admit the same method, so that only their paths tell them apart. -/
def rulesFor (value : α) (path other : String) : List (String × α) :=
  [(keyOf path, value), (keyOf other, value)]

theorem ofList_rulesFor (value : α) (path other : String) :
    ofList (rulesFor value path other)
      = ⟨[(⟨keyOf path, path, some "GET"⟩, value),
        (⟨keyOf other, other, some "GET"⟩, value)]⟩ := by
  unfold ofList rulesFor
  rw [List.map_cons, List.map_singleton]
  dsimp only
  rw [parse_keyOf, parse_keyOf]

/-- On a request with its method a rule scores by its path. -/
theorem score?_of_method (raw path request : String) (method : String) :
    Pattern.score? ⟨raw, path, some method⟩ (some method) request
      = pathScore? path request :=
  if_pos (beq_self_eq_true _)

section Pair

variable {method : Option String} {path : String} {low high : Pattern × α}
  {score top : Score} (hlow : low.1.score? method path = some score)
  (hhigh : high.1.score? method path = some top) (hle : score ≤ top)
include hlow hhigh hle

/-- **What two rules answer**: the one with the higher score, or both. -/
theorem best?_pair :
    best? ⟨[low, high]⟩ method path
      = if score = top then
          .error { path, patterns := [low.1.raw, high.1.raw] }
        else .ok (some high) := by
  have hbounds : Bounds [low, high] method path top := by
    refine List.forall_mem_cons.2 ⟨fun reached hreached => ?_,
      List.forall_mem_singleton.2 fun reached hreached => ?_⟩
    · rw [score_unique hlow hreached]
      exact hle
    · exact UInt32.le_of_eq (score_unique hhigh hreached)
  by_cases hlevel : score = top
  · have hreaching : reaching [low, high] method path top = [low, high] := by
      simp [reaching, hlow, hhigh, hlevel]
    rw [if_pos hlevel]
    exact @best?_of_reaching _ _ _ ⟨_⟩ _ _ _ hreaching hbounds
  · have hreaching : reaching [low, high] method path top = [high] := by
      simp [reaching, hlow, hhigh, hlevel]
    rw [if_neg hlevel]
    exact @best?_of_reaching _ _ _ ⟨_⟩ _ _ _ hreaching hbounds

/-- So they do not answer by exact rules alone, unless the second is exact. -/
theorem not_answersExactly_pair (hother : ¬ IsExact method path high) :
    ¬ AnswersExactly ⟨[low, high]⟩ method path := by
  have hbest := best?_pair hlow hhigh hle
  split at hbest
  · rintro (⟨rule, -, -, hrule⟩ | ⟨rules, hsub, hexact, hrules⟩)
    · cases hbest.symm.trans hrule
    · -- two names are those of both rules
      have hnames := hbest.symm.trans hrules
      rw [Except.error.injEq, Ambiguity.mk.injEq] at hnames
      have hlength := congrArg List.length hnames.2
      rw [List.length_map] at hlength
      obtain rfl := hsub.eq_of_length hlength.symm
      exact hother (hexact high (by simp))
  · rintro (⟨rule, -, hexact, hrule⟩ | ⟨rules, -, -, hrules⟩)
    · cases hbest.symm.trans hrule
      exact hother hexact
    · cases hbest.symm.trans hrules

end Pair

/-- **When an exact rule comes first**, of any path: it has the highest score of
all patterns that fit, and a table that has one answers by exact rules, exactly
if the path is above the greatest sum; with at most 110 segments it is. Only a
path of nearly four gibibytes, on which sums wrap around, is left open.

The condition compares two numbers that can be read off the path. The second iff
is over all tables, of any length, so that there is one which goes wrong on
every path that fails the condition. -/
theorem exact_first_iff (value : α) (path : String)
    (hfits : greatestOther path < 2 ^ 32 ∨
      path.utf8ByteSize + 1010 ≤ 2 ^ 32) :
    (Outscores path ↔
      greatestOther path < min (1000 + path.utf8ByteSize) (2 ^ 32 - 1)) ∧
    ((∀ (rules : List (String × α)) (method : Option String),
        (∃ rule ∈ (ofList rules).entries, IsExact method path rule) →
        (ofList rules).AnswersExactly method path) ↔
      greatestOther path < min (1000 + path.utf8ByteSize) (2 ^ 32 - 1)) ∧
    ((segments path.toList).length ≤ 110 →
      greatestOther path < min (1000 + path.utf8ByteSize) (2 ^ 32 - 1)) := by
  -- below the bound there is a pattern that scores as much, and both iffs need
  -- it
  have hrival : ¬ greatestOther path
        < min (1000 + path.utf8ByteSize) (2 ^ 32 - 1) →
      ∃ other score, other ≠ path ∧ pathScore? other path = some score ∧
        verbatimScore path ≤ score := by
    intro hnot
    obtain ⟨count, hcount, hle⟩ := exists_rival hfits (Nat.le_of_not_lt hnot)
    exact ⟨_, _, rival_ne hcount, pathScore?_rival hcount, hle⟩
  refine ⟨?_, ?_, greatestOther_lt⟩
  · refine ⟨fun h => ?_, outscores_of_lt⟩
    refine Decidable.byContradiction fun hnot => ?_
    obtain ⟨other, score, hne, hscore, hle⟩ := hrival hnot
    exact absurd (h other hne score hscore) (UInt32.not_lt.2 hle)
  · -- a table of two rules tells whether the rival comes first
    refine ⟨fun h => ?_, fun hlt rules method hexact =>
      answersExactly_of_outscores (outscores_of_lt hlt) hexact⟩
    refine Decidable.byContradiction fun hnot => ?_
    obtain ⟨other, score, hne, hscore, hle⟩ := hrival hnot
    have hanswers := h (rulesFor value path other) (some "GET")
    rw [ofList_rulesFor] at hanswers
    exact not_answersExactly_pair
      ((score?_of_method _ path path "GET").trans (if_pos rfl))
      ((score?_of_method _ other path "GET").trans hscore) hle
      (fun hexact => hne hexact.2)
      (hanswers ⟨_, List.mem_cons_self, beq_self_eq_true _, rfl⟩)

/-! ### A path that is passed over

A hundred and twenty-five segments of one letter come to 1250, and the path has
250 bytes: the rule for it scores 1250 as well. The `**` of the other rule makes
the difference. -/

/-- A path of so many segments of one letter. -/
def deepPath (count : Nat) : List Char :=
  (List.replicate count ['/', 'a']).flatten

theorem deepPath_succ (count : Nat) :
    deepPath (count + 1) = '/' :: 'a' :: deepPath count :=
  rfl

theorem segments_deepPath (count : Nat) :
    segments (deepPath (count + 1)) = List.replicate (count + 1) ['a'] := by
  refine parts_iff.1 ⟨nofun, fun part hpart => ?_, ?_⟩
  · rw [List.eq_of_mem_replicate hpart]
    decide
  · rw [deepPath_succ]
    show _ = 'a' :: deepPath count
    induction count with
    | zero => rfl
    | succ count ih =>
      rw [List.replicate_succ, List.replicate_succ, List.intercalate_cons_cons,
        ← List.replicate_succ, ih]
      rfl

theorem utf8ByteSize_deepPath (count : Nat) :
    (String.ofList (deepPath count)).utf8ByteSize = 2 * count := by
  induction count with
  | zero => rfl
  | succ count ih =>
    rw [deepPath_succ, String.ofList_cons, String.ofList_cons,
      String.utf8ByteSize_append, String.utf8ByteSize_append,
      String.utf8ByteSize_singleton, String.utf8ByteSize_singleton, ih]
    show 1 + (1 + 2 * count) = 2 * (count + 1)
    omega

/-- The path that is asked for. -/
def asked : String := String.ofList (deepPath 125)

/-- The pattern of whatever is below it. -/
def below : String := rival 125 asked

/-- A table with both answers with the rule for whatever is below the path,
though the other one is exact. -/
theorem asked_passed_over :
    (greatestOther asked < 2 ^ 32 ∨ asked.utf8ByteSize + 1010 ≤ 2 ^ 32) ∧
      ¬ Outscores asked ∧
      IsExact (some "GET") asked (Pattern.parse (keyOf asked), ()) ∧
      ¬ IsExact (some "GET") asked (Pattern.parse (keyOf below), ()) ∧
      (ofList (rulesFor () asked below)).best? (some "GET") asked
        = .ok (some (Pattern.parse (keyOf below), ())) := by
  have hsegments : segments asked.toList = List.replicate 125 ['a'] := by
    unfold asked
    rw [String.toList_ofList]
    exact segments_deepPath 124
  have hsum : worthTo 125 ((List.replicate 125 ['a']).map asPattern) = 1250 := by
    unfold worthTo
    rw [List.map_replicate, List.take_replicate, List.map_replicate,
      List.sum_replicate_nat]
    rfl
  have hgreatest : greatestOther asked = 1251 := by
    rw [greatestOther_eq hsegments, List.length_replicate, hsum]
  have hbytes : asked.utf8ByteSize = 250 := by
    unfold asked
    rw [utf8ByteSize_deepPath]
  have hlength : (segments asked.toList).length = 125 := by
    rw [hsegments, List.length_replicate]
  have hcount : 125 ≤ (segments asked.toList).length :=
    Nat.le_of_eq hlength.symm
  have hexact : verbatimScore asked = 1250 := by
    unfold verbatimScore
    rw [hbytes]
    rfl
  have hother : pathScore? below asked = some 1251 := by
    refine (pathScore?_rival hcount).trans ?_
    rw [hsegments, hsum]
    rfl
  have hfits : greatestOther asked < 2 ^ 32 ∨
      asked.utf8ByteSize + 1010 ≤ 2 ^ 32 := by
    rw [hgreatest]
    exact .inl (by decide)
  refine ⟨hfits, fun h => ?_, ?_, ?_, ?_⟩
  · have hlt := (exact_first_iff () asked hfits).1.1 h
    rw [hgreatest, hbytes] at hlt
    exact absurd hlt (by decide)
  · rw [parse_keyOf]
    exact ⟨beq_self_eq_true _, rfl⟩
  · rw [parse_keyOf]
    exact fun h => rival_ne hcount h.2
  · rw [ofList_rulesFor, parse_keyOf]
    have hlow := score?_of_method (keyOf asked) asked asked "GET"
    have hhigh := score?_of_method (keyOf below) below asked "GET"
    rw [pathScore?, if_pos rfl, hexact] at hlow
    rw [hother] at hhigh
    have hbest := @best?_pair Unit _ _ (_, ()) (_, ()) _ _ hlow hhigh
      (by decide)
    rwa [if_neg (by decide)] at hbest

end Table

end PolicyGateway.Route
