import Mathlib.Algebra.Order.Ring.Nat
import Mathlib.Data.List.Basic
import PolicyGateway.Route.Pattern

/-!
# What a path pattern fits, and its score

`pathScore?` walks along a pattern and a path at the same time and adds up
weights as it goes. What it finds can be said of the segments of both without a
walk. Only the part of a pattern in front of its first `**` counts, or all of it
where there is none: the path has to have segments for that part, each of them
the one at its place or any one for a `*` (`FitsTo`), and without a `**` no
segment more. The score is then the sum of what these segments are worth, and
one more for the `**` (`worthTo`).

`pathScore?_decided` says so of every pattern and every path. Sums of scores
wrap around, and it says from where on they could.

**Why without the walk.** The walk is how a score is computed. Whoever writes
rules compares patterns at a glance: which segments are literal, where the first
`**` stands. To be sure that this is the right way to look at a pattern, it has
to be known that nothing else counts, neither what follows a `**` nor the order
in which weights are added.
-/

namespace PolicyGateway.Route

/-! ## The segments of a path

One slash in front is not counted, and every other slash parts. So an empty
segment can stand anywhere, and even an empty path has a segment, which is
empty. -/

/-- The segment of a pattern that fits whatever is left. -/
def restText : List Char := ['*', '*']

/-- The segment of a pattern that fits any one segment. -/
def oneText : List Char := ['*']

/-- A path without the slash in front of it. Only one slash is left out, even if
there are more. -/
def withoutRoot : List Char → List Char
  | '/' :: rest => rest
  | path => path

/-- **A path is parted into these texts** by its slashes, the one in front of it
not counted. The three conditions leave one list for each path, which is what
`parts_iff` says. -/
structure Parts (path : List Char) (parts : List (List Char)) : Prop where
  /-- There is a part, even of nothing. -/
  ne_nil : parts ≠ []
  /-- No slash is left. -/
  slash : ∀ part ∈ parts, '/' ∉ part
  /-- With slashes between them the parts are the path. -/
  joined : ['/'].intercalate parts = withoutRoot path

theorem segments_eq_splitOn (path : List Char) :
    segments path = (withoutRoot path).splitOn '/' := by
  unfold segments
  congr 1
  cases path with
  | nil => rfl
  | cons c rest =>
    by_cases hc : c = '/'
    · subst hc
      rfl
    · have hnone : ['/'].isPrefixOf? (c :: rest) = none :=
        Option.eq_none_iff_forall_ne_some.2 fun behind h =>
          hc (List.cons.inj (List.append_eq_of_isPrefixOf?_eq_some h)).1.symm
      rw [hnone]
      unfold withoutRoot
      split
      · next heq =>
        cases heq
        exact absurd rfl hc
      · rfl

/-- No part between marks has a mark in it. -/
theorem not_mem_of_mem_splitOn {mark : Char} {cs part : List Char}
    (h : part ∈ cs.splitOn mark) : mark ∉ part := by
  induction cs generalizing part with
  | nil =>
    rw [List.splitOn_nil, List.mem_singleton] at h
    rw [h]
    exact List.not_mem_nil
  | cons c rest ih =>
    rw [List.splitOn_cons_eq_if_modifyHead] at h
    split at h
    · rcases List.mem_cons.1 h with rfl | h
      · exact List.not_mem_nil
      · exact ih h
    · next hc =>
      -- the character goes in front of the first part, and is no mark
      obtain ⟨head, tail, hsplit⟩ :=
        List.exists_cons_of_ne_nil (List.splitOn_ne_nil mark rest)
      rw [hsplit] at ih h
      rw [List.modifyHead_cons] at h
      rcases List.mem_cons.1 h with rfl | h
      · rw [List.mem_cons, not_or]
        exact ⟨fun he => hc (beq_iff_eq.2 he.symm), ih List.mem_cons_self⟩
      · exact ih (List.mem_cons_of_mem _ h)

/-- **The segments of a path are its parts**, and nothing else is. -/
theorem parts_iff {path : List Char} {parts : List (List Char)} :
    Parts path parts ↔ segments path = parts := by
  rw [segments_eq_splitOn]
  constructor
  · intro h
    rw [← h.joined]
    exact List.splitOn_intercalate '/' h.slash h.ne_nil
  · rintro rfl
    exact ⟨List.splitOn_ne_nil _ _, fun _ => not_mem_of_mem_splitOn,
      List.intercalate_splitOn '/'⟩

/-- A path has a character for each part but one. -/
theorem Parts.length_le {path : List Char} {parts : List (List Char)}
    (h : Parts path parts) : parts.length ≤ path.length + 1 := by
  have hroot : (withoutRoot path).length ≤ path.length := by
    unfold withoutRoot
    split
    · exact Nat.le_succ _
    · exact Nat.le_refl _
  have hjoined : ∀ others : List (List Char),
      others.length ≤ (['/'].intercalate others).length + 1 := by
    intro others
    induction others with
    | nil => exact Nat.zero_le _
    | cons part rest ih =>
      cases rest with
      | nil => exact Nat.succ_le_succ (Nat.zero_le _)
      | cons next rest =>
        rw [List.intercalate_cons_cons, List.length_append, List.length_append,
          List.length_singleton, List.length_cons]
        omega
  have := hjoined parts
  rw [h.joined] at this
  omega

/-! ## What a pattern fits

Two numbers describe it: how many segments are taken one by one, and what they
are worth together. They are said for the first segments up to any count,
because the walk goes up in the same way. -/

/-- **The first segments of a pattern fit a path**: it has as many, and each of
them is `*` or the segment of the path at its place. -/
def FitsTo (count : Nat) (pattern path : List (List Char)) : Prop :=
  count ≤ path.length ∧
    ∀ i < count, pattern[i]? = some oneText ∨ pattern[i]? = path[i]?

/-- What a segment of a pattern is worth where it fits. No segment is worth the
one of a `**`, which is added at the end. -/
def worth (expected : List Char) : Nat :=
  if expected = oneText then 2 else 10

/-- **What the first segments of a pattern are worth** together. It is a number;
as a score it becomes a word, and may wrap around. -/
def worthTo (count : Nat) (pattern : List (List Char)) : Nat :=
  ((pattern.take count).map worth).sum

/-- **The first `**` of a pattern** stands at this place. What stands behind it
no longer counts. -/
def IsFirstRest (place : Nat) (pattern : List (List Char)) : Prop :=
  pattern[place]? = some restText ∧ ∀ i < place, pattern[i]? ≠ some restText

/-- **What a pattern comes to on a path**, said of the segments of both. The
second part and the third one are iffs over all scores, so that they also say
when there is none. -/
structure Decided (pattern path : String)
    (expected actual : List (List Char)) : Prop where
  /-- The path itself scores by its length, up to the largest score. -/
  verbatim : pattern = path → ∃ score,
    pathScore? pattern path = some score ∧
      score.toNat = min (1000 + path.utf8ByteSize) (2 ^ 32 - 1)
  /-- Another pattern with a `**` fits by its segments in front of the first one,
  and the `**` adds one. -/
  opened : pattern ≠ path → ∀ place, IsFirstRest place expected → ∀ score,
    pathScore? pattern path = some score ↔
      FitsTo place expected actual ∧
        score = UInt32.ofNat (worthTo place expected + 1)
  /-- One without fits by all its segments, and has as many as the path. -/
  closed : pattern ≠ path → restText ∉ expected → ∀ score,
    pathScore? pattern path = some score ↔
      expected.length = actual.length ∧
        FitsTo expected.length expected actual ∧
        score = UInt32.ofNat (worthTo expected.length expected)
  /-- No score wraps around as long as ten for each segment of the path and one
  are no more than the largest score. -/
  exact : pattern ≠ path → 10 * actual.length + 1 < 2 ^ 32 → ∀ score,
    pathScore? pattern path = some score →
      (∀ place, IsFirstRest place expected →
        score.toNat = worthTo place expected + 1) ∧
      (restText ∉ expected →
        score.toNat = worthTo expected.length expected)

theorem exists_isFirstRest {pattern : List (List Char)}
    (h : restText ∈ pattern) : ∃ place, IsFirstRest place pattern := by
  induction pattern with
  | nil => cases h
  | cons expected rest ih =>
    by_cases hfirst : expected = restText
    · exact ⟨0, congrArg some hfirst, fun i hi => absurd hi (Nat.not_lt_zero i)⟩
    · obtain ⟨place, hplace, hbefore⟩ :=
        ih ((List.mem_cons.1 h).resolve_left (Ne.symm hfirst))
      exact ⟨place + 1, hplace, Nat.forall_lt_succ_left.2
        ⟨fun he => hfirst (Option.some.inj he), hbefore⟩⟩

/-! ## The walk

A step of the walk takes one segment of both, and adds its weight to what was
reached. So a run of it over several segments adds up what they are worth, by
induction on their number, and the score at the start is just carried along. -/

theorem worthTo_succ (count : Nat) (expected : List Char)
    (pattern : List (List Char)) :
    worthTo (count + 1) (expected :: pattern)
      = worth expected + worthTo count pattern :=
  rfl

theorem fitsTo_zero (pattern path : List (List Char)) :
    FitsTo 0 pattern path :=
  ⟨Nat.zero_le _, fun i hi => absurd hi (Nat.not_lt_zero i)⟩

theorem not_fitsTo_nil (count : Nat) (pattern : List (List Char)) :
    ¬ FitsTo (count + 1) pattern [] :=
  fun h => absurd h.1 (Nat.not_succ_le_zero count)

/-- One segment after the other fits. -/
theorem fitsTo_succ {count : Nat} {expected actual : List Char}
    {pattern path : List (List Char)} :
    FitsTo (count + 1) (expected :: pattern) (actual :: path) ↔
      (expected = oneText ∨ expected = actual) ∧ FitsTo count pattern path := by
  unfold FitsTo
  rw [Nat.forall_lt_succ_left, List.length_cons, Nat.succ_le_succ_iff]
  simp only [List.getElem?_cons_zero, List.getElem?_cons_succ,
    Option.some.injEq]
  exact and_left_comm

theorem worth_le (expected : List Char) : worth expected ≤ 10 := by
  unfold worth
  split <;> decide

/-- The first segments are worth ten each at most. -/
theorem worthTo_le (count : Nat) (pattern : List (List Char)) :
    worthTo count pattern ≤ 10 * count := by
  induction count generalizing pattern with
  | zero => exact Nat.le_refl 0
  | succ count ih =>
    cases pattern with
    | nil => exact Nat.zero_le _
    | cons expected rest =>
      have hworth := worth_le expected
      have := ih rest
      rw [worthTo_succ]
      omega

theorem ofText_of_ne {text : List Char} (h : text ≠ restText) :
    Segment.ofText text
      = if text = oneText then .one else .literal text := by
  unfold Segment.ofText
  exact if_neg h

/-- **A step of the walk**: a segment other than `**` fits one segment of the
path, and adds what it is worth. -/
theorem scoreFrom_cons {expected : List Char} (h : expected ≠ restText)
    (reached : Score) (pattern : List Segment) (actual : List Char)
    (path : List (List Char)) :
    scoreFrom reached (Segment.ofText expected :: pattern) (actual :: path)
      = if expected = oneText ∨ expected = actual then
          scoreFrom (reached + UInt32.ofNat (worth expected)) pattern path
        else none := by
  rw [ofText_of_ne h]
  unfold worth
  by_cases hone : expected = oneText
  · simp only [if_pos hone, if_pos (Or.inl hone)]
    rfl
  · simp only [if_neg hone, or_iff_right hone]
    rw [scoreFrom]
    · simp only [Segment.fits, beq_iff_eq]
      rfl
    · exact nofun

/-- Without a segment of the path only a `**` fits. -/
theorem scoreFrom_cons_nil {expected : List Char} (h : expected ≠ restText)
    (reached : Score) (pattern : List Segment) :
    scoreFrom reached (Segment.ofText expected :: pattern) [] = none := by
  rw [ofText_of_ne h]
  split <;> rfl

/-- **The first steps of the walk**: as long as there is no `**`, the segments
fit one by one, and what they are worth is added up. -/
theorem scoreFrom_eq_some_iff {count : Nat} {pattern : List (List Char)}
    (hcount : count ≤ pattern.length)
    (hrest : ∀ i < count, pattern[i]? ≠ some restText) (reached : Score)
    (path : List (List Char)) (score : Score) :
    scoreFrom reached (pattern.map Segment.ofText) path = some score ↔
      FitsTo count pattern path ∧
        scoreFrom (reached + UInt32.ofNat (worthTo count pattern))
          ((pattern.drop count).map Segment.ofText) (path.drop count)
            = some score := by
  -- on the number of segments, with what was reached before left open
  induction count generalizing pattern path reached with
  | zero =>
    have hzero : reached + UInt32.ofNat (worthTo 0 pattern) = reached :=
      UInt32.add_zero reached
    rw [hzero, List.drop_zero, List.drop_zero,
      and_iff_right (fitsTo_zero pattern path)]
  | succ count ih =>
    cases pattern with
    | nil => cases hcount
    | cons expected rest =>
      obtain ⟨hfirst, hlater⟩ := Nat.forall_lt_succ_left.1 hrest
      have hne : expected ≠ restText := fun he => hfirst (congrArg some he)
      rw [List.map_cons]
      cases path with
      | nil =>
        rw [scoreFrom_cons_nil hne]
        exact ⟨nofun, fun h => absurd h.1 (not_fitsTo_nil count _)⟩
      | cons actual path =>
        rw [scoreFrom_cons hne, fitsTo_succ, worthTo_succ, UInt32.ofNat_add,
          ← UInt32.add_assoc, and_assoc, List.drop_succ_cons,
          List.drop_succ_cons]
        split
        · next hfits =>
          rw [and_iff_right hfits]
          exact ih (Nat.le_of_succ_le_succ hcount) hlater _ path
        · next hnot => exact ⟨nofun, fun h => absurd h.1 hnot⟩

/-- **A walk that comes to a `**`** ends there. -/
theorem scoreFrom_of_isFirstRest {place : Nat} {pattern : List (List Char)}
    (h : IsFirstRest place pattern) (path : List (List Char)) (score : Score) :
    scoreFrom 0 (pattern.map Segment.ofText) path = some score ↔
      FitsTo place pattern path ∧
        score = UInt32.ofNat (worthTo place pattern + 1) := by
  obtain ⟨hplace, hget⟩ := List.getElem?_eq_some_iff.1 h.1
  rw [scoreFrom_eq_some_iff (Nat.le_of_lt hplace) h.2,
    List.drop_eq_getElem_cons hplace, hget, List.map_cons, UInt32.zero_add,
    UInt32.ofNat_add]
  refine and_congr_right fun _ => ?_
  rw [show Segment.ofText restText = .rest from rfl, scoreFrom,
    Option.some.injEq]
  exact eq_comm

/-- **A walk without a `**`** goes to the end of both. -/
theorem scoreFrom_of_not_mem {pattern : List (List Char)}
    (h : restText ∉ pattern) (path : List (List Char)) (score : Score) :
    scoreFrom 0 (pattern.map Segment.ofText) path = some score ↔
      pattern.length = path.length ∧ FitsTo pattern.length pattern path ∧
        score = UInt32.ofNat (worthTo pattern.length pattern) := by
  have hnone : ∀ i < pattern.length, pattern[i]? ≠ some restText :=
    fun i _ hi => h (List.mem_of_getElem? hi)
  rw [scoreFrom_eq_some_iff (Nat.le_refl _) hnone, List.drop_length,
    List.map_nil, UInt32.zero_add, and_left_comm]
  refine and_congr_right fun hfits => ?_
  -- nothing of the path may be left
  cases hleft : path.drop pattern.length with
  | nil =>
    have hlength : pattern.length = path.length :=
      Nat.le_antisymm hfits.1 (List.drop_eq_nil_iff.1 hleft)
    rw [scoreFrom, Option.some.injEq, and_iff_right hlength]
    exact eq_comm
  | cons segment rest =>
    rw [scoreFrom]
    refine ⟨nofun, fun hlength => ?_⟩
    rw [hlength.1, List.drop_length] at hleft
    cases hleft

/-! ## What a pattern comes to

The two ends that a walk can have are now put together: at a `**`, or at the end
of both. A pattern that is the path is compared as text before there is any
walk. -/

/-- Another pattern than the path scores by its segments. -/
theorem pathScore?_of_ne {pattern path : String} (h : pattern ≠ path) :
    pathScore? pattern path
      = scoreFrom 0 ((segments pattern.toList).map Segment.ofText)
          (segments path.toList) :=
  if_neg h

theorem toNat_verbatimScore (path : String) :
    (verbatimScore path).toNat
      = min (1000 + path.utf8ByteSize) (2 ^ 32 - 1) := by
  refine UInt32.toNat_ofNat_of_lt' (Nat.lt_of_le_of_lt (Nat.min_le_right _ _) ?_)
  decide

/-- **A path pattern decides by the segments** of both, whatever they are: by
those in front of its first `**`, or by all of them, and its score is what these
are worth. -/
theorem pathScore?_decided (pattern path : String) :
    Parts pattern.toList (segments pattern.toList) ∧
      Parts path.toList (segments path.toList) ∧
      Decided pattern path (segments pattern.toList)
        (segments path.toList) := by
  refine ⟨parts_iff.2 rfl, parts_iff.2 rfl, ?_⟩
  have hopened : pattern ≠ path → ∀ place,
      IsFirstRest place (segments pattern.toList) → ∀ score,
      pathScore? pattern path = some score ↔
        FitsTo place (segments pattern.toList) (segments path.toList) ∧
          score = UInt32.ofNat
            (worthTo place (segments pattern.toList) + 1) := by
    intro hne place hplace score
    rw [pathScore?_of_ne hne]
    exact scoreFrom_of_isFirstRest hplace _ score
  have hclosed : pattern ≠ path → restText ∉ segments pattern.toList →
      ∀ score, pathScore? pattern path = some score ↔
        (segments pattern.toList).length = (segments path.toList).length ∧
          FitsTo (segments pattern.toList).length (segments pattern.toList)
            (segments path.toList) ∧
          score = UInt32.ofNat (worthTo (segments pattern.toList).length
            (segments pattern.toList)) := by
    intro hne hrest score
    rw [pathScore?_of_ne hne]
    exact scoreFrom_of_not_mem hrest _ score
  exact
    { verbatim := fun h => ⟨_, if_pos h, toNat_verbatimScore path⟩
      opened := hopened
      closed := hclosed
      exact := by
        -- the sum is ten for each segment at most, so its word is the sum
        intro hne hsmall score hscore
        constructor
        · intro place hplace
          obtain ⟨hfits, rfl⟩ := (hopened hne place hplace score).1 hscore
          have hle := worthTo_le place (segments pattern.toList)
          have hplaces := hfits.1
          exact UInt32.toNat_ofNat_of_lt' (by
            rw [UInt32.size]
            omega)
        · intro hrest
          obtain ⟨hlength, -, rfl⟩ := (hclosed hne hrest score).1 hscore
          have hle := worthTo_le (segments pattern.toList).length
            (segments pattern.toList)
          exact UInt32.toNat_ofNat_of_lt' (by
            rw [UInt32.size]
            omega) }

example : pathScore? "/files/**/old" "/files" = some 11 := by
  decide +kernel

end PolicyGateway.Route
