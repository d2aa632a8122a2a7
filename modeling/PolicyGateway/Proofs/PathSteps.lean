import PolicyGateway.Http.Url
import PolicyGateway.Proofs.LetterCase
import PolicyGateway.Proofs.PercentCoding

/-!
# The steps of a path

An address that is read takes the steps of its path: a segment that says one
dot stays, a segment that says two goes back (`isHere_iff`, `isBack_iff`). So
the path that is sent may say less than the path that was written, and this
module says how much less.

The measure is `weight`: the bytes that the segments say, and one for each
segment. A step loses some of it, and nothing else does (`weight_walk`). Where
a path is parted makes no difference to it, as long as the marks are no part of
an encoding (`weight_splitOnP`). So a path that says the same after its steps
had none to take, and no backslash either (`walk_says_iff`).

**Why a measure.** It would be enough to know that a path without steps stays as
it is, if the converse were plain. It is not: a step takes a segment away, but
might not another one that says the same come to stand in its place? With a
weight that every step lessens there is nothing to search for. Two paths that
say the same weigh the same, so no step was taken.
-/

namespace PolicyGateway.Http.Url

open PolicyGateway.Text (IsMark decoded toLower_eq_e toLower_eq_iff
  toLower_toLower)

/-! ## Segments that are steps

A dot may be written as itself or as an encoding, so there are as many ways to
write a step as there are spellings of its dots. The reader has a list of them.
That they are exactly the segments which say one dot or two is what makes
`decoded` the right thing to compare. -/

/-- A segment starts with a dot in lower case if it starts with a spelling of
the dot. -/
theorem lower_eq_dot_cons {segment rest : List Char} :
    (segment.map Char.toLower = '.' :: rest ∨
        segment.map Char.toLower = '%' :: '2' :: 'e' :: rest) ↔
      ∃ behind, behind.map Char.toLower = rest ∧
        (segment = '.' :: behind ∨ segment = '%' :: '2' :: 'e' :: behind ∨
          segment = '%' :: '2' :: 'E' :: behind) := by
  constructor
  · rintro (h | h)
    · obtain ⟨c, behind, rfl, hc, rfl⟩ := List.map_eq_cons_iff.1 h
      rw [toLower_eq_iff (by decide)] at hc
      exact ⟨behind, rfl, .inl (by rw [hc])⟩
    · obtain ⟨c, tail, rfl, hc, h⟩ := List.map_eq_cons_iff.1 h
      obtain ⟨d, tail, rfl, hd, h⟩ := List.map_eq_cons_iff.1 h
      obtain ⟨e, behind, rfl, he, rfl⟩ := List.map_eq_cons_iff.1 h
      rw [toLower_eq_iff (by decide)] at hc hd
      rw [toLower_eq_e] at he
      refine ⟨behind, rfl, .inr ?_⟩
      rcases he with rfl | rfl
      · exact .inl (by rw [hc, hd])
      · exact .inr (by rw [hc, hd])
  · rintro ⟨behind, rfl, rfl | rfl | rfl⟩
    · exact .inl rfl
    · exact .inr rfl
    · exact .inr rfl

theorem lowercase_ofList (cs ds : List Char) :
    Text.lowercase (String.ofList cs) = String.ofList ds ↔
      cs.map Char.toLower = ds := by
  unfold Text.lowercase
  rw [String.toList_ofList, String.ofList_inj]

theorem isHere_iff_lower {segment : List Char} :
    isHere segment = true ↔
      segment.map Char.toLower = ['.'] ∨
        segment.map Char.toLower = ['%', '2', 'e'] := by
  rw [← lowercase_ofList, ← lowercase_ofList]
  unfold isHere
  simp

/-- **A step to the same place says one dot.** -/
theorem isHere_iff {segment : List Char} :
    isHere segment = true ↔ decoded segment = [0x2e] := by
  rw [isHere_iff_lower, lower_eq_dot_cons, Text.decoded_eq_dot_cons]
  simp only [List.map_eq_nil_iff, Text.decoded_eq_nil]

/-- **A step back says two dots.** -/
theorem isBack_iff {segment : List Char} :
    isBack segment = true ↔ decoded segment = [0x2e, 0x2e] := by
  -- the list of spellings is a dot in one of two, and a dot in one of two
  -- behind it
  have hlist : isBack segment = true ↔
      ∃ rest, (segment.map Char.toLower = '.' :: rest ∨
          segment.map Char.toLower = '%' :: '2' :: 'e' :: rest) ∧
        (rest = ['.'] ∨ rest = ['%', '2', 'e']) := by
    have hspelled : isBack segment = true ↔
        segment.map Char.toLower = ['.', '.'] ∨
          segment.map Char.toLower = ['.', '%', '2', 'e'] ∨
          segment.map Char.toLower = ['%', '2', 'e', '.'] ∨
          segment.map Char.toLower = ['%', '2', 'e', '%', '2', 'e'] := by
      rw [← lowercase_ofList, ← lowercase_ofList, ← lowercase_ofList,
        ← lowercase_ofList]
      unfold isBack
      simp
    rw [hspelled]
    constructor
    · rintro (h | h | h | h)
      · exact ⟨_, .inl h, .inl rfl⟩
      · exact ⟨_, .inl h, .inr rfl⟩
      · exact ⟨_, .inr h, .inl rfl⟩
      · exact ⟨_, .inr h, .inr rfl⟩
    · rintro ⟨rest, h | h, rfl | rfl⟩
      · exact .inl h
      · exact .inr (.inl h)
      · exact .inr (.inr (.inl h))
      · exact .inr (.inr (.inr h))
  rw [hlist, Text.decoded_eq_dot_cons]
  constructor
  · rintro ⟨rest, hsegment, hrest⟩
    obtain ⟨behind, rfl, hspelled⟩ := lower_eq_dot_cons.1 hsegment
    refine ⟨behind, ?_, hspelled⟩
    rw [← isHere_iff, isHere_iff_lower]
    exact hrest
  · rintro ⟨behind, hbehind, hspelled⟩
    rw [← isHere_iff, isHere_iff_lower] at hbehind
    exact ⟨_, lower_eq_dot_cons.2 ⟨behind, rfl, hspelled⟩, hbehind⟩

/-! ## Taking the steps

The segments found so far are kept with the last one in front, since that is the
one a step back removes. At the end of a path a step leaves an empty segment
behind; so even there the path does not just get shorter. -/

/-- Whether a segment is a step. It is one by what it says, however its dots are
spelled. -/
def IsStep (segment : List Char) : Prop :=
  isBack segment = true ∨ isHere segment = true

instance : DecidablePred IsStep :=
  fun _ => inferInstanceAs (Decidable (_ ∨ _))

theorem isStep_iff {segment : List Char} :
    IsStep segment ↔
      decoded segment = [0x2e] ∨ decoded segment = [0x2e, 0x2e] := by
  unfold IsStep
  rw [isBack_iff, isHere_iff]
  exact Or.comm

/-- **The segments found**, the last in front, after one more that is not the
last of its path. A step back where nothing was found is no mistake, and goes
nowhere. -/
def taken (found : List (List Char)) (segment : List Char) :
    List (List Char) :=
  if isBack segment then found.drop 1
  else if isHere segment then found
  else segment :: found

theorem taken_of_not_isStep {segment : List Char} (h : ¬ IsStep segment)
    (found : List (List Char)) : taken found segment = segment :: found := by
  unfold taken
  rw [if_neg fun hb => h (.inl hb), if_neg fun hh => h (.inr hh)]

/-- A segment that is no step, or not the last, is taken. -/
theorem walk_cons {segment : List Char} {rest : List (List Char)}
    (h : ¬ IsStep segment ∨ rest ≠ []) (found : List (List Char)) :
    walk found (segment :: rest) = walk (taken found segment) rest := by
  rw [walk]
  refine if_neg fun hlast => ?_
  simp only [Bool.and_eq_true, List.isEmpty_iff, Bool.or_eq_true] at hlast
  rcases h with h | h
  · exact h hlast.2
  · exact h hlast.1

/-- A step at the end leaves an empty segment. -/
theorem walk_step {segment : List Char} (h : IsStep segment)
    (found : List (List Char)) :
    walk found [segment] = ([] :: taken found segment).reverse := by
  rw [walk]
  refine if_pos ?_
  simp only [List.isEmpty_nil, Bool.true_and, Bool.or_eq_true]
  exact h

/-- **The segments in front of others** are taken first. -/
theorem walk_append {segments : List (List Char)} (h : segments ≠ [])
    (before found : List (List Char)) :
    walk found (before ++ segments)
      = walk (before.foldl taken found) segments := by
  induction before generalizing found with
  | nil => rfl
  | cons segment rest ih =>
    rw [List.cons_append, walk_cons (.inr (by simp [h])), ih]
    rfl

/-- **Without steps a path stays as it is.** -/
theorem walk_of_no_step {segments : List (List Char)}
    (h : ∀ segment ∈ segments, ¬ IsStep segment)
    (found : List (List Char)) :
    walk found segments = found.reverse ++ segments := by
  induction segments generalizing found with
  | nil => rw [walk, List.append_nil]
  | cons segment rest ih =>
    have hstep := h segment List.mem_cons_self
    rw [walk_cons (.inl hstep), taken_of_not_isStep hstep,
      ih fun other hother => h other (List.mem_cons_of_mem segment hother),
      List.reverse_cons, List.append_assoc]
    rfl

/-! ## What segments weigh

Segments are weighed by what they say, so that two spellings of the same weigh
the same. The one that is added for each makes even an empty segment count, and
with it a slash more or less. -/

/-- **The weight of segments**: the bytes that they say, and one for each. It
depends on what the segments say and on how many there are. -/
def weight (segments : List (List Char)) : Nat :=
  (segments.map decoded).foldr (fun bs total => bs.length + 1 + total) 0

theorem weight_nil : weight [] = 0 := rfl

theorem weight_cons (segment : List Char) (rest : List (List Char)) :
    weight (segment :: rest) = (decoded segment).length + 1 + weight rest :=
  rfl

theorem weight_append (before behind : List (List Char)) :
    weight (before ++ behind) = weight before + weight behind := by
  induction before with
  | nil => exact (Nat.zero_add _).symm
  | cons segment rest ih =>
    rw [List.cons_append, weight_cons, weight_cons, ih]
    exact (Nat.add_assoc _ _ _).symm

theorem weight_reverse (segments : List (List Char)) :
    weight segments.reverse = weight segments := by
  induction segments with
  | nil => rfl
  | cons segment rest ih =>
    rw [List.reverse_cons, weight_append, ih, weight_cons, weight_cons,
      weight_nil]
    exact Nat.add_comm _ _

theorem weight_drop_le (n : Nat) (segments : List (List Char)) :
    weight (segments.drop n) ≤ weight segments := by
  have hsplit := weight_append (segments.take n) (segments.drop n)
  rw [List.take_append_drop] at hsplit
  omega

/-- What says the same weighs the same. -/
theorem weight_eq_of_decoded {segments others : List (List Char)}
    (h : segments.map decoded = others.map decoded) :
    weight segments = weight others := by
  unfold weight
  rw [h]

/-- **A step loses weight**, even where it leaves an empty segment. -/
theorem weight_taken_lt {segment : List Char} (h : IsStep segment)
    (found : List (List Char)) :
    weight (taken found segment) + 1
      < weight found + ((decoded segment).length + 1) := by
  unfold taken
  split
  · next hback =>
    rw [isBack_iff.1 hback]
    have := weight_drop_le 1 found
    exact Nat.add_lt_add_of_le_of_lt this (by decide)
  · next hback =>
    have hhere := h.resolve_left hback
    rw [if_pos hhere, isHere_iff.1 hhere]
    exact Nat.add_lt_add_left (by decide) _

/-- **No path gains weight** by its steps, and one with a step loses some. -/
theorem weight_walk (segments found : List (List Char)) :
    weight (walk found segments) ≤ weight found + weight segments ∧
      ((∃ segment ∈ segments, IsStep segment) →
        weight (walk found segments) < weight found + weight segments) := by
  -- a step back takes from what was found before, so that has to be any
  induction segments generalizing found with
  | nil =>
    rw [walk, weight_reverse]
    exact ⟨Nat.le_refl _, fun ⟨_, hmem, _⟩ => by cases hmem⟩
  | cons segment rest ih =>
    rw [weight_cons]
    by_cases hstep : IsStep segment
    · have hlost := weight_taken_lt hstep found
      have hlt : weight (walk found (segment :: rest))
          < weight found + ((decoded segment).length + 1 + weight rest) := by
        by_cases hrest : rest = []
        · subst hrest
          rw [walk_step hstep, weight_reverse, weight_cons, weight_nil]
          rw [Text.decoded_nil, List.length_nil]
          omega
        · rw [walk_cons (.inr hrest)]
          have hle := (ih (taken found segment)).1
          omega
      exact ⟨Nat.le_of_lt hlt, fun _ => hlt⟩
    · rw [walk_cons (.inl hstep), taken_of_not_isStep hstep]
      obtain ⟨hle, hlt⟩ := ih (segment :: found)
      rw [weight_cons] at hle hlt
      refine ⟨by omega, ?_⟩
      rintro ⟨other, hmem, hother⟩
      rcases List.mem_cons.1 hmem with rfl | hmem
      · exact absurd hother hstep
      · have := hlt ⟨other, hmem, hother⟩
        omega

/-! ## Where a path is parted

A backslash parts a path like a slash where an address is read, and does not
where it is written. So a path may be parted in two ways, with different
segments. As long as what parts it is no part of an encoding, both weigh the
same. -/

/-- **Parting a text at marks keeps its weight**, whatever the marks. -/
theorem weight_splitOnP {p : Char → Bool} (hp : ∀ c, p c = true → IsMark c)
    (cs : List Char) : weight (cs.splitOnP p) = (decoded cs).length + 1 := by
  cases hfind : cs.find? p with
  | none =>
    rw [List.splitOnP_eq_singleton (by simpa using hfind)]
    exact weight_cons cs []
  | some mark =>
    obtain ⟨hmark, before, behind, hcut, hbefore⟩ :=
      List.find?_eq_some_iff_append.1 hfind
    -- what stands behind the first mark is shorter
    have hlen : behind.length < cs.length := by
      rw [hcut, List.length_append, List.length_cons]
      omega
    rw [hcut, List.splitOnP_append_cons_of_forall_mem (by simpa using hbefore)
        mark hmark behind,
      weight_cons, weight_splitOnP hp behind,
      (hp mark hmark).decoded_append_cons, List.length_append,
      List.length_cons]
    omega
termination_by cs.length

/-- There is one segment more than marks. This is how two ways to part a path
are told apart again, after they were found to weigh the same. -/
theorem length_splitOnP (p : Char → Bool) (cs : List Char) :
    (cs.splitOnP p).length = cs.countP p + 1 := by
  induction cs with
  | nil => rfl
  | cons c rest ih =>
    rw [List.splitOnP_cons_eq_if_modifyHead]
    by_cases hc : p c = true
    · rw [if_pos hc, List.length_cons, ih, List.countP_cons_of_pos hc]
    · rw [if_neg hc, List.length_modifyHead, ih, List.countP_cons_of_neg hc]

/-- Fewer marks part a path less, unless they are the only ones in it. -/
theorem not_mem_of_countP_eq {cs : List Char}
    (h : cs.countP isSlash = cs.countP (· == '/')) : '\\' ∉ cs := by
  -- a slash counts on both sides, and a backslash on one
  have hle (ds : List Char) : ds.countP (· == '/') ≤ ds.countP isSlash :=
    List.countP_mono_left fun c _ hc => by
      rw [beq_iff_eq.1 hc]
      decide
  induction cs with
  | nil => exact List.not_mem_nil
  | cons c rest ih =>
    by_cases hslash : c = '/'
    · subst hslash
      rw [List.countP_cons_of_pos (by decide),
        List.countP_cons_of_pos (by decide)] at h
      intro hmem
      exact ih (Nat.succ.inj h)
        ((List.mem_cons.1 hmem).resolve_left (by decide))
    · rw [List.countP_cons_of_neg (p := (· == '/')) (by simpa using hslash)]
        at h
      intro hmem
      by_cases hc : isSlash c = true
      · rw [List.countP_cons_of_pos hc] at h
        have := hle rest
        omega
      · rw [List.countP_cons_of_neg hc] at h
        rcases List.mem_cons.1 hmem with rfl | hmem
        · exact hc (by decide)
        · exact ih h hmem

/-! ## The segments of an address

Characters that may not stand in a path are encoded before it is parted. This
keeps what it says, and adds no mark. -/

/-- The characters that stand for themselves in a path keep what it says. -/
theorem keepsCodes_isPathChar : Text.KeepsCodes isPathChar where
  ascii c hc := by
    unfold isPathChar isVisibleBut at hc
    simp only [Bool.and_eq_true, decide_eq_true_eq] at hc
    omega
  percent := by decide
  digits c hc := by
    have hall : ∀ n < 0x80, (Text.hexDigit? (Char.ofNat n)).isSome →
        isPathChar (Char.ofNat n) = true := by decide +kernel
    rw [← Char.ofNat_toNat c] at hc ⊢
    exact hall _ (Text.toNat_lt_of_hexDigit? (Char.ofNat_toNat c ▸ hc)) hc

/-- **The segments of a path as it is written**, with the first slash left
out. -/
def written (cs : List Char) : List (List Char) :=
  (cs.splitOnP isSlash).map (Text.percentEncode isPathChar)

theorem splitOn_slashed (cs : List Char) :
    (cs.map fun c => if isSlash c then '/' else c).splitOn '/'
      = cs.splitOnP isSlash := by
  induction cs with
  | nil => rfl
  | cons c rest ih =>
    rw [List.map_cons, List.splitOn_cons_eq_if_modifyHead,
      List.splitOnP_cons_eq_if_modifyHead, ih]
    by_cases hc : isSlash c = true
    · rw [if_pos hc, if_pos hc, if_pos (by rfl)]
    · rw [if_neg hc, if_neg hc, if_neg]
      intro hslash
      rw [beq_iff_eq.1 hslash] at hc
      exact hc (by decide)

theorem segments_eq (start : List String) (cs : List Char) :
    segments start cs
      = (walk (start.reverse.map String.toList) (written cs)).map
          String.ofList := by
  unfold segments written
  dsimp only
  rw [splitOn_slashed]

theorem written_ne_nil (cs : List Char) : written cs ≠ [] := by
  unfold written
  simp

/-- A slash parts a path. -/
theorem written_append_cons (cs ds : List Char) :
    written (cs ++ '/' :: ds) = written cs ++ written ds := by
  unfold written
  rw [List.splitOnP_append_cons cs ds (by decide), List.map_append]

/-- What is written says what the pieces say. -/
theorem map_decoded_written (cs : List Char) :
    (written cs).map decoded = (cs.splitOnP isSlash).map decoded := by
  unfold written
  rw [List.map_map]
  exact List.map_congr_left fun segment _ =>
    Text.decoded_percentEncode keepsCodes_isPathChar segment

/-! ## When a path says the same after its steps

The weight settles it. A path that is found again, with all it says, has lost
nothing; so there was no step in it, and then no backslash either, which would
have made one segment more. -/

theorem not_isStep_nil : ¬ IsStep [] := by decide

theorem splitOnP_isSlash {cs : List Char} (h : '\\' ∉ cs) :
    cs.splitOnP isSlash = cs.splitOn '/' := by
  induction cs with
  | nil => rfl
  | cons c rest ih =>
    rw [List.mem_cons, not_or] at h
    rw [List.splitOnP_cons_eq_if_modifyHead,
      List.splitOn_cons_eq_if_modifyHead, ih h.2]
    have hc : isSlash c = (c == '/') := by
      unfold isSlash
      rw [beq_eq_false_iff_ne.2 (Ne.symm h.1), Bool.or_false]
    rw [hc]

/-- What says the same has the same steps. -/
theorem no_step_of_decoded {segments others : List (List Char)}
    (h : segments.map decoded = others.map decoded)
    (hsteps : ∀ segment ∈ segments, ¬ IsStep segment) :
    ∀ segment ∈ others, ¬ IsStep segment := by
  intro segment hmem hstep
  obtain ⟨other, hother, heq⟩ := List.mem_map.1
    (h ▸ List.mem_map_of_mem (f := decoded) hmem)
  exact hsteps other hother (isStep_iff.2 (heq ▸ isStep_iff.1 hstep))

theorem isMark_of_isSlash (c : Char) (h : isSlash c = true) : IsMark c := by
  unfold isSlash at h
  simp only [Bool.or_eq_true, beq_iff_eq] at h
  rcases h with rfl | rfl <;> exact ⟨by decide, by decide, by decide⟩

/-- However the slashes of a path point, what it weighs is the same. -/
theorem weight_written (cs : List Char) :
    weight (written cs) = weight (cs.splitOn '/') := by
  rw [weight_eq_of_decoded (map_decoded_written cs),
    weight_splitOnP isMark_of_isSlash, List.splitOn_eq_splitOnP,
    weight_splitOnP fun c hc => isMark_of_isSlash c (by
      rw [beq_iff_eq.1 hc]
      decide)]

/-- **What is found behind an address says the path exactly if** the path has
no backslash and takes no step. -/
theorem walk_says_iff {found : List (List Char)} {cs : List Char} :
    (∃ behind, walk found (written cs) = found.reverse ++ behind ∧
        behind.map decoded = (cs.splitOn '/').map decoded) ↔
      '\\' ∉ cs ∧ ∀ segment ∈ cs.splitOn '/', ¬ IsStep segment := by
  constructor
  · rintro ⟨behind, hwalk, hsays⟩
    -- both sides weigh the same, and a step would have lost weight
    have hsteps : ∀ segment ∈ written cs, ¬ IsStep segment := by
      intro segment hmem hstep
      have hlt := (weight_walk (written cs) found).2 ⟨segment, hmem, hstep⟩
      rw [hwalk, weight_append, weight_reverse, weight_eq_of_decoded hsays,
        weight_written] at hlt
      omega
    rw [walk_of_no_step hsteps] at hwalk
    obtain rfl := List.append_cancel_left hwalk
    refine ⟨not_mem_of_countP_eq ?_, no_step_of_decoded hsays hsteps⟩
    -- a backslash would part the path once more
    have hlen := congrArg List.length hsays
    unfold written at hlen
    rw [List.length_map, List.length_map, List.length_map, length_splitOnP,
      List.splitOn_eq_splitOnP, length_splitOnP] at hlen
    exact Nat.succ.inj hlen
  · rintro ⟨hback, hsteps⟩
    have hsays : (written cs).map decoded = (cs.splitOn '/').map decoded := by
      rw [map_decoded_written, splitOnP_isSlash hback]
    exact ⟨written cs,
      walk_of_no_step (no_step_of_decoded hsays.symm hsteps) found, hsays⟩

end PolicyGateway.Http.Url
