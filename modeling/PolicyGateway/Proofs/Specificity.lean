import PolicyGateway.Proofs.ExactRules
import PolicyGateway.Proofs.Targets

/-!
# More specific patterns

Two patterns may fit the same path, and then the more specific one should come
first. What decides is what their segments are worth, added up along the path.
`SumsTo` adds it up as a number, so that two patterns can be compared segment by
segment; the scores are these sums as words (`pathScore?_eq_some_iff_sumsTo`). It
is a relation and not a function because a pattern need not fit, and because an
induction on it has a case for each thing that a segment can be.

**What one segment decides.** Where two patterns differ in one segment, they do as
they should: a literal comes before `*`, and `*` before `**`, wherever the segment
stands and whatever follows it (`literal_one_rest_descend`). Of the sums this
holds on every path. Of the scores it holds as long as no sum is larger than a
word, and the last section has a path on which one is.

**A catch-all behind a pattern** is another matter. It fits every path that the
pattern fits, and more of them, yet it adds its weight even where nothing is left
for it. So it scores one more than the pattern that it extends, unless that is
the path itself; `extension_behind_iff` says when the pattern stays ahead. Whoever
writes a broad rule below a narrow one would expect the narrow one to be found.
-/

namespace PolicyGateway.Route

/-! ## What a pattern sums up to

Up to its first `**` a pattern takes the segments of the path one by one, and from
there on it takes them all. The sum has the same two parts, and stops where the
pattern stops looking: nothing that follows a `**` counts. -/

/-- **The segments of a pattern sum up** to so much along those of a path. -/
inductive SumsTo : List (List Char) → List (List Char) → Nat → Prop
  /-- Both have come to their end. -/
  | done : SumsTo [] [] 0
  /-- A `**` fits whatever is left. -/
  | rest (pattern path : List (List Char)) :
    SumsTo (restText :: pattern) path 1
  /-- Another segment fits one of the path. -/
  | step {expected actual : List Char} {pattern path : List (List Char)}
    {total : Nat} (single : expected ≠ restText)
    (fits : expected = oneText ∨ expected = actual)
    (later : SumsTo pattern path total) :
    SumsTo (expected :: pattern) (actual :: path) (worth expected + total)

section Sums

variable {pattern path : List (List Char)} {total : Nat}

/-- **The walk adds up** what the segments sum up to. -/
theorem scoreFrom_eq_some_iff_sumsTo {reached score : Score} :
    scoreFrom reached (pattern.map Segment.ofText) path = some score ↔
      ∃ total, SumsTo pattern path total ∧
        score = reached + UInt32.ofNat total := by
  -- on the pattern, which is what the walk goes down along; what was reached
  -- before is left open
  induction pattern generalizing path reached with
  | nil =>
    rw [List.map_nil]
    cases path with
    | nil =>
      rw [scoreFrom, Option.some.injEq, eq_comm]
      constructor
      · rintro rfl
        exact ⟨0, .done, (UInt32.add_zero _).symm⟩
      · rintro ⟨total, hsums, rfl⟩
        cases hsums
        exact UInt32.add_zero _
    | cons actual path =>
      rw [scoreFrom]
      constructor
      · intro h
        cases h
      · rintro ⟨_, hsums, _⟩
        cases hsums
  | cons expected pattern ih =>
    rw [List.map_cons]
    by_cases hrest : expected = restText
    · -- the walk is over, whatever is left of both
      subst hrest
      rw [show Segment.ofText restText = .rest from rfl, scoreFrom,
        Option.some.injEq, eq_comm]
      constructor
      · rintro rfl
        exact ⟨1, .rest _ _, rfl⟩
      · rintro ⟨total, hsums, rfl⟩
        cases hsums with
        | rest => rfl
        | step hsingle => exact absurd rfl hsingle
    · cases path with
      | nil =>
        rw [scoreFrom_cons_nil hrest]
        constructor
        · intro h
          cases h
        · rintro ⟨_, hsums, _⟩
          cases hsums
          exact absurd rfl hrest
      | cons actual path =>
        rw [scoreFrom_cons hrest]
        constructor
        · intro h
          split at h
          · next hfits =>
            obtain ⟨total, hsums, rfl⟩ := ih.1 h
            refine ⟨_, .step hrest hfits hsums, ?_⟩
            rw [UInt32.ofNat_add, UInt32.add_assoc]
          · cases h
        · rintro ⟨total, hsums, rfl⟩
          cases hsums with
          | rest => exact absurd rfl hrest
          | step _ hfits hsums =>
            rw [if_pos hfits, ih]
            refine ⟨_, hsums, ?_⟩
            rw [UInt32.ofNat_add, UInt32.add_assoc]

/-- A segment of the path adds ten at most, and a `**` one. -/
theorem SumsTo.le (h : SumsTo pattern path total) :
    total ≤ 10 * path.length + 1 := by
  induction h with
  | done => exact Nat.zero_le _
  | rest => exact Nat.le_add_left 1 _
  | @step expected _ _ _ _ _ _ _ ih =>
    have := worth_le expected
    rw [List.length_cons]
    omega

/-- Without a `**` the pattern has a segment for each one of the path. -/
theorem SumsTo.length_eq (h : SumsTo pattern path total)
    (hrest : restText ∉ pattern) : pattern.length = path.length := by
  induction h with
  | done => rfl
  | rest => exact absurd List.mem_cons_self hrest
  | step _ _ _ ih =>
    exact congrArg Nat.succ (ih fun h => hrest (List.mem_cons_of_mem _ h))

/-- Only a `**` makes a sum odd. -/
theorem SumsTo.even (h : SumsTo pattern path total)
    (hrest : restText ∉ pattern) : 2 ∣ total := by
  induction h with
  | done => exact Nat.dvd_zero 2
  | rest => exact absurd List.mem_cons_self hrest
  | @step expected _ _ _ _ _ _ _ ih =>
    refine Nat.dvd_add ?_ (ih fun h => hrest (List.mem_cons_of_mem _ h))
    unfold worth
    split <;> decide

/-- **The same segments in front of both** add what they are worth. -/
theorem SumsTo.behind_same {before : List (List Char)}
    (hrest : restText ∉ before) (h : SumsTo pattern path total) :
    SumsTo (before ++ pattern) (before ++ path)
      ((before.map worth).sum + total) := by
  induction before with
  | nil =>
    rw [List.map_nil, List.sum_nil, Nat.zero_add]
    exact h
  | cons segment before ih =>
    rw [List.mem_cons, not_or] at hrest
    rw [List.map_cons, List.sum_cons, Nat.add_assoc]
    exact .step (Ne.symm hrest.1) (.inr rfl) (ih hrest.2)

/-- **A path as a pattern** fits itself. -/
theorem SumsTo.self (hrest : restText ∉ path) :
    SumsTo path path (path.map worth).sum := by
  have h := SumsTo.behind_same hrest .done
  rwa [List.append_nil, Nat.add_zero] at h

/-- **A `**` behind a pattern** finds nothing left, and adds one. -/
theorem SumsTo.extend (h : SumsTo pattern path total)
    (hrest : restText ∉ pattern) :
    SumsTo (pattern ++ [restText]) path (total + 1) := by
  induction h with
  | done => exact .rest [] []
  | rest => exact absurd List.mem_cons_self hrest
  | step hsingle hfits _ ih =>
    rw [Nat.add_assoc]
    exact .step hsingle hfits (ih fun h => hrest (List.mem_cons_of_mem _ h))

end Sums

section OneSegment

variable {before behind path : List (List Char)} {total : Nat}

/-- **What comes to less stays behind** whatever is put in front of both, as long
as that has no `**`. -/
theorem SumsTo.behind_front {narrow wide : List (List Char)}
    (hbefore : restText ∉ before)
    (hless : ∀ path total, SumsTo narrow path total →
      ∃ fewer < total, SumsTo wide path fewer)
    (h : SumsTo (before ++ narrow) path total) :
    ∃ fewer < total, SumsTo (before ++ wide) path fewer := by
  -- along the common front, where both fit the same segments for the same
  induction before generalizing path total with
  | nil => exact hless path total h
  | cons expected before ih =>
    rw [List.mem_cons, not_or] at hbefore
    cases h with
    | rest => exact absurd rfl hbefore.1
    | step hsingle hfits hlater =>
      obtain ⟨fewer, hlt, hfewer⟩ := ih hbefore.2 hlater
      exact ⟨_, Nat.add_lt_add_left hlt _, .step hsingle hfits hfewer⟩

/-- **`*` in place of a literal** fits as well, for eight less. -/
theorem SumsTo.of_literal {text : List Char} (hone : text ≠ oneText)
    (hrest : text ≠ restText) (hbefore : restText ∉ before)
    (h : SumsTo (before ++ text :: behind) path total) :
    ∃ fewer < total, SumsTo (before ++ oneText :: behind) path fewer := by
  refine behind_front hbefore (fun path total h => ?_) h
  cases h with
  | rest => exact absurd rfl hrest
  | step _ _ hlater =>
    refine ⟨_, Nat.add_lt_add_right ?_ _, .step (by decide) (.inl rfl) hlater⟩
    unfold worth
    rw [if_neg hone, if_pos rfl]
    decide

/-- **`**` in place of `*`** fits as well, for less, whatever stands behind
it. -/
theorem SumsTo.of_one (hbefore : restText ∉ before)
    (h : SumsTo (before ++ oneText :: behind) path total) :
    ∃ fewer < total, SumsTo (before ++ restText :: behind) path fewer := by
  refine behind_front hbefore (fun path total h => ?_) h
  cases h with
  | step _ _ hlater =>
    refine ⟨1, ?_, .rest _ _⟩
    unfold worth
    rw [if_pos rfl]
    omega

end OneSegment

/-- **Another pattern scores what it sums up to**, as a word. -/
theorem pathScore?_eq_some_iff_sumsTo {pattern path : String}
    (hne : pattern ≠ path) {score : Score} :
    pathScore? pattern path = some score ↔
      ∃ total, SumsTo (segments pattern.toList) (segments path.toList) total ∧
        score = UInt32.ofNat total := by
  rw [pathScore?_of_ne hne, scoreFrom_eq_some_iff_sumsTo]
  simp only [UInt32.zero_add]

/-! ## One segment more or less specific

In front of the segment in question both patterns are the same, so what they add
there is the same too. That part may have no `**`, or neither pattern would ever
get to the segment. At the segment they part, and it is enough to say there that
the one fits for less than the other. -/

/-- **The rooted pattern of these segments**: a slash in front, and slashes
between them. Most rules are written in this way, with a slash in front. -/
def rooted (parts : List (List Char)) : String :=
  String.ofList ('/' :: ['/'].intercalate parts)

/-- **A pattern scores above another one** on a path: wherever it fits, the
other one fits too, and has the lower score. -/
def Above (narrow wide path : String) : Prop :=
  ∀ score, pathScore? narrow path = some score →
    ∃ lower, pathScore? wide path = some lower ∧ lower < score

/-- **A pattern sums up to more than another one** on a path: wherever it fits,
the other one fits too, and its sum is the lower one. The scores of both are
their sums as words.

This is less than `Above` says, and it is what holds of every path: a sum may be
too large for a word, and its word then says nothing of how it compares. -/
def Outsums (narrow wide path : String) : Prop :=
  ∀ score, pathScore? narrow path = some score →
    ∃ total fewer,
      SumsTo (segments narrow.toList) (segments path.toList) total ∧
      SumsTo (segments wide.toList) (segments path.toList) fewer ∧
      fewer < total ∧ score = UInt32.ofNat total ∧
      pathScore? wide path = some (UInt32.ofNat fewer)

theorem segments_rooted {parts : List (List Char)} (hne : parts ≠ [])
    (hslash : ∀ part ∈ parts, '/' ∉ part) :
    segments (rooted parts).toList = parts := by
  unfold rooted
  rw [String.toList_ofList]
  exact parts_iff.1 ⟨hne, hslash, rfl⟩

/-- One segment in place of another one brings no slash. -/
theorem slash_of_other {before behind : List (List Char)}
    {text other : List Char}
    (hslash : ∀ part ∈ before ++ text :: behind, '/' ∉ part)
    (hother : '/' ∉ other) :
    ∀ part ∈ before ++ other :: behind, '/' ∉ part := by
  rw [List.forall_mem_append, List.forall_mem_cons] at hslash ⊢
  exact ⟨hslash.1, hother, hslash.2.2⟩

/-- Of patterns that are not the path it is enough to compare what their segments
sum up to. -/
theorem outsums_of_sumsTo {narrow wide path : String}
    (hnarrow : narrow ≠ path) (hwide : wide ≠ path)
    (h : ∀ total,
      SumsTo (segments narrow.toList) (segments path.toList) total →
      ∃ fewer < total,
        SumsTo (segments wide.toList) (segments path.toList) fewer) :
    Outsums narrow wide path := by
  intro score hscore
  obtain ⟨total, htotal, rfl⟩ :=
    (pathScore?_eq_some_iff_sumsTo hnarrow).1 hscore
  obtain ⟨fewer, hlt, hfewer⟩ := h total htotal
  exact ⟨total, fewer, htotal, hfewer, hlt, rfl,
    (pathScore?_eq_some_iff_sumsTo hwide).2 ⟨fewer, hfewer, rfl⟩⟩

/-- **Where no sum wraps around**, the higher sum is the higher score. No segment
adds more than ten, and a `**` adds one, so the number of the path's segments is
enough to know it. -/
theorem Outsums.above {narrow wide path : String}
    (h : Outsums narrow wide path)
    (hexact : 10 * (segments path.toList).length + 1 < 2 ^ 32) :
    Above narrow wide path := by
  intro score hscore
  obtain ⟨total, fewer, htotal, -, hlt, rfl, hlower⟩ := h score hscore
  refine ⟨_, hlower, ?_⟩
  have hle := htotal.le
  rw [UInt32.lt_iff_toNat_lt,
    UInt32.toNat_ofNat_of_lt' (by rw [UInt32.size]; omega),
    UInt32.toNat_ofNat_of_lt' (by rw [UInt32.size]; omega)]
  exact hlt

/-- **No request that arrives makes a sum wrap around**: the text of its URI has
a limit. -/
theorem segments_of_receive {method target : String}
    {fields : List (String × Http.FieldValue)} {bs : List UInt8}
    {inbound : Http.Inbound}
    (h : Http.Inbound.receive method target fields bs = .ok inbound) :
    10 * (segments inbound.uri.path.toList).length + 1 < 2 ^ 32 := by
  have hparse := Http.Inbound.parse_of_receive h
  have hlimit : target.utf8ByteSize ≤ Uri.greatestLength := by
    unfold Uri.parse at hparse
    split at hparse
    · cases hparse
    · next hle => exact Nat.le_of_not_lt hle
  have hparts : Parts inbound.uri.path.toList
    (segments inbound.uri.path.toList) := parts_iff.2 rfl
  have hcount := hparts.length_le
  have hpath := Uri.length_path_le hparse
  have htext := length_le_utf8ByteSize target
  unfold Uri.greatestLength at hlimit
  omega

/-- So the higher sum is the higher score on the path of every request that
arrives. -/
theorem Outsums.above_of_receive {narrow wide method target : String}
    {fields : List (String × Http.FieldValue)} {bs : List UInt8}
    {inbound : Http.Inbound} (h : Outsums narrow wide inbound.uri.path)
    (hreceive : Http.Inbound.receive method target fields bs = .ok inbound) :
    Above narrow wide inbound.uri.path :=
  h.above (segments_of_receive hreceive)

section SamePlace

variable {before behind : List (List Char)} {path : String}

/-- **A literal sums up to more than `*`** at its place. -/
theorem outsums_literal {text : List Char}
    (hslash : ∀ part ∈ before ++ text :: behind, '/' ∉ part)
    (hbefore : restText ∉ before) (hone : text ≠ oneText)
    (hrest : text ≠ restText)
    (hliteral : rooted (before ++ text :: behind) ≠ path)
    (hsingle : rooted (before ++ oneText :: behind) ≠ path) :
    Outsums (rooted (before ++ text :: behind))
      (rooted (before ++ oneText :: behind)) path := by
  refine outsums_of_sumsTo hliteral hsingle fun total htotal => ?_
  rw [segments_rooted (by simp) hslash] at htotal
  rw [segments_rooted (by simp) (slash_of_other hslash (by decide))]
  exact htotal.of_literal hone hrest hbefore

/-- **`*` sums up to more than `**`** at its place. -/
theorem outsums_one
    (hslash : ∀ part ∈ before ++ oneText :: behind, '/' ∉ part)
    (hbefore : restText ∉ before)
    (hsingle : rooted (before ++ oneText :: behind) ≠ path)
    (hmany : rooted (before ++ restText :: behind) ≠ path) :
    Outsums (rooted (before ++ oneText :: behind))
      (rooted (before ++ restText :: behind)) path := by
  refine outsums_of_sumsTo hsingle hmany fun total htotal => ?_
  rw [segments_rooted (by simp) hslash] at htotal
  rw [segments_rooted (by simp) (slash_of_other hslash (by decide))]
  exact htotal.of_one hbefore

/-- **A literal comes before `*`, and `*` before `**`**, at the same place of the
same path: what stands in front has no `**`, and behind it stands whatever there
is. On every path the less specific one fits wherever the other does, and sums up
to less.

That it has the lower score too needs a proviso, ten for each segment of the path
and one more being no larger than the largest score. The proviso is not there for
the proof alone: two segments further down a literal scores 6, and `*` at its
place nearly as much as there is. A path as deep as this has more than four
hundred million segments, so that none of a request comes near it
(`Outsums.above_of_receive`). -/
theorem literal_one_rest_descend {text : List Char}
    (hslash : ∀ part ∈ before ++ text :: behind, '/' ∉ part)
    (hbefore : restText ∉ before) (hone : text ≠ oneText)
    (hrest : text ≠ restText)
    (hliteral : rooted (before ++ text :: behind) ≠ path)
    (hsingle : rooted (before ++ oneText :: behind) ≠ path)
    (hmany : rooted (before ++ restText :: behind) ≠ path) :
    Outsums (rooted (before ++ text :: behind))
        (rooted (before ++ oneText :: behind)) path ∧
      Outsums (rooted (before ++ oneText :: behind))
        (rooted (before ++ restText :: behind)) path ∧
      (10 * (segments path.toList).length + 1 < 2 ^ 32 →
        Above (rooted (before ++ text :: behind))
            (rooted (before ++ oneText :: behind)) path ∧
          Above (rooted (before ++ oneText :: behind))
            (rooted (before ++ restText :: behind)) path) := by
  have hfirst := outsums_literal hslash hbefore hone hrest hliteral hsingle
  have hsecond := outsums_one (slash_of_other hslash (by decide)) hbefore
    hsingle hmany
  exact ⟨hfirst, hsecond, fun hexact =>
    ⟨hfirst.above hexact, hsecond.above hexact⟩⟩

end SamePlace

/-- Open orders before those of any state, and these before all of them. -/
theorem openOrders_descend :
    (∀ part ∈ ["orders".toList] ++ "open".toList :: [oneText], '/' ∉ part) ∧
      restText ∉ ["orders".toList] ∧
      10 * (segments "/orders/open/7".toList).length + 1 < 2 ^ 32 ∧
      pathScore? "/orders/open/*" "/orders/open/7" = some 22 ∧
      Above "/orders/open/*" "/orders/*/*" "/orders/open/7" ∧
      Above "/orders/*/*" "/orders/**/*" "/orders/open/7" := by
  have hslash : ∀ part ∈ ["orders".toList] ++ "open".toList :: [oneText],
      '/' ∉ part := by decide
  have hbefore : restText ∉ ["orders".toList] := by decide
  have hliteral : rooted (["orders".toList] ++ "open".toList :: [oneText])
      = "/orders/open/*" := by decide +kernel
  have hsingle : rooted (["orders".toList] ++ oneText :: [oneText])
      = "/orders/*/*" := by decide +kernel
  have hmany : rooted (["orders".toList] ++ restText :: [oneText])
      = "/orders/**/*" := by decide +kernel
  have hexact : 10 * (segments "/orders/open/7".toList).length + 1 < 2 ^ 32 := by
    decide +kernel
  obtain ⟨-, -, hscores⟩ :=
    @literal_one_rest_descend _ _ "/orders/open/7" _ hslash hbefore (by decide)
      (by decide) (by rw [hliteral]; decide) (by rw [hsingle]; decide)
      (by rw [hmany]; decide)
  rw [hliteral, hsingle, hmany] at hscores
  exact ⟨hslash, hbefore, hexact, by decide +kernel, hscores hexact⟩

/-! ### Where sums wrap around

The sums of a deep enough path are larger than a word. What comes to just more
than a word then has a small score, and what comes to just less than one has a
large score, so that the more specific of two patterns comes last.

A pattern of this length cannot be written out, let alone be evaluated. Its score
is found from its last segments, `pathScore?_beneath` taking what stands in front
of them all at once. -/

/-- **The rooted pattern of these segments, deep down**: behind so many segments
of one letter. -/
def beneath (count : Nat) (parts : List (List Char)) : String :=
  rooted (List.replicate count ['a'] ++ parts)

theorem restText_notMem_replicate (count : Nat) :
    restText ∉ List.replicate count ['a'] := by
  intro h
  exact absurd (List.eq_of_mem_replicate h) (by decide)

section Beneath

variable (count : Nat) {parts others : List (List Char)}

theorem slash_beneath (hslash : ∀ part ∈ parts, '/' ∉ part) :
    ∀ part ∈ List.replicate count ['a'] ++ parts, '/' ∉ part := by
  intro part hpart
  rcases List.mem_append.1 hpart with hpart | hpart
  · rw [List.eq_of_mem_replicate hpart]
    decide
  · exact hslash part hpart

theorem segments_beneath (hne : parts ≠ [])
    (hslash : ∀ part ∈ parts, '/' ∉ part) :
    segments (beneath count parts).toList
      = List.replicate count ['a'] ++ parts :=
  segments_rooted (by simp [hne]) (slash_beneath count hslash)

/-- Other segments, deep down, are another pattern. -/
theorem beneath_ne (hne : parts ≠ []) (hslash : ∀ part ∈ parts, '/' ∉ part)
    (hother : others ≠ []) (hslashes : ∀ part ∈ others, '/' ∉ part)
    (h : parts ≠ others) : beneath count parts ≠ beneath count others := by
  intro heq
  have hsame : List.replicate count ['a'] ++ parts
      = List.replicate count ['a'] ++ others := by
    rw [← segments_beneath count hne hslash, heq,
      segments_beneath count hother hslashes]
  exact h (List.append_cancel_left hsame)

/-- **What a pattern scores deep down**: ten for each letter, and then as it
does. -/
theorem pathScore?_beneath {total : Nat} (hne : parts ≠ [])
    (hslash : ∀ part ∈ parts, '/' ∉ part) (hother : others ≠ [])
    (hslashes : ∀ part ∈ others, '/' ∉ part) (h : parts ≠ others)
    (hsums : SumsTo parts others total) :
    pathScore? (beneath count parts) (beneath count others)
      = some (UInt32.ofNat (10 * count + total)) := by
  rw [pathScore?_eq_some_iff_sumsTo
      (beneath_ne count hne hslash hother hslashes h),
    segments_beneath count hne hslash,
    segments_beneath count hother hslashes]
  have hdeep := hsums.behind_same (restText_notMem_replicate count)
  rw [List.map_replicate, List.sum_replicate_nat, Nat.mul_comm] at hdeep
  exact ⟨_, hdeep, rfl⟩

end Beneath

/-- A literal and `*` beneath so many segments that only the sum of the literal is
larger than a word: the literal scores 6, and `*` at its place nearly the largest
word. -/
theorem literal_wraps_below_one :
    (∀ part ∈ List.replicate 429496729 ['a'] ++ ['b'] :: [oneText],
        '/' ∉ part) ∧
      restText ∉ List.replicate 429496729 ['a'] ∧
      beneath 429496729 (['b'] :: [oneText])
        ≠ beneath 429496729 [['b'], ['c']] ∧
      beneath 429496729 (oneText :: [oneText])
        ≠ beneath 429496729 [['b'], ['c']] ∧
      beneath 429496729 (restText :: [oneText])
        ≠ beneath 429496729 [['b'], ['c']] ∧
      pathScore? (beneath 429496729 (['b'] :: [oneText]))
        (beneath 429496729 [['b'], ['c']]) = some 6 ∧
      pathScore? (beneath 429496729 (oneText :: [oneText]))
        (beneath 429496729 [['b'], ['c']]) = some 4294967294 ∧
      ¬ Above (beneath 429496729 (['b'] :: [oneText]))
        (beneath 429496729 (oneText :: [oneText]))
        (beneath 429496729 [['b'], ['c']]) := by
  have hliteral : SumsTo [['b'], oneText] [['b'], ['c']] 12 :=
    .step (by decide) (.inr rfl) (.step (by decide) (.inl rfl) .done)
  have hsingle : SumsTo [oneText, oneText] [['b'], ['c']] 4 :=
    .step (by decide) (.inl rfl) (.step (by decide) (.inl rfl) .done)
  have hlow := pathScore?_beneath 429496729 (by decide) (by decide) (by decide)
    (by decide) (by decide) hliteral
  have hhigh := pathScore?_beneath 429496729 (by decide) (by decide) (by decide)
    (by decide) (by decide) hsingle
  rw [show UInt32.ofNat (10 * 429496729 + 12) = 6 from by decide] at hlow
  rw [show UInt32.ofNat (10 * 429496729 + 4) = 4294967294 from by decide]
    at hhigh
  refine ⟨slash_beneath _ (by decide), restText_notMem_replicate _,
    beneath_ne _ (by decide) (by decide) (by decide) (by decide) (by decide),
    beneath_ne _ (by decide) (by decide) (by decide) (by decide) (by decide),
    beneath_ne _ (by decide) (by decide) (by decide) (by decide) (by decide),
    hlow, hhigh, fun habove => ?_⟩
  obtain ⟨lower, hlower, hlt⟩ := habove 6 hlow
  rw [hhigh, Option.some.injEq] at hlower
  subst hlower
  exact absurd hlt (by decide)

/-! ## A catch-all behind a pattern

A pattern without a `**` fits paths of its own length only, and on these the
catch-all finds nothing left. It adds one all the same. Sums without it are
even, so adding one never carries a score over the greatest word: the extension
is ahead by exactly one, wherever the pattern is neither empty nor the path. -/

/-- **The extension of a pattern**: the pattern and a catch-all behind it. It is
a broader rule for the same place and whatever is below. -/
def extended (pattern : String) : String :=
  pattern ++ "/**"

/-- **A pattern stays ahead of its extension** on a path. In the first case the
extension does not have the segments of the pattern, and in the second one the
pattern does not score by its segments. In every other case nothing makes up for
what the extension adds. -/
inductive StaysAhead (pattern path : String) : Prop
  /-- There is no pattern to extend, and the catch-all is all there is. -/
  | empty (nothing : pattern = "")
  /-- The pattern is the path, and its length counts for more than its segments
  and one. -/
  | verbatim (same : pattern = path)
    (longer : (((segments path.toList).map worth).sum + 1) % 2 ^ 32
      < min (1000 + path.utf8ByteSize) (2 ^ 32 - 1))

/-- **Rules for a pattern and for its extension**, which both admit a method.
Their keys may be written in any way. -/
structure AreExtension {α : Type} (pattern : String) (method : Option String)
    (narrow wide : Pattern × α) : Prop where
  /-- One is for the pattern. -/
  narrow_path : narrow.1.path = pattern
  /-- The other one is for its extension. -/
  wide_path : wide.1.path = extended pattern
  /-- The one admits the method. -/
  narrow_admits : narrow.1.admits method = true
  /-- So does the other one. -/
  wide_admits : wide.1.admits method = true

/-- A slash between the parts is a slash in front of the last one. -/
theorem intercalate_concat {parts : List (List Char)} (hne : parts ≠ [])
    (last : List Char) :
    ['/'].intercalate (parts ++ [last])
      = ['/'].intercalate parts ++ '/' :: last := by
  induction parts with
  | nil => exact absurd rfl hne
  | cons part rest ih =>
    cases rest with
    | nil =>
      rw [List.singleton_append, List.intercalate_cons_cons,
        List.intercalate_singleton, List.intercalate_singleton,
        List.append_assoc, List.singleton_append]
    | cons next rest =>
      rw [List.cons_append, List.cons_append, List.intercalate_cons_cons,
        List.intercalate_cons_cons, ← List.cons_append,
        ih (List.cons_ne_nil next rest), ← List.append_assoc]

theorem withoutRoot_append {cs : List Char} (hne : cs ≠ []) (ds : List Char) :
    withoutRoot (cs ++ ds) = withoutRoot cs ++ ds := by
  cases cs with
  | nil => exact absurd rfl hne
  | cons c rest =>
    unfold withoutRoot
    split
    · next heq =>
      cases heq
      rfl
    · next hno =>
      split
      · next heq =>
        cases heq
        exact absurd rfl (hno _)
      · rfl

theorem extended_ne (pattern : String) : extended pattern ≠ pattern := by
  intro heq
  have hlength := congrArg String.length heq
  unfold extended at hlength
  rw [String.length_append] at hlength
  exact absurd hlength (Nat.ne_of_gt (Nat.lt_add_of_pos_right (by decide)))

/-- An extension has the segments of the pattern and a `**`. -/
theorem segments_extended {pattern : String} (hne : pattern ≠ "") :
    segments (extended pattern).toList
      = segments pattern.toList ++ [restText] := by
  have hparts : Parts pattern.toList (segments pattern.toList) :=
    parts_iff.2 rfl
  refine parts_iff.1 ⟨by simp, fun part hpart => ?_, ?_⟩
  · rcases List.mem_append.1 hpart with hpart | hpart
    · exact hparts.slash part hpart
    · rw [List.mem_singleton.1 hpart]
      decide
  · unfold extended
    rw [intercalate_concat hparts.ne_nil, hparts.joined, String.toList_append,
      withoutRoot_append (by simpa using hne)]
    rfl

section Extension

variable {pattern path : String} (hrest : restText ∉ segments pattern.toList)
include hrest

/-- **What an extension scores** where the pattern fits: one where there is no
pattern, and otherwise what the pattern sums up to and one. -/
theorem pathScore?_extended {total : Nat}
    (h : SumsTo (segments pattern.toList) (segments path.toList) total) :
    pathScore? (extended pattern) path
      = some (if pattern = "" then 1 else UInt32.ofNat (total + 1)) := by
  have hlength := h.length_eq hrest
  by_cases hempty : pattern = ""
  · subst hempty
    have hne : extended "" ≠ path := by
      rintro rfl
      have hroot : segments "".toList = [[]] := by decide
      have hrests : segments (extended "").toList = [restText] := by decide
      rw [hroot, hrests] at h
      cases h with
      | step _ hfits => exact absurd hfits (by decide)
    rw [if_pos rfl, pathScore?_eq_some_iff_sumsTo hne]
    exact ⟨1, .rest [] _, rfl⟩
  · have hsegments := segments_extended hempty
    have hne : extended pattern ≠ path := by
      rintro rfl
      rw [hsegments, List.length_append] at hlength
      exact absurd hlength (Nat.ne_of_lt (Nat.lt_succ_self _))
    rw [if_neg hempty, pathScore?_eq_some_iff_sumsTo hne, hsegments]
    exact ⟨_, h.extend hrest, rfl⟩

/-- **A pattern that is not the path** falls behind its extension, by one. -/
theorem extended_of_ne (hempty : pattern ≠ "") (hne : pattern ≠ path)
    {score : Score} (h : pathScore? pattern path = some score) :
    pathScore? (extended pattern) path = some (score + 1) ∧
      score < score + 1 := by
  obtain ⟨total, htotal, rfl⟩ := (pathScore?_eq_some_iff_sumsTo hne).1 h
  have hwider := pathScore?_extended hrest htotal
  rw [if_neg hempty, UInt32.ofNat_add] at hwider
  refine ⟨hwider, ?_⟩
  -- an even number is not the largest word
  have heven := htotal.even hrest
  show UInt32.ofNat total < UInt32.ofNat total + UInt32.ofNat 1
  rw [← UInt32.ofNat_add, UInt32.lt_iff_toNat_lt, UInt32.toNat_ofNat',
    UInt32.toNat_ofNat']
  omega

omit hrest in
/-- **No pattern at all** stays ahead of the catch-all. -/
theorem extended_of_empty {score : Score}
    (h : pathScore? "" path = some score) :
    pathScore? (extended "") path = some 1 ∧ 1 < score := by
  have hroot : segments "".toList = [[]] := by decide
  have hrest : restText ∉ segments "".toList := by decide
  by_cases hpath : "" = path
  · subst hpath
    rw [pathScore?, if_pos rfl] at h
    cases h
    exact ⟨by decide +kernel, by decide +kernel⟩
  · obtain ⟨total, htotal, rfl⟩ := (pathScore?_eq_some_iff_sumsTo hpath).1 h
    have hwider := pathScore?_extended hrest htotal
    rw [if_pos rfl] at hwider
    refine ⟨hwider, ?_⟩
    rw [hroot] at htotal
    generalize segments path.toList = parts at htotal
    cases htotal with
    | step _ _ hlater =>
      cases hlater
      decide

/-- **When an extension scores less** than the pattern that it extends: where the
pattern stays ahead. -/
theorem extended_lt_iff {score : Score}
    (h : pathScore? pattern path = some score) :
    ∃ wider, pathScore? (extended pattern) path = some wider ∧
      (wider < score ↔ StaysAhead pattern path) := by
  by_cases hempty : pattern = ""
  · subst hempty
    obtain ⟨hwider, hlt⟩ := extended_of_empty h
    exact ⟨1, hwider, iff_of_true hlt (.empty rfl)⟩
  · by_cases hsame : pattern = path
    · subst hsame
      rw [pathScore?, if_pos rfl] at h
      cases h
      -- the path itself scores by its length, and its extension by its segments
      have hwider := pathScore?_extended hrest (SumsTo.self hrest)
      rw [if_neg hempty] at hwider
      refine ⟨_, hwider, ?_⟩
      rw [UInt32.lt_iff_toNat_lt, toNat_verbatimScore, UInt32.toNat_ofNat']
      constructor
      · exact .verbatim rfl
      · rintro (hnothing | ⟨-, hlonger⟩)
        · exact absurd hnothing hempty
        · exact hlonger
    · obtain ⟨hwider, hlt⟩ := extended_of_ne hrest hempty hsame h
      refine ⟨_, hwider, iff_of_false (UInt32.not_lt.2 (UInt32.le_of_lt hlt)) ?_⟩
      rintro (hnothing | ⟨heq, -⟩)
      · exact hempty hnothing
      · exact hsame heq

end Extension

namespace Table

variable {α : Type} {method : Option String} {path : String}

/-- **The answer leaves the other rules behind.** -/
theorem lt_of_best?_eq {table : Table α} {rule other : Pattern × α}
    {score reached : Score}
    (h : table.best? method path = .ok (some rule))
    (hother : other ∈ table.entries) (hne : other ≠ rule)
    (hscore : rule.1.score? method path = some score)
    (hreached : other.1.score? method path = some reached) :
    reached < score := by
  obtain ⟨top, before, after, hentries, htop, hbelow⟩ :=
    best?_eq_some_iff.1 h
  rw [hscore] at htop
  cases htop
  refine hbelow other ?_ reached hreached
  rw [hentries] at hother
  rcases List.mem_append.1 hother with hmem | hmem
  · exact List.mem_append_left _ hmem
  · exact List.mem_append_right _ ((List.mem_cons.1 hmem).resolve_left hne)

/-- **Two rules** answer with one of them exactly where it scores higher. -/
theorem best?_eq_iff_of_perm {table : Table α} {rule other : Pattern × α}
    {score reached : Score} (hperm : table.entries.Perm [rule, other])
    (hne : other ≠ rule)
    (hscore : rule.1.score? method path = some score)
    (hreached : other.1.score? method path = some reached) :
    table.best? method path = .ok (some rule) ↔ reached < score := by
  constructor
  · intro h
    exact lt_of_best?_eq h (hperm.mem_iff.2 (by simp)) hne hscore hreached
  · intro hlt
    obtain ⟨before, after, hentries⟩ :=
      List.append_of_mem (hperm.mem_iff.2 List.mem_cons_self)
    refine best?_eq_some_iff.2 ⟨score, before, after, hentries, hscore, ?_⟩
    rw [hentries] at hperm
    have hrest : (before ++ after).Perm [other] :=
      (List.perm_middle.symm.trans hperm).cons_inv
    intro third hthird lower hlower
    rw [hrest.mem_iff, List.mem_singleton] at hthird
    subst hthird
    rwa [score_unique hreached hlower]

/-- **When a pattern stays ahead of its extension**, of any pattern without a
`**` and any path that it fits. The extension fits too. It scores less exactly
where the pattern stays ahead, and one more where the pattern is neither empty
nor the path itself. Two rules answer with the pattern's own exactly where it
stays ahead, and among any rules the one that is behind is never the answer.

No bound on the length of the path is needed here. -/
theorem extension_behind_iff {pattern path : String}
    (hrest : restText ∉ segments pattern.toList) {score : Score}
    (h : pathScore? pattern path = some score) :
    ∃ wider, pathScore? (extended pattern) path = some wider ∧
      (wider < score ↔ StaysAhead pattern path) ∧
      (pattern ≠ "" → pattern ≠ path → wider = score + 1 ∧ score < wider) ∧
      ∀ (method : Option String) (narrow wide : Pattern × α),
        AreExtension pattern method narrow wide →
        ∀ table : Table α,
          (table.entries.Perm [narrow, wide] →
            (table.best? method path = .ok (some narrow) ↔
              StaysAhead pattern path) ∧
            (table.best? method path = .ok (some wide) ↔ score < wider)) ∧
          (narrow ∈ table.entries → wide ∈ table.entries →
            (StaysAhead pattern path →
              table.best? method path ≠ .ok (some wide)) ∧
            (¬ StaysAhead pattern path →
              table.best? method path ≠ .ok (some narrow))) := by
  obtain ⟨wider, hwider, hiff⟩ := extended_lt_iff hrest h
  refine ⟨wider, hwider, hiff, fun hempty hsame => ?_,
    fun method narrow wide hrules table => ?_⟩
  · obtain ⟨hone, hlt⟩ := extended_of_ne hrest hempty hsame h
    rw [hwider, Option.some.injEq] at hone
    rw [hone]
    exact ⟨rfl, hlt⟩
  · -- both rules score as their patterns do, since they admit the method
    have hnarrow : narrow.1.score? method path = some score := by
      rw [Pattern.score?, if_pos hrules.narrow_admits, hrules.narrow_path, h]
    have hwide : wide.1.score? method path = some wider := by
      rw [Pattern.score?, if_pos hrules.wide_admits, hrules.wide_path, hwider]
    have hne : wide ≠ narrow := by
      rintro rfl
      exact extended_ne pattern
        (hrules.wide_path.symm.trans hrules.narrow_path)
    refine ⟨fun hperm => ⟨?_, ?_⟩, fun hin hout => ⟨?_, ?_⟩⟩
    · rw [best?_eq_iff_of_perm hperm hne hnarrow hwide, hiff]
    · exact best?_eq_iff_of_perm (hperm.trans (List.Perm.swap _ _ _)) hne.symm
        hwide hnarrow
    · intro hahead hbest
      exact UInt32.lt_asymm (hiff.2 hahead)
        (lt_of_best?_eq hbest hin hne.symm hwide hnarrow)
    · intro hbehind hbest
      exact hbehind (hiff.1 (lt_of_best?_eq hbest hout hne hnarrow hwide))

/-- A rule for each user, and one for whatever is below. -/
def userRules : List (String × Nat) :=
  [("[/users/*]", 0), ("[/users/*/**]", 1)]

/-- A user is answered by the rule for whatever is below a user. -/
theorem users_answered_below :
    restText ∉ segments "/users/*".toList ∧
      pathScore? "/users/*" "/users/42" = some 12 ∧
      pathScore? (extended "/users/*") "/users/42" = some 13 ∧
      (ofList userRules).best? (some "GET") "/users/42"
        = .ok (some (Pattern.parse "[/users/*/**]", 1)) := by
  have hrest : restText ∉ segments "/users/*".toList := by decide +kernel
  have hscore : pathScore? "/users/*" "/users/42" = some 12 := by
    decide +kernel
  obtain ⟨wider, hwider, -, hmore, hrules⟩ :=
    @extension_behind_iff Nat _ _ hrest _ hscore
  obtain ⟨rfl, hlt⟩ := hmore (by decide) (by decide)
  have hpair : AreExtension "/users/*" (some "GET")
      (Pattern.parse "[/users/*]", 0) (Pattern.parse "[/users/*/**]", 1) :=
    ⟨by decide +kernel, by decide +kernel, by decide +kernel,
      by decide +kernel⟩
  have hanswer := (hrules _ _ _ hpair (ofList userRules)).1 (.refl _)
  exact ⟨hrest, hscore, hwider, hanswer.2.2 hlt⟩

end Table

end PolicyGateway.Route
