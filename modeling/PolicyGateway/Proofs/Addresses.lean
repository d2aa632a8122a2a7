import PolicyGateway.Proofs.PathSteps

/-!
# Addresses with a path behind them

An address is often made of another one and a path behind it. What the first
one comes to is then the same for every path, and it is one of two things. An
open address is still in its path, so what stands behind it is walked from the
segments that were found so far (`IsOpen.exists_found`). In a closed one a query
or a fragment has begun, and no path behind it counts (`basePath?_of_closed`).

`continues_iff` says when the path that is sent still says what was written
behind the first address.

**Why the first address is kept apart.** It is given once, with the settings,
while the path behind it changes with every request. To read the two together
again and again would say nothing about which of them is to blame when the
address comes out wrong. Read apart, the first one contributes a list of
segments, and the path a walk from there, so that everything else is a matter of
the path alone.
-/

namespace PolicyGateway.Http.Url

open PolicyGateway.Text (decoded)

/-! ## An address with a path behind it

An address is read in stages: what surrounds it is cleaned, the scheme is cut
off, slashes are skipped, and what is left falls into an authority and the rest.
Each stage is shown here to work on the text in front as it would on that text
alone, and to leave the path behind it untouched. That needs two things of the
path, a slash in front and no blank inside, for it is the slash that stops the
search for a scheme and that ends an authority. -/

/-- **The characters of an address that count** where more stands behind it.
Blanks at the end of an address are dropped as long as nothing follows. They are
kept once a path follows, unless they are of those that are ignored everywhere;
that is why the end is left alone here. -/
def front (base : String) : List Char :=
  (base.toList.dropWhile isEdge).filter (!isIgnored ·)

/-- What stands behind the authority that the text starts with, slashes in
front of it left out. -/
def tail (cs : List Char) : List Char :=
  (cs.dropWhile isSlash).dropWhile (!endsAuthority ·)

/-- The path and the query, where `tail` is followed by a slash and more. One
slash behind the authority is the one that a path starts with anyway, so it is
not taken for an empty segment. -/
def opened (tail behind : List Char) : List Char :=
  match tail with
  | [] => behind
  | c :: rest =>
    if isSlash c then rest ++ '/' :: behind else c :: rest ++ '/' :: behind

theorem not_isEdge {c : Char} (h : 0x20 < c.toNat) : isEdge c = false := by
  unfold isEdge
  exact decide_eq_false (Nat.not_le.2 h)

theorem not_isIgnored {c : Char} (h : 0x20 < c.toNat) :
    isIgnored c = false := by
  unfold isIgnored
  simp only [Bool.or_eq_false_iff, beq_eq_false_iff_ne]
  refine ⟨⟨?_, ?_⟩, ?_⟩ <;> rintro rfl <;> exact absurd h (by decide)

/-- Nothing is dropped in front of what stays. What stays stops the dropping,
even if all in front of it is dropped. -/
theorem dropWhile_append_of_head {p : Char → Bool} {c : Char}
    (hc : p c = false) (cs ds : List Char) :
    (cs ++ c :: ds).dropWhile p = cs.dropWhile p ++ c :: ds := by
  rw [List.dropWhile_append]
  split
  · next h =>
    rw [List.isEmpty_iff.1 h, List.dropWhile_cons_of_neg (by rw [hc]; simp)]
    rfl
  · rfl

/-- Nothing is taken from behind what stops. -/
theorem takeWhile_append_of_head {p : Char → Bool} {c : Char}
    (hc : p c = false) (cs ds : List Char) :
    (cs ++ c :: ds).takeWhile p = cs.takeWhile p := by
  induction cs with
  | nil => exact List.takeWhile_cons_of_neg (by rw [hc]; simp)
  | cons d rest ih =>
    rw [List.cons_append, List.takeWhile_cons, List.takeWhile_cons, ih]

/-- Nothing is taken from behind what holds a stop. -/
theorem takeWhile_append_of_any {p : Char → Bool} {cs : List Char}
    (h : cs.any p = true) (ds : List Char) :
    (cs ++ ds).takeWhile (!p ·) = cs.takeWhile (!p ·) := by
  induction cs with
  | nil => cases h
  | cons c rest ih =>
    rw [List.cons_append, List.takeWhile_cons, List.takeWhile_cons]
    cases hc : p c with
    | true => rfl
    | false =>
      rw [List.any_cons, hc, Bool.false_or] at h
      rw [ih h]

/-- **Behind an address all visible characters count.** -/
theorem cleaned_append (base : String) {c : Char} {cs : List Char}
    (h : ∀ d ∈ c :: cs, 0x20 < d.toNat) :
    cleaned (base ++ String.ofList (c :: cs)) = front base ++ c :: cs := by
  obtain ⟨last, before, hlast⟩ : ∃ last before,
      (c :: cs).reverse = last :: before :=
    List.exists_cons_of_ne_nil (by simp)
  have hvisible : 0x20 < last.toNat :=
    h last (List.mem_reverse.1 (hlast ▸ List.mem_cons_self))
  unfold cleaned front
  rw [String.toList_append, String.toList_ofList,
    dropWhile_append_of_head (not_isEdge (h c List.mem_cons_self)),
    List.reverse_append, hlast, List.cons_append,
    List.dropWhile_cons_of_neg (by rw [not_isEdge hvisible]; simp),
    ← List.cons_append, ← hlast, ← List.reverse_append, List.reverse_reverse,
    List.filter_append]
  refine congrArg (_ ++ ·) (List.filter_eq_self.2 fun d hd => ?_)
  rw [not_isIgnored (h d hd)]
  rfl

/-- A text is cut at its first mark, or behind it. -/
theorem cutFirst_append (mark : Char) (cs ds : List Char) :
    Text.cutFirst mark (cs ++ ds)
      = match Text.cutFirst mark cs with
        | some (before, after) => some (before, after ++ ds)
        | none => (Text.cutFirst mark ds).map fun p => (cs ++ p.1, p.2) := by
  induction cs with
  | nil => simp [Text.cutFirst]
  | cons c rest ih =>
    rw [List.cons_append, Text.cutFirst, Text.cutFirst]
    by_cases hc : c = mark
    · rw [if_pos hc, if_pos hc]
    · rw [if_neg hc, if_neg hc, ih]
      cases Text.cutFirst mark rest with
      | some p => rfl
      | none =>
        rw [Option.map_map]
        rfl

/-- **A slash ends the search for a scheme.** -/
theorem cutScheme_append (cs ds : List Char) :
    cutScheme (cs ++ '/' :: ds)
      = (cutScheme cs).map fun p => (p.1, p.2 ++ '/' :: ds) := by
  unfold cutScheme
  rw [cutFirst_append]
  cases hcut : Text.cutFirst ':' cs with
  | some p =>
    obtain ⟨before, after⟩ := p
    cases before with
    | nil => rfl
    | cons c name =>
      dsimp only
      split <;> rfl
  | none =>
    rw [Text.cutFirst, if_neg (by decide)]
    cases Text.cutFirst ':' ds with
    | none => rfl
    | some p =>
      obtain ⟨before, after⟩ := p
      cases cs with
      | nil => rfl
      | cons c name =>
        show (if _ then _ else _) = none
        refine if_neg ?_
        simp

/-- **An address is read in front of a path** as far as it reaches, and then
together with it. The scheme and the test of its name see the first address
alone. -/
theorem parse?_append (base : String) (cs : List Char)
    (h : ∀ c ∈ cs, 0x20 < c.toNat) :
    parse? (base ++ String.ofList ('/' :: cs))
      = (cutScheme (front base)).bind fun p =>
          (Scheme.ofName? p.1).bind fun scheme =>
            readFrom? scheme (p.2 ++ '/' :: cs) := by
  unfold parse?
  rw [cleaned_append base (by simpa using h), cutScheme_append]
  cases cutScheme (front base) <;> rfl

/-- **The authority ends in front of the path**, if there is any of it. -/
theorem readFrom?_append (scheme : Scheme) {rest : List Char}
    (h : rest.dropWhile isSlash ≠ []) (cs : List Char) :
    readFrom? scheme (rest ++ '/' :: cs)
      = (readAuthority? scheme
          ((rest.dropWhile isSlash).takeWhile (!endsAuthority ·))).map
          fun authority =>
            readTarget scheme authority [] (opened (tail rest) cs) := by
  have hdrop : (rest ++ '/' :: cs).dropWhile isSlash
      = rest.dropWhile isSlash ++ '/' :: cs := by
    rw [List.dropWhile_append, if_neg (by simpa using h)]
  unfold readFrom?
  rw [hdrop]
  dsimp only
  rw [takeWhile_append_of_head (by decide),
    dropWhile_append_of_head (by decide)]
  refine congrArg (Option.map · _) (funext fun authority => ?_)
  refine congrArg (readTarget scheme authority []) ?_
  unfold opened tail
  cases (rest.dropWhile isSlash).dropWhile (!endsAuthority ·) with
  | nil => rfl
  | cons c more => rfl

/-! ## Open and closed addresses

Where a question mark or a number sign stands in the first address, whatever is
put behind it goes into a query or a fragment. The address is then the same for
every path, as far as its own path goes. Otherwise the path goes on where the
address stopped. -/

/-- **An address is open** if a path can be written behind it: it is an address
with a slash at its end, and neither a query nor a fragment has begun in it.
Both conditions are about the first address alone, so they can be tested once
and for all. -/
structure IsOpen (base : String) : Prop where
  /-- With a slash at its end it is an address. -/
  isSome : (parse? (base ++ "/")).isSome
  /-- It is still in its path. -/
  inPath : base.toList.any endsPath = false

/-- **The path of an address** that stands in front of others: what it comes to
with a slash at its end, that slash left out where a path goes on. Without the
slash an address like that of a bare host would have no path to speak of, and
one that ends in a name would have it replaced instead of continued. -/
def basePath? (base : String) : Option (List String) :=
  (parse? (base ++ "/")).map fun url =>
    if base.toList.any endsPath then url.path else url.path.dropLast

theorem any_dropWhile {p q : Char → Bool}
    (h : ∀ c, p c = true → q c = false) (cs : List Char) :
    (cs.dropWhile q).any p = cs.any p := by
  induction cs with
  | nil => rfl
  | cons c rest ih =>
    rw [List.dropWhile_cons, List.any_cons]
    cases hp : p c with
    | true => rw [if_neg (by rw [h c hp]; simp), List.any_cons, hp]
    | false =>
      split
      · rw [ih, Bool.false_or]
      · rw [List.any_cons, hp]

/-- What ends a path is neither dropped in front of it nor ignored. -/
theorem not_skipped_of_endsPath {c : Char} (h : endsPath c = true) :
    isEdge c = false ∧ isIgnored c = false ∧ isSlash c = false ∧
      endsAuthority c = true := by
  unfold endsPath at h
  simp only [Bool.or_eq_true, beq_iff_eq] at h
  rcases h with rfl | rfl <;> decide

theorem any_front (base : String) :
    (front base).any endsPath = base.toList.any endsPath := by
  unfold front
  rw [List.any_filter, ← any_dropWhile (q := isEdge)
    fun c hc => (not_skipped_of_endsPath hc).1]
  refine congrArg (List.any _) (funext fun c => ?_)
  cases hc : endsPath c with
  | false => rw [Bool.and_false]
  | true =>
    rw [(not_skipped_of_endsPath hc).2.1]
    rfl

/-- A scheme holds nothing that ends a path. -/
theorem any_of_cutScheme {cs rest : List Char} {name : String}
    (h : cutScheme cs = some (name, rest)) :
    rest.any endsPath = cs.any endsPath := by
  unfold cutScheme at h
  split at h
  · next c before after hcut =>
    split at h
    · next hname =>
      cases h
      obtain ⟨hcs, -⟩ := Text.cutFirst_eq_some hcut
      have hbefore : (c :: before).any endsPath = false := by
        rw [Bool.and_eq_true, List.all_eq_true] at hname
        refine List.any_eq_false.2 fun d hd hends => ?_
        unfold endsPath at hends
        simp only [Bool.or_eq_true, beq_iff_eq] at hends
        rcases List.mem_cons.1 hd with rfl | hd
        · rcases hends with rfl | rfl <;> exact absurd hname.1 (by decide)
        · rcases hends with rfl | rfl <;>
            exact absurd (hname.2 _ hd) (by decide)
      rw [hcs, List.any_append, hbefore, Bool.false_or]
      rfl
    · cases h
  · cases h

theorem any_tail (rest : List Char) :
    (tail rest).any endsPath = rest.any endsPath := by
  unfold tail
  rw [any_dropWhile fun c hc => by rw [(not_skipped_of_endsPath hc).2.2.2]; rfl,
    any_dropWhile fun c hc => (not_skipped_of_endsPath hc).2.2.1]

theorem endsAuthority_of_tail {rest more : List Char} {c : Char}
    (h : tail rest = c :: more) : endsAuthority c = true := by
  have hhead := List.head?_dropWhile_not (!endsAuthority ·)
    (rest.dropWhile isSlash)
  unfold tail at h
  rw [h] at hhead
  simpa using hhead

/-- **Behind an address that has not ended its path** the path goes on. Which
segments come in front does not depend on what follows. -/
theorem exists_written_opened {rest : List Char}
    (h : rest.any endsPath = false) :
    ∃ before, ∀ cs,
      written ((opened (tail rest) cs).takeWhile (!endsPath ·))
        = before ++ written (cs.takeWhile (!endsPath ·)) := by
  have hany : (tail rest).any endsPath = false := by rw [any_tail, h]
  cases htail : tail rest with
  | nil => exact ⟨[], fun cs => rfl⟩
  | cons c more =>
    rw [htail, List.any_cons, Bool.or_eq_false_iff] at hany
    -- what follows the authority ends it, and no mark that ends a path is left
    -- to do so
    have hslash : isSlash c = true := by
      have hends := endsAuthority_of_tail htail
      unfold endsAuthority at hends
      unfold endsPath at hany
      cases hc : isSlash c with
      | true => rfl
      | false =>
        rw [hc, Bool.false_or] at hends
        rw [hends] at hany
        cases hany.1
    refine ⟨written more, fun cs => ?_⟩
    show written ((if isSlash c then more ++ '/' :: cs else _).takeWhile _) = _
    have hmore : ∀ d ∈ more, (!endsPath d) = true := fun d hd => by
      have := List.any_eq_false.1 hany.2 d hd
      simpa using this
    rw [if_pos hslash, List.takeWhile_append_of_pos hmore,
      List.takeWhile_cons_of_pos (by decide), written_append_cons]

/-- **Behind an address that has ended its path** nothing adds to it. -/
theorem takeWhile_opened {rest : List Char} (h : rest.any endsPath = true)
    (cs ds : List Char) :
    (opened (tail rest) cs).takeWhile (!endsPath ·)
      = (opened (tail rest) ds).takeWhile (!endsPath ·) := by
  have hany : (tail rest).any endsPath = true := by rw [any_tail, h]
  cases htail : tail rest with
  | nil =>
    rw [htail] at hany
    cases hany
  | cons c more =>
    rw [htail] at hany
    show (if isSlash c then more ++ '/' :: cs else c :: more ++ '/' :: cs
        ).takeWhile _
      = (if isSlash c then more ++ '/' :: ds else c :: more ++ '/' :: ds
        ).takeWhile _
    split
    · next hslash =>
      have hc : endsPath c = false := by
        cases hends : endsPath c with
        | false => rfl
        | true =>
          rw [(not_skipped_of_endsPath hends).2.2.1] at hslash
          cases hslash
      rw [List.any_cons, hc, Bool.false_or] at hany
      rw [takeWhile_append_of_any hany, takeWhile_append_of_any hany]
    · rw [takeWhile_append_of_any hany, takeWhile_append_of_any hany]

theorem readFrom?_slashes (scheme : Scheme) {rest : List Char}
    (h : rest.dropWhile isSlash = []) :
    readFrom? scheme (rest ++ ['/']) = none := by
  have hdrop : (rest ++ ['/']).dropWhile isSlash = [] := by
    rw [List.dropWhile_append, h]
    rfl
  unfold readFrom?
  rw [hdrop]
  rfl

theorem segments_nil (cs : List Char) :
    segments [] cs = (walk [] (written cs)).map String.ofList :=
  segments_eq [] cs

/-- **Behind an open address a path is walked**, from the segments that the
address comes to. They are kept in reverse, the way the walk keeps them, since a
step back takes the last one off. -/
theorem IsOpen.exists_found {base : String} (h : IsOpen base) :
    ∃ found : List (List Char),
      basePath? base = some (found.reverse.map String.ofList) ∧
      ∀ cs url, (∀ c ∈ cs, 0x20 < c.toNat) →
        parse? (base ++ String.ofList ('/' :: cs)) = some url →
        url.path = (walk found (written (cs.takeWhile (!endsPath ·)))).map
          String.ofList := by
  obtain ⟨whole, hwhole⟩ := Option.isSome_iff_exists.1 h.isSome
  have hslash := parse?_append base [] (by simp)
  rw [show String.ofList ['/'] = "/" from rfl, hwhole] at hslash
  obtain ⟨⟨name, rest⟩, hscheme, hslash⟩ :=
    Option.bind_eq_some_iff.1 hslash.symm
  obtain ⟨scheme, hname, hslash⟩ := Option.bind_eq_some_iff.1 hslash
  have hrest : rest.dropWhile isSlash ≠ [] := fun hnil => by
    rw [readFrom?_slashes scheme hnil] at hslash
    cases hslash
  have hany : rest.any endsPath = false := by
    rw [any_of_cutScheme hscheme, any_front, h.inPath]
  obtain ⟨before, hbefore⟩ := exists_written_opened hany
  -- the slash alone, which gives the path of the address, and a whole path
  -- behind it are walked from the same segments
  have hwalk (cs : List Char) (url : Url)
      (hurl : readFrom? scheme (rest ++ '/' :: cs) = some url) :
      url.path = (walk (before.foldl taken [])
        (written (cs.takeWhile (!endsPath ·)))).map String.ofList := by
    rw [readFrom?_append scheme hrest] at hurl
    obtain ⟨authority, -, rfl⟩ := Option.map_eq_some_iff.1 hurl
    show segments [] _ = _
    rw [segments_nil, hbefore, walk_append (written_ne_nil _)]
  refine ⟨before.foldl taken [], ?_, fun cs url hvisible hurl => ?_⟩
  · unfold basePath?
    rw [hwhole, Option.map_some, if_neg (by rw [h.inPath]; simp),
      hwalk [] whole hslash]
    show some (((walk _ [[]]).map String.ofList).dropLast) = _
    rw [walk_of_no_step (by simpa using not_isStep_nil), List.map_append]
    exact congrArg some List.dropLast_concat
  · rw [parse?_append base cs hvisible, hscheme, Option.bind_some, hname,
      Option.bind_some] at hurl
    exact hwalk cs url hurl

/-- **Behind a closed address no path counts.** So everything that a request
adds to such an address is lost on its path. -/
theorem basePath?_of_closed {base : String}
    (h : base.toList.any endsPath = true) {cs : List Char} {url : Url}
    (hvisible : ∀ c ∈ cs, 0x20 < c.toNat)
    (hurl : parse? (base ++ String.ofList ('/' :: cs)) = some url) :
    basePath? base = some url.path := by
  rw [parse?_append base cs hvisible] at hurl
  obtain ⟨⟨name, rest⟩, hscheme, hurl⟩ := Option.bind_eq_some_iff.1 hurl
  obtain ⟨scheme, hname, hurl⟩ := Option.bind_eq_some_iff.1 hurl
  have hany : rest.any endsPath = true := by
    rw [any_of_cutScheme hscheme, any_front, h]
  have hrest : rest.dropWhile isSlash ≠ [] := fun hnil => by
    rw [← any_dropWhile fun c hc => (not_skipped_of_endsPath hc).2.2.1,
      hnil] at hany
    cases hany
  rw [readFrom?_append scheme hrest] at hurl
  obtain ⟨authority, hauthority, rfl⟩ := Option.map_eq_some_iff.1 hurl
  unfold basePath?
  rw [show "/" = String.ofList ['/'] from rfl,
    parse?_append base [] (by simp), hscheme, Option.bind_some, hname,
    Option.bind_some, readFrom?_append scheme hrest, hauthority,
    Option.map_some, Option.map_some, if_pos h]
  refine congrArg some ?_
  show segments [] _ = segments [] _
  rw [takeWhile_opened hany [] cs]

/-! ## When a path says the same behind an address

It is the decoded segments that are compared. A writer may encode a character or
leave it as it is, and both say the same; but a segment that the walk swallows,
or a backslash that it takes for a slash, changes what is said. -/

/-- **An address goes on with these segments** behind another one: it starts
with the path of that one, and then says what they say. The segments of the
address itself may have been changed on the way, by steps among them. Only what
is put behind it is asked to say what it said. -/
def Continues (base : String) (url : Url) (segments : List (List Char)) :
    Prop :=
  ∃ before behind, basePath? base = some before ∧
    url.path = before ++ behind ∧
    behind.map (decoded ·.toList) = segments.map decoded

theorem map_toList_ofList (segments : List (List Char)) :
    (segments.map String.ofList).map String.toList = segments := by
  rw [List.map_map]
  exact List.map_id'' (fun cs => String.toList_ofList) segments

/-- **An address goes on with a path exactly if** it is open, and the path has
no backslash and takes no step. Each of the three can fail without the others,
and each is needed. -/
theorem continues_iff {base : String} {cs : List Char} {url : Url}
    (hvisible : ∀ c ∈ cs, 0x20 < c.toNat)
    (hurl : parse? (base ++ String.ofList ('/' :: cs)) = some url) :
    Continues base url ((cs.takeWhile (!endsPath ·)).splitOn '/') ↔
      IsOpen base ∧ '\\' ∉ cs.takeWhile (!endsPath ·) ∧
        ∀ segment ∈ (cs.takeWhile (!endsPath ·)).splitOn '/',
          ¬ IsStep segment := by
  constructor
  · rintro ⟨before, behind, hbefore, hpath, hsays⟩
    cases hany : base.toList.any endsPath with
    | true =>
      -- a closed address has its whole path already, and leaves nothing to say
      -- the segments
      rw [basePath?_of_closed hany hvisible hurl] at hbefore
      obtain rfl := Option.some.inj hbefore
      obtain rfl := List.self_eq_append_right.1 hpath
      exact absurd (List.map_eq_nil_iff.1 hsays.symm) (List.splitOn_ne_nil _ _)
    | false =>
      have hopen : IsOpen base := by
        refine ⟨?_, hany⟩
        obtain ⟨whole, hwhole, -⟩ := Option.map_eq_some_iff.1 hbefore
        rw [hwhole]
        rfl
      obtain ⟨found, hfound, hwalk⟩ := hopen.exists_found
      rw [hfound] at hbefore
      obtain rfl := Option.some.inj hbefore
      rw [hwalk cs url hvisible hurl] at hpath
      have hlists := congrArg (List.map String.toList) hpath
      rw [List.map_append, map_toList_ofList, map_toList_ofList] at hlists
      refine ⟨hopen, walk_says_iff.1 ⟨_, hlists, ?_⟩⟩
      rw [List.map_map]
      exact hsays
  · rintro ⟨hopen, hplain⟩
    obtain ⟨found, hfound, hwalk⟩ := hopen.exists_found
    obtain ⟨behind, hbehind, hsays⟩ := walk_says_iff.2 hplain
    refine ⟨_, behind.map String.ofList, hfound, ?_, ?_⟩
    · rw [hwalk cs url hvisible hurl, hbehind, List.map_append]
    · rw [← hsays, List.map_map]
      exact List.map_congr_left fun segment _ =>
        congrArg decoded String.toList_ofList

end PolicyGateway.Http.Url
