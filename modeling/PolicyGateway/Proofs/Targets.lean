import PolicyGateway.Gateway.Service

/-!
# The targets of requests

Most requests name a path as their target, perhaps with a query behind it.
Such a target is kept as it is written, without its fragment: `IsOrigin` says
of which characters it consists, and a request that arrives with a slash in
front of its target has one (`exists_isOrigin`). What is forwarded is this
target and nothing else of the request line (`IsOrigin.targetOf_eq`).

Other targets start with a scheme, or are an authority or an asterisk. Whatever
the target, what is forwarded of it has one of three forms
(`targetOf_forms`). Its path is no longer than its text, which has a limit
(`length_path_le`).

**Why the form matters.** A target is put behind the address of the backend
service, and what comes of that depends on the character it starts with. A path
starts with a slash, which ends whatever stands in front of it. So it is worth
knowing which targets do not.
-/

namespace PolicyGateway

namespace Uri

/-- The text of a query behind a path. -/
def queryText : Option (List Char) → List Char
  | some query => '?' :: query
  | none => []

/-- **A target that is a path**, written as a slash, the rest of the path, and
the query if there is one. -/
structure IsOrigin (uri : Uri) (path : List Char)
    (query : Option (List Char)) : Prop where
  /-- It is a path and a query. -/
  eq : uri = .origin ⟨String.ofList ('/' :: path), query.map String.ofList⟩
  /-- The path consists of characters of a path. -/
  path : ∀ c ∈ path, isPathChar c = true
  /-- The query consists of characters of a query. -/
  query : ∀ cs, query = some cs → ∀ c ∈ cs, isQueryChar c = true

/-- A path and a query are read as they are written. -/
theorem readTarget_eq_ok {cs : List Char} {target : PathAndQuery}
    (h : readTarget cs = .ok target) :
    ∃ query, target = ⟨String.ofList (cs.takeWhile isPathChar),
        query.map String.ofList⟩ ∧
      ∀ cs, query = some cs → ∀ c ∈ cs, isQueryChar c = true := by
  unfold readTarget at h
  dsimp only at h
  split at h
  · cases h
    exact ⟨none, rfl, fun _ hnone => by cases hnone⟩
  · cases h
    exact ⟨none, rfl, fun _ hnone => by cases hnone⟩
  · next rest _ =>
    have hquery : ∀ c ∈ rest.takeWhile isQueryChar, isQueryChar c = true :=
      fun c hc => List.all_eq_true.1 List.all_takeWhile c hc
    split at h
    · cases h
      exact ⟨some _, rfl, fun _ hsome => by cases hsome; exact hquery⟩
    · cases h
      exact ⟨some _, rfl, fun _ hsome => by cases hsome; exact hquery⟩
    · cases h
  · cases h

/-- What is written is the path and the query behind it. -/
theorem written_ofList (path : List Char) (query : Option (List Char)) :
    PathAndQuery.written ⟨String.ofList path, query.map String.ofList⟩
      = String.ofList (path ++ queryText query) := by
  cases query with
  | none =>
    show String.ofList path = _
    unfold queryText
    rw [List.append_nil]
  | some cs =>
    show String.ofList path ++ "?" ++ String.ofList cs = _
    rw [show "?" = String.ofList ['?'] from rfl, ← String.ofList_append,
      ← String.ofList_append]
    unfold queryText
    rw [List.append_assoc, List.singleton_append]

/-- What starts with a slash is read as a target alone. -/
theorem exists_readTarget {target : String} {uri : Uri} {rest : List Char}
    (h : parse target = .ok uri) (hrest : target.toList = '/' :: rest) :
    ∃ read, readTarget ('/' :: rest) = .ok read ∧ uri = .origin read := by
  unfold parse at h
  rw [hrest] at h
  split at h
  · cases h
  · change (readTarget ('/' :: rest)).map origin = _ at h
    cases hread : readTarget ('/' :: rest) with
    | error fault =>
      rw [hread] at h
      cases h
    | ok read =>
      rw [hread] at h
      cases h
      exact ⟨read, rfl, rfl⟩

/-- **What starts with a slash is read as a path.** -/
theorem exists_isOrigin {target : String} {uri : Uri}
    (h : parse target = .ok uri) (hslash : target.toList.head? = some '/') :
    ∃ path query, IsOrigin uri path query := by
  obtain ⟨rest, hrest⟩ := List.head?_eq_some_iff.1 hslash
  obtain ⟨read, hread, rfl⟩ := exists_readTarget h hrest
  obtain ⟨query, rfl, hquery⟩ := readTarget_eq_ok hread
  rw [List.takeWhile_cons_of_pos (by decide)]
  exact ⟨_, query, rfl,
    fun c hc => List.all_eq_true.1 List.all_takeWhile c hc, hquery⟩

namespace IsOrigin

variable {uri : Uri} {path : List Char} {query : Option (List Char)}
  (h : IsOrigin uri path query)
include h

theorem path_eq : uri.path = String.ofList ('/' :: path) := by
  rw [h.eq]
  unfold Uri.path Uri.target?
  dsimp only
  rw [if_neg]
  simp [String.isEmpty_iff]

theorem query?_eq : uri.query? = query.map String.ofList := by
  rw [h.eq]
  rfl

/-- **The target is forwarded as it is written.** -/
theorem targetOf_eq :
    Gateway.Service.targetOf uri
      = String.ofList ('/' :: (path ++ queryText query)) := by
  rw [h.eq]
  show PathAndQuery.text _ = _
  unfold PathAndQuery.text
  rw [written_ofList, String.toList_ofList]
  rfl

/-- Every character of the target is visible. -/
theorem visible : ∀ c ∈ path ++ queryText query, 0x20 < c.toNat := by
  intro c hc
  rcases List.mem_append.1 hc with hc | hc
  · have hpath := h.path c hc
    unfold isPathChar at hpath
    simp only [Bool.and_eq_true, decide_eq_true_eq] at hpath
    omega
  · cases query with
    | none => cases hc
    | some cs =>
      rcases List.mem_cons.1 hc with rfl | hc
      · decide
      · have hquery := h.query cs rfl c hc
        unfold isQueryChar at hquery
        simp only [Bool.and_eq_true, decide_eq_true_eq] at hquery
        omega

/-- The path does not end in itself. -/
theorem not_endsPath : ∀ c ∈ '/' :: path, Http.Url.endsPath c = false := by
  intro c hc
  cases hends : Http.Url.endsPath c with
  | false => rfl
  | true =>
    have hchar : isPathChar c = true := by
      rcases List.mem_cons.1 hc with rfl | hc
      · decide
      · exact h.path c hc
    unfold Http.Url.endsPath at hends
    simp only [Bool.or_eq_true, beq_iff_eq] at hends
    rcases hends with rfl | rfl <;> exact absurd hchar (by decide)

/-- The path ends where the query begins. -/
theorem takeWhile_path :
    (path ++ queryText query).takeWhile (!Http.Url.endsPath ·) = path := by
  rw [List.takeWhile_append_of_pos fun c hc => by
    rw [h.not_endsPath c (List.mem_cons_of_mem '/' hc)]
    rfl]
  cases query with
  | none => exact List.append_nil path
  | some cs => exact List.append_nil path

/-- No fragment is left. -/
theorem not_mem_fragment : '#' ∉ '/' :: (path ++ queryText query) := by
  rw [← List.cons_append, List.mem_append, not_or]
  refine ⟨fun hmem => ?_, fun hmem => ?_⟩
  · exact absurd (h.not_endsPath '#' hmem) (by decide)
  · cases query with
    | none => cases hmem
    | some cs =>
      rcases List.mem_cons.1 hmem with hmem | hmem
      · exact absurd hmem (by decide)
      · exact absurd (h.query cs rfl '#' hmem) (by decide)

end IsOrigin

/-! ## Targets of any form

A target that is no path has been read as a URI with an authority, and of that
only the path and the query are forwarded. Where there is no path a slash stands
for it, except for an authority alone, of which nothing is forwarded. -/

/-- What is read as an authority stands in front, and no slash, question mark
or number sign is in it. One of them follows, or nothing. -/
theorem readAuthority_eq_ok {scan : AuthorityScan} {found cs : List Char}
    {authority rest : List Char}
    (h : readAuthority scan found cs = .ok (authority, rest)) :
    ∃ before, cs = before ++ rest ∧ before.any Http.Url.endsPath = false ∧
      ∀ c ∈ rest.head?, endsAuthority c = true := by
  induction cs generalizing scan found with
  | nil =>
    unfold readAuthority at h
    split at h
    · cases h
      exact ⟨[], rfl, rfl, nofun⟩
    · cases h
  | cons c more ih =>
    unfold readAuthority at h
    split at h
    · next hends =>
      split at h
      · cases h
        exact ⟨[], rfl, rfl, fun d hd => by cases hd; exact hends⟩
      · cases h
    · next hends =>
      split at h
      · -- the character is one of the authority, so it is no mark that ends a
        -- path
        obtain ⟨before, rfl, hbefore, hrest⟩ := ih h
        refine ⟨c :: before, rfl, ?_, hrest⟩
        rw [List.any_cons, hbefore, Bool.or_false]
        unfold endsAuthority at hends
        unfold Http.Url.endsPath
        simp only [Bool.not_eq_true, Bool.or_eq_false_iff] at hends ⊢
        exact ⟨hends.1.2, hends.2⟩
      · cases h

/-- **What does not start like a path** is an authority alone, or a scheme, an
authority and a target. -/
theorem exists_of_readFull {cs : List Char} {uri : Uri}
    (h : readFull cs = .ok uri) :
    (∃ authority, uri = .authorityOnly authority ∧
      readScheme cs = .ok none) ∨
    ∃ scheme text authority behind target,
      readScheme cs = .ok (some (scheme, text)) ∧
      readAuthority {} [] text = .ok (authority, behind) ∧
      readTarget behind = .ok target ∧
      uri = .absolute scheme (String.ofList authority) target := by
  unfold readFull at h
  -- the text has been asked for a scheme, then for an authority, then for a
  -- target
  cases hscheme : readScheme cs with
  | error fault =>
    rw [hscheme] at h
    cases h
  | ok found =>
    rw [hscheme] at h
    rcases found with - | ⟨scheme, text⟩
    · change (readAuthority {} [] cs >>= _) = _ at h
      cases hread : readAuthority {} [] cs with
      | error fault =>
        rw [hread] at h
        cases h
      | ok read =>
        rw [hread] at h
        change (if read.2.isEmpty then _ else _) = _ at h
        split at h
        · cases h
          exact .inl ⟨_, rfl, rfl⟩
        · cases h
    · change (if text.isEmpty then _ else _) = _ at h
      split at h
      · cases h
      · cases hread : readAuthority {} [] text with
        | error fault =>
          rw [hread] at h
          cases h
        | ok read =>
          rw [hread] at h
          change (if read.1.isEmpty then _ else _) = _ at h
          split at h
          · cases h
          · cases htarget : readTarget read.2 with
            | error fault =>
              rw [htarget] at h
              cases h
            | ok target =>
              rw [htarget] at h
              cases h
              exact .inr ⟨scheme, text, read.1, read.2, target, rfl, hread,
                htarget, rfl⟩

/-- Behind an authority the text of a target starts with a slash. -/
theorem head?_text {cs : List Char} {target : PathAndQuery}
    (h : readTarget cs = .ok target)
    (hcs : ∀ c ∈ cs.head?, endsAuthority c = true) :
    target.text.toList.head? = some '/' := by
  obtain ⟨query, rfl, -⟩ := readTarget_eq_ok h
  have hstar : ∀ rest, cs.takeWhile isPathChar ++ queryText query
      ≠ '*' :: rest := by
    intro rest heq
    cases cs with
    | nil => cases query <;> cases heq
    | cons c more =>
      have hends := hcs c rfl
      rw [List.takeWhile_cons] at heq
      split at heq
      · cases heq
        exact absurd hends (by decide)
      · cases query <;> cases heq
  unfold PathAndQuery.text
  rw [written_ofList, String.toList_ofList]
  split
  · next rest heq => rw [String.toList_ofList, heq]; rfl
  · next rest heq => exact absurd heq (hstar rest)
  · rw [String.toList_append]
    rfl

/-- **What is forwarded of a target**: nothing of an authority alone, an
asterisk, or something with a slash in front. -/
theorem targetOf_forms {target : String} {uri : Uri}
    (h : parse target = .ok uri) :
    Gateway.Service.targetOf uri = "" ∨ Gateway.Service.targetOf uri = "*" ∨
      (Gateway.Service.targetOf uri).toList.head? = some '/' := by
  have hnone : ∀ authority,
      Gateway.Service.targetOf (.authorityOnly authority) = "" := fun _ => rfl
  cases hslash : target.toList.head? == some '/' with
  | true =>
    obtain ⟨path, query, horigin⟩ := exists_isOrigin h (beq_iff_eq.1 hslash)
    rw [horigin.targetOf_eq, String.toList_ofList]
    exact .inr (.inr rfl)
  | false =>
    unfold parse at h
    split at h
    · cases h
    · split at h
      · cases h
      · cases h
        exact .inr (.inl (by decide))
      · next rest heq =>
        rw [heq] at hslash
        cases hslash
      · next c _ _ _ =>
        split at h
        · cases h
        · cases hread : readAuthority {} [] [c] with
          | error fault =>
            rw [hread] at h
            cases h
          | ok read =>
            rw [hread] at h
            cases h
            exact .inl (hnone _)
      · -- the authority ended in front of one of three marks, and a target may
        -- start with each of them
        rcases exists_of_readFull h with ⟨authority, rfl, -⟩ |
          ⟨_, _, _, _, _, -, hread, htarget, rfl⟩
        · exact .inl (hnone authority)
        · obtain ⟨-, -, -, hends⟩ := readAuthority_eq_ok hread
          exact .inr (.inr (head?_text htarget hends))

/-! ## How long a path is

The reader of a URI refuses a text beyond a limit, before it looks at anything.
A path is a part of the text, so the limit is one for paths and for the number
of their segments. -/

/-- A path that is read is a part of its text. -/
theorem length_path_of_readTarget {cs : List Char} {target : PathAndQuery}
    (h : readTarget cs = .ok target) :
    target.path.toList.length ≤ cs.length := by
  obtain ⟨query, rfl, -⟩ := readTarget_eq_ok h
  rw [String.toList_ofList]
  exact (List.takeWhile_prefix _).length_le

/-- So is what stands behind a scheme. -/
theorem length_of_readScheme {cs rest : List Char} {scheme : String}
    (h : readScheme cs = .ok (some (scheme, rest))) :
    rest.length ≤ cs.length := by
  -- the two schemes of the web are cut off as texts, any other one at its mark
  have hweb : ∀ {name rest}, webScheme? name cs = some rest →
      rest.length ≤ cs.length := by
    intro name rest h
    unfold webScheme? at h
    dsimp only at h
    split at h
    · cases h
      exact (List.drop_suffix _ _).length_le
    · cases h
  unfold readScheme at h
  split at h
  · next hhttp =>
    cases h
    exact hweb hhttp
  · split at h
    · next hhttps =>
      cases h
      exact hweb hhttps
    · dsimp only at h
      split at h
      · next behind hbehind =>
        have hpart := (List.dropWhile_suffix (l := cs) isSchemeChar).length_le
        rw [hbehind] at hpart
        split at h
        · cases h
        · split at h
          · cases h
          · cases h
            simp only [List.length_cons] at hpart
            omega
      · cases h

/-- **A path is no longer than the text of its URI**, where it is not the root
that stands for no path. -/
theorem length_path_le {text : String} {uri : Uri}
    (h : parse text = .ok uri) :
    uri.path.toList.length ≤ text.toList.length + 1 := by
  -- the one more is for the root, which stands for no path
  have hpath : ∀ target, uri.target? = some target →
      target.path.toList.length ≤ text.toList.length := by
    intro target htarget
    unfold parse at h
    split at h
    · cases h
    · split at h
      · cases h
      · next heq =>
        cases h
        cases htarget
        rw [heq]
        decide
      · next rest heq =>
        cases hread : readTarget ('/' :: rest) with
        | error fault =>
          rw [hread] at h
          cases h
        | ok read =>
          rw [hread] at h
          cases h
          cases htarget
          rw [heq]
          exact length_path_of_readTarget hread
      · next c _ _ _ =>
        split at h
        · cases h
        · cases hread : readAuthority {} [] [c] with
          | error fault =>
            rw [hread] at h
            cases h
          | ok read =>
            rw [hread] at h
            cases h
            cases htarget
      · -- a path behind an authority has lost the scheme and the authority in
        -- front
        rcases exists_of_readFull h with ⟨authority, rfl, -⟩ |
          ⟨_, _, _, _, _, hscheme, hauthority, hread, rfl⟩
        · cases htarget
        · cases htarget
          obtain ⟨before, rfl, -, -⟩ := readAuthority_eq_ok hauthority
          have := length_of_readScheme hscheme
          have := length_path_of_readTarget hread
          rw [List.length_append] at *
          omega
  unfold path
  split
  · next target htarget =>
    have := hpath target htarget
    split
    · exact Nat.le_add_left 1 _
    · omega
  · exact Nat.zero_le _

end Uri

/-- **A request that has arrived**: its target is read, its fields are taken
in, and its body ends where they say. -/
theorem Http.Inbound.exists_of_receive {method target : String}
    {fields : List (String × Http.FieldValue)} {bs : List UInt8}
    {inbound : Http.Inbound}
    (h : receive method target fields bs = .ok inbound) :
    ∃ uri headers framing body,
      Uri.parse target = .ok uri ∧
      fields.foldlM takeField ({}, .absent) = .ok (headers, framing) ∧
      bodyOf framing bs = .ok body ∧
      inbound = { method, uri, headers, body } := by
  unfold receive at h
  split at h
  · cases h
  · split at h
    · cases h
    · cases h
    · next uri huri =>
      split at h
      · cases h
      · cases hfields : fields.foldlM takeField ({}, .absent) with
        | error status =>
          rw [hfields] at h
          cases h
        | ok state =>
          rw [hfields] at h
          change (bodyOf state.2 bs >>= _) = _ at h
          cases hbody : bodyOf state.2 bs with
          | error status =>
            rw [hbody] at h
            cases h
          | ok body =>
            rw [hbody] at h
            cases h
            exact ⟨uri, state.1, state.2, body, huri, rfl, hbody, rfl⟩

/-- The URI of a request that has arrived is the one that its target
spells. -/
theorem Http.Inbound.parse_of_receive {method target : String}
    {fields : List (String × Http.FieldValue)} {bs : List UInt8}
    {inbound : Http.Inbound}
    (h : receive method target fields bs = .ok inbound) :
    Uri.parse target = .ok inbound.uri := by
  obtain ⟨uri, headers, framing, body, huri, -, -, rfl⟩ := exists_of_receive h
  exact huri

end PolicyGateway
