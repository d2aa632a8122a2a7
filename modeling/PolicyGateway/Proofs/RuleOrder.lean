import PolicyGateway.Proofs.RuleSelection

/-!
# The order of the rules does not decide

What a table answers hangs on the rules that reach the highest score, and on
nothing else. So it can be said of the rules as they are written, without
the search: there is no answer where no rule fits, a rule is the answer where
it leaves all others behind, and where several share the first place the
table names the keys of all of them, in its own order.

Two things follow. Writing the rules in another order changes no more than
the order of the names in an ambiguity (`Table.best?_perm`), and rules that
are not among the first may be added or taken away (`Table.best?_staying`).
`Table.selection_ignores_order` says all of it at once of the rules as they
are written.

**Why order is worth a statement.** In many tables of rules the first one that
fits wins, so that moving a rule changes what is allowed. Here a rule stands for
itself, and a table can be put together from several sources in whatever order
they come. What can go wrong is an ambiguity, and then the table says so and
answers nothing.
-/

namespace PolicyGateway.Route

variable {α : Type}

/-- A key keeps how it was written. -/
@[simp] theorem Pattern.raw_parse (raw : String) :
    (parse raw).raw = raw := by
  unfold parse
  dsimp only
  split
  · split <;> rfl
  · rfl

namespace Table

variable {method : Option String} {path : String}

/-! ## Rules in another order

The search goes through the rules in their order, and what it finds is the list
of those at the highest score. In another order this is the same list in another
order, with one rule, none, or several in it as before. -/

/-- **Two answers say the same**, the order of the names in an ambiguity apart.
A rule that is the answer is the same rule, its value included. -/
def SameAnswer : Except Ambiguity (Option (Pattern × α)) →
    Except Ambiguity (Option (Pattern × α)) → Prop
  | .ok found, .ok other => found = other
  | .error ambiguity, .error other =>
    ambiguity.path = other.path ∧ ambiguity.patterns.Perm other.patterns
  | _, _ => False

theorem Bounds.of_subset {rules others : List (Pattern × α)} {score : Score}
    (h : Bounds rules method path score) (hsub : others ⊆ rules) :
    Bounds others method path score :=
  fun rule hrule => h rule (hsub hrule)

/-- **The order of the rules does not count.** -/
theorem best?_perm {table other : Table α}
    (h : table.entries.Perm other.entries) :
    SameAnswer (table.best? method path) (other.best? method path) := by
  rcases table.best?_cases method path with
    ⟨hnone, heq⟩ | ⟨score, first, level, hreach, hbound, heq⟩
  · have hother : other.best? method path = .ok none :=
      best?_eq_none_iff.2 fun rule hrule => hnone rule (h.mem_iff.2 hrule)
    rw [heq, hother]
    rfl
  · have hperm : (first :: level).Perm
        (reaching other.entries method path score) := by
      rw [← hreach]
      exact h.filter _
    have hbother := hbound.of_subset h.symm.subset
    cases hrother : reaching other.entries method path score with
    | nil =>
      rw [hrother] at hperm
      exact absurd hperm.eq_nil (List.cons_ne_nil _ _)
    | cons leader others =>
      rw [hrother] at hperm
      rw [heq, best?_of_reaching hrother hbother]
      -- as many are level with the leader in either order
      have hempty : level = [] ↔ others = [] := by
        rw [← List.length_eq_zero_iff, ← List.length_eq_zero_iff]
        have hlength := hperm.length_eq
        rw [List.length_cons, List.length_cons] at hlength
        omega
      by_cases hlevel : level = []
      · rw [if_pos hlevel, if_pos (hempty.1 hlevel)]
        rw [hlevel, hempty.1 hlevel] at hperm
        exact congrArg some (List.singleton_perm_singleton.1 hperm)
      · rw [if_neg hlevel, if_neg (mt hempty.2 hlevel)]
        exact ⟨rfl, hperm.map fun rule => rule.1.raw⟩

/-! ## Rules that may be missing

A rule below the first place never has a say, not even when the ones above it
tie. So it may be there or not. The rules are given with a mark for whether they
stay, since the same rule may stand in a table twice, once to stay and once not.
-/

/-- **The items that stay**, of items marked with whether they do. They keep
their order, and how often each of them stands there. -/
def staying {β : Type} (marked : List (Bool × β)) : List β :=
  (marked.filter Prod.fst).map Prod.snd

theorem mem_staying {β : Type} {marked : List (Bool × β)} {item : β} :
    item ∈ staying marked ↔ (true, item) ∈ marked := by
  unfold staying
  simp

/-- Items that a condition excludes may be missing from those it selects. -/
theorem filter_staying {β : Type} {marked : List (Bool × β)}
    {selects : β → Bool}
    (h : ∀ item, (false, item) ∈ marked → selects item = false) :
    (staying marked).filter selects
      = (marked.map Prod.snd).filter selects := by
  induction marked with
  | nil => rfl
  | cons mark rest ih =>
    have hrest := ih fun item hitem => h item (List.mem_cons_of_mem _ hitem)
    obtain ⟨stays, item⟩ := mark
    cases stays with
    | false =>
      have hout : selects item = false := h item List.mem_cons_self
      rw [List.map_cons, List.filter_cons_of_neg (by simp [hout]), ← hrest]
      rfl
    | true =>
      show (item :: staying rest).filter selects = _
      rw [List.map_cons, List.filter_cons, List.filter_cons, hrest]

theorem staying_map {β γ : Type} (f : β → γ) (marked : List (Bool × β)) :
    staying (marked.map fun mark => (mark.1, f mark.2))
      = (staying marked).map f := by
  unfold staying
  rw [List.filter_map, List.map_map, List.map_map]
  rfl

/-- **A rule that is not among the first**: wherever it fits, another rule has a
higher score. A rule that fits nowhere is one as well. -/
def Outranked (rules : List (Pattern × α)) (method : Option String)
    (path : String) (rule : Pattern × α) : Prop :=
  ∀ score, rule.1.score? method path = some score →
    ∃ other ∈ rules, ∃ higher,
      other.1.score? method path = some higher ∧ score < higher

/-- Nothing that is not among the first reaches the highest score. -/
theorem Outranked.score?_ne {rules : List (Pattern × α)}
    {rule : Pattern × α} {score : Score}
    (h : Outranked rules method path rule)
    (hbound : Bounds rules method path score) :
    rule.1.score? method path ≠ some score := by
  intro hs
  obtain ⟨other, hother, higher, hhigher, hlt⟩ := h score hs
  exact absurd hlt (UInt32.not_lt.2 (hbound other hother higher hhigher))

/-- **Rules that are not among the first do not count**: with or without them,
the table answers the same. The order of those that stay is kept. -/
theorem best?_staying {marked : List (Bool × (Pattern × α))}
    (h : ∀ rule, (false, rule) ∈ marked →
      Outranked (marked.map Prod.snd) method path rule) :
    Table.best? ⟨staying marked⟩ method path
      = Table.best? ⟨marked.map Prod.snd⟩ method path := by
  have hsub : staying marked ⊆ marked.map Prod.snd := fun rule hrule =>
    List.mem_map_of_mem (f := Prod.snd) (mem_staying.1 hrule)
  rcases best?_cases ⟨marked.map Prod.snd⟩ method path with
    ⟨hnone, heq⟩ | ⟨score, first, level, hreach, hbound, heq⟩
  · rw [heq, best?_eq_none_iff]
    exact fun rule hrule => hnone rule (hsub hrule)
  · have hkept : reaching (staying marked) method path score
        = first :: level := by
      rw [← hreach]
      exact filter_staying fun rule hrule =>
        decide_eq_false ((h rule hrule).score?_ne hbound)
    rw [heq]
    exact best?_of_reaching hkept (hbound.of_subset hsub)

/-! ## Rules as they are written

A table is written as keys with values. Nothing is lost by taking the keys
apart, because each pattern keeps its key; an ambiguity can therefore be told in
the words of whoever wrote the rules. -/

/-- **A rule as it is written**, taken apart. The value goes along unchanged. -/
def takenApart (rule : String × α) : Pattern × α :=
  (Pattern.parse rule.1, rule.2)

theorem entries_ofList (rules : List (String × α)) :
    (ofList rules).entries = rules.map takenApart :=
  rfl

/-- **The keys that reach a score** on a request, as they are written and in
their order. -/
def keysReaching (rules : List (String × α)) (method : Option String)
    (path : String) (score : Score) : List String :=
  (rules.filter fun rule =>
    (Pattern.parse rule.1).score? method path = some score).map Prod.fst

theorem raw_reaching_ofList (rules : List (String × α)) (score : Score) :
    (reaching (ofList rules).entries method path score).map (·.1.raw)
      = keysReaching rules method path score := by
  unfold reaching keysReaching
  rw [entries_ofList, List.filter_map, List.map_map]
  exact List.map_congr_left fun rule _ => Pattern.raw_parse rule.1

/-- **A table is ambiguous exactly where several rules share the highest
score**, and names those. -/
theorem best?_eq_error_iff {table : Table α} {ambiguity : Ambiguity} :
    table.best? method path = .error ambiguity ↔
      ∃ score, Bounds table.entries method path score ∧
        2 ≤ (reaching table.entries method path score).length ∧
        ambiguity =
          { path
            patterns := (reaching table.entries method path score).map
              (·.1.raw) } := by
  constructor
  · intro h
    -- the ambiguity names those that reach the highest score, of whom there are
    -- two
    rcases table.best?_cases method path with
      ⟨-, heq⟩ | ⟨score, first, level, hreach, hbound, heq⟩
    · rw [heq] at h
      cases h
    · rw [heq] at h
      split at h
      · cases h
      · next hlevel =>
        cases h
        refine ⟨score, hbound, ?_, by rw [hreach]⟩
        rw [hreach, List.length_cons]
        exact Nat.succ_le_succ (List.length_pos_iff.2 hlevel)
  · rintro ⟨score, hbound, htwo, rfl⟩
    cases hreach : reaching table.entries method path score with
    | nil =>
      rw [hreach] at htwo
      cases htwo
    | cons first level =>
      rw [best?_of_reaching hreach hbound, if_neg]
      rintro rfl
      rw [hreach] at htwo
      exact absurd htwo (Nat.not_succ_le_self 1)

/-- **The order of the rules does not decide.** A table of rules answers nothing
exactly where none fits, a rule exactly where it is the one best, and an
ambiguity exactly where several share the highest score, which names the keys of
these and no others. The same rules in another order answer the same, and so do
the rules that stay where only such are left out that do not fit or are
outranked.

The rules left out may be any, as long as each of them does not fit or is below
another one. It is not asked that this other one stays. -/
theorem selection_ignores_order (rules : List (String × α))
    (method : Option String) (path : String) :
    let table := ofList rules
    (table.best? method path = .ok none ↔ table.Unmatched method path) ∧
    (∀ rule, table.best? method path = .ok (some rule) ↔
      table.IsBest method path rule) ∧
    (∀ ambiguity, table.best? method path = .error ambiguity ↔
      ∃ score, Bounds table.entries method path score ∧
        2 ≤ (keysReaching rules method path score).length ∧
        ambiguity =
          { path, patterns := keysReaching rules method path score }) ∧
    (∀ other, rules.Perm other →
      SameAnswer (table.best? method path)
        ((ofList other).best? method path)) ∧
    (∀ marked, marked.map Prod.snd = rules →
      (∀ rule, (false, rule) ∈ marked →
        Outranked table.entries method path (takenApart rule)) →
      (ofList (staying marked)).best? method path
        = table.best? method path) := by
  refine ⟨best?_eq_none_iff, fun rule => best?_eq_some_iff,
    fun ambiguity => ?_, fun other hperm => best?_perm (hperm.map _), ?_⟩
  · rw [best?_eq_error_iff]
    refine exists_congr fun score => and_congr_right fun _ => ?_
    rw [raw_reaching_ofList, ← raw_reaching_ofList rules score,
      List.length_map]
  · rintro marked rfl hout
    -- the marks are those of the rules taken apart
    let marks := marked.map fun mark => (mark.1, takenApart mark.2)
    have hmarks : marks.map Prod.snd
        = (ofList (marked.map Prod.snd)).entries := by
      rw [entries_ofList, List.map_map, List.map_map]
      rfl
    have houtranked : ∀ rule, (false, rule) ∈ marks →
        Outranked (marks.map Prod.snd) method path rule := by
      intro rule hrule
      obtain ⟨mark, hmark, heq⟩ := List.mem_map.1 hrule
      obtain ⟨stays, written⟩ := mark
      cases heq
      rw [hmarks]
      exact hout written hmark
    have hsame := best?_staying houtranked
    rwa [staying_map, hmarks] at hsame

/-- Rules for orders. The last two fit one order equally well, and better
than the first. -/
def orderRules : List (String × Nat) :=
  [("[/orders/**]", 0), ("[/orders/*:GET]", 1), ("[/*/7]", 2)]

/-- Two rules share the first place, whatever becomes of the third and
however they are written. -/
theorem selection_of_orderRules :
    (ofList orderRules).best? (some "get") "/orders/7"
        = .error ⟨"/orders/7", ["[/orders/*:GET]", "[/*/7]"]⟩ ∧
      (ofList orderRules.tail).best? (some "get") "/orders/7"
        = .error ⟨"/orders/7", ["[/orders/*:GET]", "[/*/7]"]⟩ ∧
      SameAnswer ((ofList orderRules).best? (some "get") "/orders/7")
        ((ofList orderRules.reverse).best? (some "get") "/orders/7") := by
  obtain ⟨-, -, hambiguous, hperm, hstaying⟩ :=
    selection_ignores_order orderRules (some "get") "/orders/7"
  have hscores : (ofList orderRules).entries.map
      (fun rule => rule.1.score? (some "get") "/orders/7")
        = [some 11, some 12, some 12] := by decide +kernel
  have hkeys : keysReaching orderRules (some "get") "/orders/7" 12
      = ["[/orders/*:GET]", "[/*/7]"] := by decide +kernel
  have hbound : Bounds (ofList orderRules).entries (some "get") "/orders/7"
      12 := by
    intro rule hrule reached hreached
    have hmem := List.mem_map_of_mem
      (f := fun rule => rule.1.score? (some "get") "/orders/7") hrule
    rw [hscores, hreached] at hmem
    simp only [List.mem_cons, Option.some.injEq, List.not_mem_nil,
      or_false, or_self] at hmem
    rcases hmem with rfl | rfl <;> decide
  have herror := (hambiguous _).2 ⟨12, hbound, by rw [hkeys]; decide, rfl⟩
  rw [hkeys] at herror
  refine ⟨herror, ?_, hperm _ (List.reverse_perm orderRules).symm⟩
  rw [← herror]
  refine hstaying [(false, ("[/orders/**]", 0)),
    (true, ("[/orders/*:GET]", 1)), (true, ("[/*/7]", 2))] rfl
    fun rule hrule score hscore => ?_
  have hfirst : rule = ("[/orders/**]", 0) := by simpa using hrule
  subst hfirst
  refine ⟨takenApart ("[/*/7]", 2), by simp [entries_ofList, orderRules], 12,
    by decide +kernel, ?_⟩
  have heleven : (takenApart ("[/orders/**]", 0)).1.score? (some "get")
      "/orders/7" = some 11 := by decide +kernel
  rw [heleven] at hscore
  cases hscore
  decide

end Table

end PolicyGateway.Route
