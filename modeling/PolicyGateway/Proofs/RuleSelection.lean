import PolicyGateway.Route.Table

/-!
# Which rule a table selects

The search of a table carries a leader and those that have drawn level with
it. What it finds can be said without a search: take the rules that reach
the highest score. If there is none, no rule fits; if there is one, it is
the answer; if there are several, the table is ambiguous and names them all
(`Table.best?_cases`).

The invariant of the search is `Leads`: the leader and its equals are
exactly the rules so far that reach the leader's score, and no rule so far
has a higher one.

**Why an invariant.** The search goes through the rules once and forgets those
that have fallen behind. At the end only the leader is known, and that it is the
best of all has to be carried along, rule by rule. `Leads` is what is carried;
everything that is said of a table elsewhere comes from `Table.best?_cases`, and
the search is not opened again.
-/

namespace PolicyGateway.Route

variable {α : Type}

namespace Table

/-- **The rules of a list that reach a score** on a request, in their
order. -/
def reaching (rules : List (Pattern × α)) (method : Option String)
    (path : String) (score : Score) : List (Pattern × α) :=
  rules.filter fun rule => rule.1.score? method path = some score

/-- Whether no rule of a list has a higher score on a request. The score need
not be reached by any of them. -/
def Bounds (rules : List (Pattern × α)) (method : Option String)
    (path : String) (score : Score) : Prop :=
  ∀ rule ∈ rules, ∀ reached,
    rule.1.score? method path = some reached → reached ≤ score

/-- **The one best rule**: it fits, and every other rule that fits has a lower
score. A rule that stands in the table twice is another rule each time. Two
rules with the same pattern are two rules, and neither is the one best. -/
def IsBest (table : Table α) (method : Option String) (path : String)
    (rule : Pattern × α) : Prop :=
  ∃ score before after,
    table.entries = before ++ rule :: after ∧
    rule.1.score? method path = some score ∧
    ∀ other ∈ before ++ after, ∀ reached,
      other.1.score? method path = some reached → reached < score

/-- **No rule fits** a request. This is no failure: what follows from it is for
the check to say. -/
def Unmatched (table : Table α) (method : Option String) (path : String) :
    Prop :=
  ∀ rule ∈ table.entries, rule.1.score? method path = none

end Table

/-! ## The invariant of the search

A step looks at one rule more. It may not fit, or be below the leader, level
with it or above it, and these are the cases below. In each of them those at the
highest score stay in the order of the table, which is what an ambiguity is told
in. -/

/-- **What the leader stands for**: among these rules nobody fits, or the leader
and its equals are those that reach the highest score. Those that are level with
the leader are kept, because where there are any the leader is no answer. -/
def Leads (method : Option String) (path : String)
    (rules : List (Pattern × α)) : Option (Leader α) → Prop
  | none => ∀ rule ∈ rules, rule.1.score? method path = none
  | some leader =>
    Table.reaching rules method path leader.score
        = leader.first :: leader.level.reverse
      ∧ Table.Bounds rules method path leader.score

section Search

variable {method : Option String} {path : String}

theorem Table.reaching_append (rules later : List (Pattern × α))
    (score : Score) :
    Table.reaching (rules ++ later) method path score
      = Table.reaching rules method path score
        ++ Table.reaching later method path score :=
  List.filter_append ..

theorem Table.reaching_singleton (rule : Pattern × α) (score : Score) :
    Table.reaching [rule] method path score
      = if rule.1.score? method path = some score then [rule] else [] := by
  unfold Table.reaching
  by_cases h : rule.1.score? method path = some score <;> simp [h]

theorem Table.bounds_concat {rules : List (Pattern × α)}
    {rule : Pattern × α} {score : Score} :
    Table.Bounds (rules ++ [rule]) method path score
      ↔ Table.Bounds rules method path score
        ∧ ∀ reached, rule.1.score? method path = some reached →
            reached ≤ score := by
  unfold Table.Bounds
  simp only [List.forall_mem_append, List.forall_mem_singleton]

/-- Nobody reaches a score above a bound. -/
theorem Table.reaching_eq_nil {rules : List (Pattern × α)}
    {score top : Score} (h : Table.Bounds rules method path top)
    (hlt : top < score) : Table.reaching rules method path score = [] := by
  refine List.filter_eq_nil_iff.2 fun rule hrule hs => ?_
  have hle := h rule hrule score (by simpa using hs)
  exact absurd hlt (UInt32.not_lt.2 hle)

/-- A rule reaches one score. -/
theorem score_unique {rule : Pattern × α} {score reached : Score}
    (hs : rule.1.score? method path = some score)
    (hr : rule.1.score? method path = some reached) : reached = score := by
  rw [hs] at hr
  exact (Option.some.inj hr).symm

/-- A rule that does not fit leaves the search as it is. -/
theorem Leads.skip {rules : List (Pattern × α)}
    {leader : Option (Leader α)} (h : Leads method path rules leader)
    {rule : Pattern × α} (hnone : rule.1.score? method path = none) :
    Leads method path (rules ++ [rule]) leader := by
  cases leader with
  | none =>
    exact List.forall_mem_append.2 ⟨h, List.forall_mem_singleton.2 hnone⟩
  | some top =>
    refine ⟨?_, Table.bounds_concat.2 ⟨h.2, fun reached hr => ?_⟩⟩
    · rw [Table.reaching_append, h.1, Table.reaching_singleton, hnone]
      simp
    · rw [hnone] at hr
      cases hr

/-- The first rule that fits leads. -/
theorem Leads.lead {rules : List (Pattern × α)}
    (h : Leads method path rules none) {rule : Pattern × α} {score : Score}
    (hs : rule.1.score? method path = some score) :
    Leads method path (rules ++ [rule]) (some ⟨score, rule, []⟩) := by
  refine ⟨?_, Table.bounds_concat.2 ⟨fun other ho reached hr => ?_,
    fun reached hr => UInt32.le_of_eq (score_unique hs hr)⟩⟩
  · have hnil : Table.reaching rules method path score = [] :=
      List.filter_eq_nil_iff.2 fun other ho => by simp [h other ho]
    rw [Table.reaching_append, hnil, Table.reaching_singleton, if_pos hs]
    rfl
  · rw [h other ho] at hr
    cases hr

/-- A rule below the leader does not count. -/
theorem Leads.below {rules : List (Pattern × α)} {top : Leader α}
    (h : Leads method path rules (some top)) {rule : Pattern × α}
    {score : Score} (hs : rule.1.score? method path = some score)
    (hlt : score < top.score) :
    Leads method path (rules ++ [rule]) (some top) := by
  refine ⟨?_, Table.bounds_concat.2 ⟨h.2, fun reached hr => ?_⟩⟩
  · have hne : ¬ rule.1.score? method path = some top.score := by
      rw [hs]
      exact fun he => UInt32.ne_of_lt hlt (Option.some.inj he)
    rw [Table.reaching_append, h.1, Table.reaching_singleton, if_neg hne,
      List.append_nil]
  · rw [score_unique hs hr]
    exact UInt32.le_of_lt hlt

/-- A rule level with the leader is kept beside it. -/
theorem Leads.beside {rules : List (Pattern × α)} {top : Leader α}
    (h : Leads method path rules (some top)) {rule : Pattern × α}
    (hs : rule.1.score? method path = some top.score) :
    Leads method path (rules ++ [rule])
      (some { top with level := rule :: top.level }) := by
  refine ⟨?_, Table.bounds_concat.2 ⟨h.2,
    fun reached hr => UInt32.le_of_eq (score_unique hs hr)⟩⟩
  rw [Table.reaching_append, h.1, Table.reaching_singleton, if_pos hs]
  simp

/-- A rule above the leader takes its place alone. -/
theorem Leads.above {rules : List (Pattern × α)} {top : Leader α}
    (h : Leads method path rules (some top)) {rule : Pattern × α}
    {score : Score} (hs : rule.1.score? method path = some score)
    (hlt : top.score < score) :
    Leads method path (rules ++ [rule]) (some ⟨score, rule, []⟩) := by
  refine ⟨?_, Table.bounds_concat.2 ⟨fun other ho reached hr => ?_,
    fun reached hr => UInt32.le_of_eq (score_unique hs hr)⟩⟩
  · rw [Table.reaching_append, Table.reaching_eq_nil h.2 hlt,
      Table.reaching_singleton, if_pos hs]
    rfl
  · exact UInt32.le_trans (h.2 other ho reached hr) (UInt32.le_of_lt hlt)

/-- **A rule that fits joins the search**: below the leader it does not
count, level with the leader it is kept beside it, and above the leader it
takes its place alone. -/
theorem Leads.consider {rules : List (Pattern × α)}
    {leader : Option (Leader α)} (h : Leads method path rules leader)
    {rule : Pattern × α} {score : Score}
    (hs : rule.1.score? method path = some score) :
    Leads method path (rules ++ [rule])
      (Leader.consider leader score rule) := by
  cases leader with
  | none => exact h.lead hs
  | some top =>
    unfold Leader.consider
    dsimp only
    split
    · next hlt => exact h.below hs hlt
    · next hge =>
      split
      · next heq =>
        subst heq
        exact h.beside hs
      · next hne =>
        exact h.above hs
          (UInt32.lt_of_le_of_ne (UInt32.not_lt.1 hge) (Ne.symm hne))

/-- **What every step keeps holds at the end** of a fold, said of the items that
were passed. The invariant speaks of a list that grows by one item at its end,
as the fold goes on. -/
theorem foldl_invariant {σ β : Type} {f : σ → β → σ}
    {motive : List β → σ → Prop}
    (step : ∀ passed state item, motive passed state →
      motive (passed ++ [item]) (f state item))
    (later passed : List β) (state : σ) (h : motive passed state) :
    motive (passed ++ later) (later.foldl f state) := by
  induction later generalizing passed state with
  | nil => rwa [List.append_nil]
  | cons item rest ih =>
    rw [List.append_cons]
    exact ih (passed ++ [item]) (f state item) (step passed state item h)

/-- The invariant holds of the leader among all rules of a table. -/
theorem Table.leads_leader? (table : Table α) (method : Option String)
    (path : String) :
    Leads method path table.entries (table.leader? method path) := by
  unfold Table.leader?
  refine foldl_invariant (motive := Leads method path)
    (fun passed leader rule h => ?_) table.entries [] none
    (fun _ hmem => absurd hmem List.not_mem_nil)
  split
  · next hs => exact h.skip hs
  · next score hs => exact h.consider hs

/-! ## What the search finds

The three answers are now told apart by how many rules reach the highest score.
Every table has one of them, on every request. -/

/-- **What a table answers**, said without a search: nothing where no rule
fits, otherwise the rules that reach the highest score, as the answer if it
is one and as an ambiguity if they are several. -/
theorem Table.best?_cases (table : Table α) (method : Option String)
    (path : String) :
    (table.Unmatched method path ∧ table.best? method path = .ok none) ∨
      ∃ score first level,
        Table.reaching table.entries method path score = first :: level ∧
        Table.Bounds table.entries method path score ∧
        table.best? method path =
          if level = [] then .ok (some first)
          else .error
            { path, patterns := (first :: level).map (·.1.raw) } := by
  have hleads := table.leads_leader? method path
  unfold Table.best?
  cases hl : table.leader? method path with
  | none =>
    rw [hl] at hleads
    exact .inl ⟨hleads, rfl⟩
  | some leader =>
    rw [hl] at hleads
    obtain ⟨score, first, level⟩ := leader
    refine .inr ⟨score, first, level.reverse, hleads.1, hleads.2, ?_⟩
    cases level with
    | nil => rfl
    | cons latest rest => rw [if_neg (by simp)]

/-- **The answer is what reaches the highest score.** -/
theorem Table.best?_of_reaching {table : Table α} {score : Score}
    {first : Pattern × α} {level : List (Pattern × α)}
    (hreach : Table.reaching table.entries method path score = first :: level)
    (hbound : Table.Bounds table.entries method path score) :
    table.best? method path
      = if level = [] then .ok (some first)
        else .error
          { path, patterns := (first :: level).map (·.1.raw) } := by
  have hfirst : first ∈ Table.reaching table.entries method path score := by
    rw [hreach]
    exact List.mem_cons_self
  obtain ⟨hin, hs⟩ := List.mem_filter.1 hfirst
  rw [decide_eq_true_eq] at hs
  rcases table.best?_cases method path with
    ⟨hnone, -⟩ | ⟨top, leader, others, htop, hbtop, heq⟩
  · rw [hnone first hin] at hs
    cases hs
  · have hleader : leader ∈ Table.reaching table.entries method path top := by
      rw [htop]
      exact List.mem_cons_self
    obtain ⟨hlin, hls⟩ := List.mem_filter.1 hleader
    rw [decide_eq_true_eq] at hls
    -- two scores that are reached and bound each other are one
    obtain rfl : score = top := UInt32.le_antisymm (hbtop first hin score hs)
      (hbound leader hlin top hls)
    rw [hreach] at htop
    cases htop
    exact heq

/-- Alone at the highest score is the best of all. -/
theorem Table.isBest_iff_reaching {table : Table α} {rule : Pattern × α} :
    table.IsBest method path rule ↔
      ∃ score, Table.reaching table.entries method path score = [rule] ∧
        Table.Bounds table.entries method path score := by
  constructor
  · rintro ⟨score, before, after, hsplit, hs, hlower⟩
    -- nobody else reaches the score, since the others have a lower one
    have hnot : ∀ other ∈ before ++ after,
        ¬ other.1.score? method path = some score := fun other ho he =>
      absurd (hlower other ho score he) (UInt32.lt_irrefl score)
    refine ⟨score, ?_, fun other ho reached hr => ?_⟩
    · refine List.filter_eq_cons_iff.2 ⟨before, after, hsplit,
        fun other ho => ?_, by simpa using hs,
        List.filter_eq_nil_iff.2 fun other ho => ?_⟩
      · simpa using hnot other (List.mem_append_left _ ho)
      · simpa using hnot other (List.mem_append_right _ ho)
    · rw [hsplit, List.mem_append, List.mem_cons] at ho
      rcases ho with ho | rfl | ho
      · exact UInt32.le_of_lt
          (hlower other (List.mem_append_left _ ho) reached hr)
      · rw [hs] at hr
        exact UInt32.le_of_eq (Option.some.inj hr).symm
      · exact UInt32.le_of_lt
          (hlower other (List.mem_append_right _ ho) reached hr)
  · rintro ⟨score, hreach, hbound⟩
    obtain ⟨before, after, hsplit, hbefore, hs, hafter⟩ :=
      List.filter_eq_cons_iff.1 hreach
    rw [List.filter_eq_nil_iff] at hafter
    refine ⟨score, before, after, hsplit, by simpa using hs,
      fun other ho reached hr => ?_⟩
    have hmem : other ∈ table.entries := by
      rw [hsplit]
      rcases List.mem_append.1 ho with ho | ho
      · exact List.mem_append_left _ ho
      · exact List.mem_append_right _ (List.mem_cons_of_mem _ ho)
    -- another rule with this score would stand in the list
    have hne : reached ≠ score := by
      rintro rfl
      rcases List.mem_append.1 ho with ho | ho
      · exact hbefore other ho (by simpa using hr)
      · exact hafter other ho (by simpa using hr)
    exact UInt32.lt_of_le_of_ne (hbound other hmem reached hr) hne

/-- **A table has no answer exactly where no rule fits.** -/
theorem Table.best?_eq_none_iff {table : Table α} :
    table.best? method path = .ok none ↔ table.Unmatched method path := by
  constructor
  · intro h
    rcases table.best?_cases method path with
      ⟨hnone, -⟩ | ⟨score, first, level, -, -, heq⟩
    · exact hnone
    · rw [heq] at h
      split at h <;> cases h
  · intro h
    rcases table.best?_cases method path with
      ⟨-, heq⟩ | ⟨score, first, level, hreach, -, -⟩
    · exact heq
    · have hmem : first ∈ Table.reaching table.entries method path score := by
        rw [hreach]
        exact List.mem_cons_self
      obtain ⟨hin, hs⟩ := List.mem_filter.1 hmem
      rw [h first hin] at hs
      simp at hs

/-- **A table answers with a rule exactly if it is the one best rule.** -/
theorem Table.best?_eq_some_iff {table : Table α} {rule : Pattern × α} :
    table.best? method path = .ok (some rule)
      ↔ table.IsBest method path rule := by
  rw [Table.isBest_iff_reaching]
  constructor
  · intro h
    rcases table.best?_cases method path with
      ⟨-, heq⟩ | ⟨score, first, level, hreach, hbound, heq⟩
    · rw [heq] at h
      cases h
    · rw [heq] at h
      split at h
      · next hlevel =>
        cases h
        exact ⟨score, hlevel ▸ hreach, hbound⟩
      · cases h
  · rintro ⟨score, hreach, hbound⟩
    rw [Table.best?_of_reaching hreach hbound, if_pos rfl]

end Search

end PolicyGateway.Route
