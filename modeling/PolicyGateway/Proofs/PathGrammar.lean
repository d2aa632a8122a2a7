import PolicyGateway.Json.Selector
import PolicyGateway.Proofs.FirstFailures
import PolicyGateway.Proofs.TextCuts

/-!
# Which paths are malformed

A path is cut at its first `[*]`, and what stands around it is then looked at for
a second one, for something that does not belong behind it, and for brackets.
What all of this lets pass is a small grammar: text without brackets, or `[*]`
between two such texts, of which the second is empty or starts with a dot
(`IsGrammatical`).

A path outside of the grammar is refused before a value is looked at
(`Selector.exists_fault_iff`), and walking down a value never finds a fault in the
path (`walk_ne_malformed`). So whether a path is malformed, and what is wrong with
it, is the same for every value, and a ruleset that fits one request has no
malformed path for any other (`malformed_iff`).

**Why it must not depend on the value.** A malformed path is a mistake in the
settings, and a field that a body lacks is a mistake of whoever sends it. The
two are told to different people. If a path were found to be malformed only for
some bodies, a mistake in the settings could stay hidden until such a body
comes, and would then look like a mistake of its sender.
-/

namespace PolicyGateway.Json

open Text

/-! ## The grammar

The tests of the path come one after the other, each on a piece that the one
before has cut off. What they let pass, taken together, is said here without the
tests, so that one can see at a glance which paths may stand in the settings. -/

/-- **What a path says behind its root mark**, which is `$.`, `$`, or nothing. -/
inductive IsBody : List Char → List Char → Prop
  /-- The root mark has a dot. -/
  | dotted (body : List Char) : IsBody ('$' :: '.' :: body) body
  /-- It has none. -/
  | marked {body : List Char} (undotted : body.head? ≠ some '.') :
    IsBody ('$' :: body) body
  /-- There is no root mark. -/
  | unmarked {body : List Char} (unrooted : body.head? ≠ some '$') :
    IsBody body body

/-- **No bracket** is in the text. -/
structure IsPlain (text : List Char) : Prop where
  /-- None is opened. -/
  opening : '[' ∉ text
  /-- And none is closed. -/
  closing : ']' ∉ text

/-- **The grammar of paths**, behind the root mark. What stands between dots may
be anything, and be empty. -/
inductive IsGrammatical : List Char → Prop
  /-- A text without brackets. -/
  | plain {text : List Char} (text_plain : IsPlain text) : IsGrammatical text
  /-- `[*]` between two of them, of which the second is empty or starts with a
  dot. -/
  | each {front back : List Char} (front_plain : IsPlain front)
    (back_plain : IsPlain back) (dotted : ∀ c ∈ back.head?, c = '.') :
    IsGrammatical (front ++ (['[', '*', ']'] ++ back))

/-- **A path that is well formed** has its root mark in front of what the grammar
lets pass. -/
def IsWellFormed (path : List Char) : Prop :=
  ∃ body, IsBody path body ∧ IsGrammatical body

namespace Selector

/-- What is left without the root mark is what the path says behind it. -/
theorem isBody_unrooted (path : List Char) : IsBody path (unrooted path) := by
  unfold unrooted
  split
  · exact .dotted _
  · next hundotted =>
    exact .marked fun h => by
      obtain ⟨rest, rfl⟩ := List.head?_eq_some_iff.1 h
      exact hundotted rest rfl
  · next hunrooted =>
    exact .unmarked fun h => by
      obtain ⟨rest, rfl⟩ := List.head?_eq_some_iff.1 h
      exact hunrooted rest rfl

/-- And it says nothing else behind it. -/
theorem unrooted_of_isBody {path body : List Char} (h : IsBody path body) :
    unrooted path = body := by
  unfold unrooted
  cases h with
  | dotted => rfl
  | marked undotted =>
    split
    · next heq =>
      cases heq
      exact absurd rfl undotted
    · next heq =>
      cases heq
      rfl
    · next hunrooted => exact absurd rfl (hunrooted body)
  | unmarked hunrooted =>
    split
    · exact absurd rfl hunrooted
    · exact absurd rfl hunrooted
    · rfl

theorem isWellFormed_iff {path : List Char} :
    IsWellFormed path ↔ IsGrammatical (unrooted path) := by
  constructor
  · rintro ⟨body, hbody, h⟩
    rw [unrooted_of_isBody hbody]
    exact h
  · exact fun h => ⟨unrooted path, isBody_unrooted path, h⟩

theorem hasBracket_eq_false_iff {text : List Char} :
    hasBracket text = false ↔ IsPlain text := by
  unfold hasBracket
  rw [Bool.or_eq_false_iff, List.contains_eq_mem, List.contains_eq_mem,
    decide_eq_false_iff_not, decide_eq_false_iff_not]
  exact ⟨fun h => ⟨h.1, h.2⟩, fun h => ⟨h.opening, h.closing⟩⟩

/-- What stands behind `[*]` is looked at for a dot in front. -/
theorem isStray_eq_false_iff {back : List Char} :
    (!back.isEmpty && back.head? != some '.') = false ↔
      ∀ c ∈ back.head?, c = '.' := by
  cases back with
  | nil => exact iff_of_true rfl nofun
  | cons c rest => simp

/-- A path without brackets is taken apart as steps down from the root. -/
theorem parse_plain {path body : List Char} (hbody : IsBody path body)
    (hplain : IsPlain body) : parse path = .ok (.plain body) := by
  have hcut : cutAtText wildcard body = none := cutAtText_eq_none hplain.opening
  unfold parse
  dsimp only
  rw [unrooted_of_isBody hbody, hcut]
  dsimp only
  rw [hasBracket_eq_false_iff.2 hplain]
  rfl

/-- And one with `[*]` as what stands in front of it and what stands behind. -/
theorem parse_each {path front back : List Char}
    (hbody : IsBody path (front ++ (['[', '*', ']'] ++ back)))
    (hfront : IsPlain front) (hback : IsPlain back)
    (hdotted : ∀ c ∈ back.head?, c = '.') :
    parse path = .ok (.each front (dropLeading '.' back)) := by
  have hcut : cutAtText wildcard (front ++ (['[', '*', ']'] ++ back))
      = some (front, back) := cutAtText_append hfront.opening back
  have hsecond : occurs wildcard back = false := by
    unfold occurs
    rw [show cutAtText wildcard back = none from
      cutAtText_eq_none hback.opening]
    rfl
  unfold parse
  dsimp only
  rw [unrooted_of_isBody hbody, hcut]
  dsimp only
  rw [hsecond, isStray_eq_false_iff.2 hdotted, hasBracket_eq_false_iff.2 hfront,
    hasBracket_eq_false_iff.2 hback]
  rfl

/-- A well-formed path is taken apart. -/
theorem exists_of_isWellFormed {path : List Char} (h : IsWellFormed path) :
    ∃ selector, parse path = .ok selector := by
  obtain ⟨body, hbody, h⟩ := h
  cases h with
  | plain hplain => exact ⟨_, parse_plain hbody hplain⟩
  | each hfront hback hdotted =>
    exact ⟨_, parse_each hbody hfront hback hdotted⟩

/-- What is taken apart is well formed. -/
theorem isWellFormed_of_parse {path : List Char} {selector : Selector}
    (h : parse path = .ok selector) : IsWellFormed path := by
  rw [isWellFormed_iff]
  unfold parse at h
  dsimp only at h
  cases hcut : cutAtText wildcard (unrooted path) with
  | none =>
    rw [hcut] at h
    dsimp only at h
    split at h
    · cases h
    · next hbracket =>
      exact .plain (hasBracket_eq_false_iff.1 (Bool.not_eq_true _ ▸ hbracket))
  | some parts =>
    obtain ⟨front, back⟩ := parts
    rw [hcut] at h
    dsimp only at h
    -- the tests in the order in which they are made; all of them have been
    -- passed
    split at h
    · cases h
    split at h
    · cases h
    next hstray =>
    split at h
    · cases h
    next hbracket =>
    rw [Bool.not_eq_true, Bool.or_eq_false_iff] at hbracket
    rw [cutAtText_eq_some hcut]
    exact .each (hasBracket_eq_false_iff.1 hbracket.1)
      (hasBracket_eq_false_iff.1 hbracket.2)
      (isStray_eq_false_iff.1 (Bool.not_eq_true _ ▸ hstray))

/-- **A path has a fault if it is not well formed.** Which of the faults it is,
where there are several, is a matter of the order of the tests. -/
theorem exists_fault_iff {path : List Char} :
    (∃ fault, parse path = .error fault) ↔ ¬ IsWellFormed path := by
  constructor
  · rintro ⟨fault, hfault⟩ h
    obtain ⟨selector, hselector⟩ := exists_of_isWellFormed h
    cases hfault.symm.trans hselector
  · intro h
    cases hparse : parse path with
    | error fault => exact ⟨fault, rfl⟩
    | ok selector => exact absurd (isWellFormed_of_parse hparse) h

/-- A bracket behind `[*]` is first of all no dot. -/
example : parse "$.items[[*]]".toList = .error .strayAfterWildcard := by decide

end Selector

/-! ## Walking down

A walk fails because of what it finds: a field that is missing, or a value of
another kind. These failures have names of their own, and none of them is that
of a malformed path. -/

/-- Walking down finds no fault in the path. -/
theorem walk_ne_malformed {path : String} {steps : List String} {value : Value}
    {named : String} {fault : PathFault} :
    walk path steps value ≠ .error (.malformed named fault) := by
  fun_induction walk path steps value with
  | case2 step rest members next hnext ih => exact ih
  | _ => nofun

/-- Nor does walking down each element. -/
theorem walkEach_ne_malformed {path : String} {array : List Char}
    {steps : List String} {index : Nat} {elements : List Value} {named : String}
    {fault : PathFault} :
    walkEach path array steps index elements ≠ .error (.malformed named fault) := by
  fun_induction walkEach path array steps index elements with
  | case1 => nofun
  | case2 index element rest hobject part hpart ih =>
    exact fun h => ih (eq_error_of_map h)
  | case3 index element rest hobject e he =>
    rintro ⟨⟩
    exact walk_ne_malformed he
  | case4 => nofun

/-- **The fault that is found is the path's own**, whatever the value. -/
theorem select_eq_malformed_iff {value : Value} {path named : String}
    {fault : PathFault} :
    select value path = .error (.malformed named fault) ↔
      named = path ∧ Selector.parse path.toList = .error fault := by
  unfold select
  constructor
  · intro h
    split at h
    · next hparse =>
      cases h
      exact ⟨rfl, hparse⟩
    · exact absurd h walk_ne_malformed
    · split at h
      · next hwalk =>
        cases h
        exact absurd hwalk walk_ne_malformed
      · split at h
        · cases h
        · exact absurd (eq_error_of_map h) walkEach_ne_malformed
      · cases h
  · rintro ⟨rfl, hparse⟩
    rw [hparse]

end PolicyGateway.Json

namespace PolicyGateway.Policy.DecisionRequest

open PolicyGateway.Json

/-! ## The fields of a ruleset

A ruleset that was once put to use has had all its paths taken apart. From then
on a fault in one of them is out of the question, whatever requests come. -/

/-- Where all fields are selected, so is each. -/
theorem exists_select_of_selectFields {body : Value}
    {entries : List (String × String)} {fields : List (String × Value)}
    (h : selectFields body entries = .ok fields) {field path : String}
    (hmem : (field, path) ∈ entries) : ∃ part, select body path = .ok part :=
  exists_selectFields_iff.1 ⟨fields, h⟩ (field, path) hmem

/-- The field that fails is one of the ruleset's. -/
theorem select_of_selectFields {body : Value} {entries : List (String × String)}
    {field path : String} {cause : SelectError}
    (h : selectFields body entries = .error (.extraction field path cause)) :
    (field, path) ∈ entries ∧ select body path = .error cause := by
  obtain ⟨before, _, _, after, _, rfl, -, hcause, heq⟩ :=
    selectFields_eq_error_iff.1 h
  cases heq
  exact ⟨List.mem_append_right _ List.mem_cons_self, hcause⟩

/-- **The field that a request fails at** is one of the ruleset's. -/
theorem select_of_build {request : AccessRequest} {ruleset : Ruleset}
    {body : Value} {field path : String} {cause : SelectError}
    (h : build request ruleset body = .error (.extraction field path cause)) :
    (field, path) ∈ ruleset.body.entries ∧ select body path = .error cause := by
  unfold build at h
  split at h
  · cases h
  · exact select_of_selectFields (eq_error_of_map h)

end PolicyGateway.Policy.DecisionRequest

namespace PolicyGateway.Json

open PolicyGateway.Policy

/-- **Whether a path is malformed depends on the path alone**, and on its
grammar: every value finds the same fault in it or none does, and one is found
if the path is not well formed. A ruleset that fits one request has no path in
which another finds a fault.

The values are any two. So a path can be tested before there is a body to use it
on, on null for instance. -/
theorem malformed_iff (path : String) :
    (∀ value,
      (∃ named fault, select value path = .error (.malformed named fault)) ↔
        ¬ IsWellFormed path.toList) ∧
    (∀ value named fault,
      select value path = .error (.malformed named fault) →
        named = path ∧
          ∀ other, select other path = .error (.malformed path fault)) ∧
    ∀ ruleset request body decision,
      DecisionRequest.build request ruleset body = .ok decision →
      ∀ later other field named fault,
        DecisionRequest.build later ruleset other
          ≠ .error (.extraction field path (.malformed named fault)) := by
  refine ⟨fun value => ?_, fun value named fault h => ?_,
    fun ruleset request body decision hok later other field named fault hlater =>
      ?_⟩
  · simp only [select_eq_malformed_iff, exists_and_left, exists_eq_left]
    exact Selector.exists_fault_iff
  · obtain ⟨hnamed, hparse⟩ := select_eq_malformed_iff.1 h
    exact ⟨hnamed, fun other => select_eq_malformed_iff.2 ⟨rfl, hparse⟩⟩
  · obtain ⟨hmem, hother⟩ := DecisionRequest.select_of_build hlater
    -- the field was selected once, so its path has no fault
    obtain ⟨uri, fields, -, hfields, -⟩ := DecisionRequest.exists_of_build hok
    obtain ⟨part, hpart⟩ :=
      DecisionRequest.exists_select_of_selectFields hfields hmem
    have hparse := (select_eq_malformed_iff.1 hother).2
    have hmalformed : select body path = .error (.malformed path fault) :=
      select_eq_malformed_iff.2 ⟨rfl, hparse⟩
    cases hpart.symm.trans hmalformed

end PolicyGateway.Json
