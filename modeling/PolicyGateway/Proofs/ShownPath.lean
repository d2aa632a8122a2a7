import PolicyGateway.Policy.DecisionRequest
import PolicyGateway.Proofs.FirstFailures
import PolicyGateway.Proofs.PatternScores

/-!
# The path that a decision request shows

A rule is chosen by the segments of a path, and the policy server is shown segments
of the same path, behind the path itself. Both cut it at its slashes. They differ in
what stands in front of the first segment: for a rule it is one slash, and for the
decision request it is all of them.

So they agree on a path unless it starts with two slashes. Where it does, the policy
server is shown fewer segments than the rule was chosen by, one for each slash
beyond the first, and what it is shown joins to another path
(`DecisionRequest.shown_segments_iff`). In `DecisionRequest.doubled_shows_less` a
rule fits a path that is shown as one the rule does not fit.

**Why it matters that they agree.** The server decides about the segments that
it is shown, and it is asked because of a rule that was found by others. Where
the two differ the question is about another path than the rule. A client can
bring this about with a single slash.

To compare them both are brought into one form: so many segments of nothing, and
then what stands behind all slashes in front (`Route.segments_eq_replicate`).
-/

namespace PolicyGateway

namespace Text

/-- **Leading marks part texts of nothing**, one each, from what is parted
without them. A text that is nothing but marks is parted into one more than it
has. -/
theorem splitOn_dropLeading (mark : Char) (cs : List Char) :
    cs.splitOn mark
      = List.replicate (cs.takeWhile (· == mark)).length []
        ++ (dropLeading mark cs).splitOn mark := by
  induction cs with
  | nil => rfl
  | cons c rest ih =>
    unfold dropLeading at ih ⊢
    rw [List.takeWhile_cons, List.dropWhile_cons]
    split
    · next hc =>
      rw [List.splitOn_cons_eq_if_modifyHead, if_pos hc, ih, List.length_cons,
        List.replicate_succ, List.cons_append]
    · rfl

end Text

namespace Route

/-- How many slashes stand in front of a path. Of a path that a request names
there is one at least. -/
def slashesInFront (path : List Char) : Nat :=
  (path.takeWhile (· == '/')).length

/-- **The segments of a path** are those behind all slashes in front, and one of
nothing for each slash beyond the first. This is the one equation between the
two ways to cut a path. -/
theorem segments_eq_replicate (path : List Char) :
    segments path
      = List.replicate (slashesInFront path - 1) []
        ++ (Text.dropLeading '/' path).splitOn '/' := by
  rw [segments_eq_splitOn]
  unfold withoutRoot
  split
  · next rest => exact Text.splitOn_dropLeading '/' rest
  · next hunrooted =>
    -- without a slash in front nothing is dropped
    have hnone : path.takeWhile (· == '/') = [] := by
      cases path with
      | nil => rfl
      | cons c rest =>
        refine List.takeWhile_cons_of_neg fun hc => ?_
        exact hunrooted rest (by rw [beq_iff_eq.1 hc])
    have hsplit := Text.splitOn_dropLeading '/' path
    unfold slashesInFront
    rw [hnone] at hsplit ⊢
    exact hsplit

/-- Two slashes in front are more than one. -/
theorem slashesInFront_le_one_iff {path : List Char} :
    slashesInFront path ≤ 1 ↔ ¬ ['/', '/'] <+: path := by
  unfold slashesInFront
  match path with
  | [] => simp
  | [c] => by_cases hc : c = '/' <;> simp [hc]
  | c :: d :: rest =>
    by_cases hc : c = '/'
    · by_cases hd : d = '/'
      · simp [hc, hd]
      · simp [hc, hd, Ne.symm hd]
    · simp [hc, Ne.symm hc]

/-- Behind a slash the segments of a path with one in front join to it. -/
theorem slash_intercalate_segments {path : List Char}
    (h : path.head? = some '/') :
    '/' :: ['/'].intercalate (segments path) = path := by
  obtain ⟨rest, rfl⟩ := List.head?_eq_some_iff.1 h
  exact congrArg ('/' :: ·) (parts_iff.2 rfl).joined

/-- **Texts without slashes** that join to a path behind a slash are its
segments. So joining is a test of whether all segments are shown. -/
theorem eq_segments_of_intercalate {parts : List (List Char)} {path : List Char}
    (hslash : ∀ part ∈ parts, '/' ∉ part) (hne : parts ≠ [])
    (h : '/' :: ['/'].intercalate parts = path) : parts = segments path := by
  refine (parts_iff.1 ⟨hne, hslash, ?_⟩).symm
  rw [← h]
  rfl

end Route

namespace Policy.DecisionRequest

open PolicyGateway.Json (Value)
open PolicyGateway.Route

/-- **Which segments are shown.** Behind the path itself a decision request shows its
segments behind all slashes in front. They are the segments that rules are compared
with, and join to the path behind a slash, exactly if the path does not start with
two slashes; otherwise those that rules are compared with are more by one of nothing
for each slash beyond the first. -/
theorem shown_segments_iff {request : AccessRequest} {ruleset : Ruleset}
    {body : Value} {decision : DecisionRequest}
    (h : build request ruleset body = .ok decision) :
    ∃ shown : List (List Char),
      decision.uri.path = request.path :: shown.map String.ofList ∧
        segments request.path.toList
          = List.replicate (slashesInFront request.path.toList - 1) [] ++ shown ∧
        (shown = segments request.path.toList ↔
          ¬ ['/', '/'] <+: request.path.toList) ∧
        (request.path.toList.head? = some '/' →
          ('/' :: ['/'].intercalate shown = request.path.toList ↔
            ¬ ['/', '/'] <+: request.path.toList)) := by
  obtain ⟨uri, fields, -, -, rfl⟩ := exists_of_build h
  have hsegments := segments_eq_replicate request.path.toList
  -- they are the same exactly if no segment of nothing comes in front
  have hiff : (Text.dropLeading '/' request.path.toList).splitOn '/'
      = segments request.path.toList ↔ ¬ ['/', '/'] <+: request.path.toList := by
    rw [hsegments, List.self_eq_append_left, List.replicate_eq_nil_iff,
      ← slashesInFront_le_one_iff]
    omega
  refine ⟨_, rfl, hsegments, hiff,
    fun hrooted => ⟨fun hjoined => ?_, fun hone => ?_⟩⟩
  · -- what joins to the path are its segments
    refine hiff.1 (eq_segments_of_intercalate (fun _ => not_mem_of_mem_splitOn)
      (List.splitOn_ne_nil _ _) hjoined)
  · rw [hiff.2 hone]
    exact slash_intercalate_segments hrooted

/-- Somebody asks for an order, with a slash too many. -/
def doubledRequest : AccessRequest :=
  { method := "GET", path := "//orders/7", fullUrl := "http://shop//orders/7" }

/-- A rule fits this path and not the one with a single slash, and what is shown of
the first is what would be shown of the second. -/
theorem doubled_shows_less :
    pathScore? "/*/orders/7" "//orders/7" = some 22 ∧
      pathScore? "/*/orders/7" "/orders/7" = none ∧
      segments "//orders/7".toList = ["".toList, "orders".toList, "7".toList] ∧
      ∃ decision, build doubledRequest {} .null = .ok decision ∧
        decision.uri.path = ["//orders/7", "orders", "7"] ∧
        decision.uri.path.tail ≠ ["", "orders", "7"] := by
  have hbuilt : ((build doubledRequest {} .null).toOption).isSome = true := by
    decide +kernel
  obtain ⟨decision, hdecision⟩ := Option.isSome_iff_exists.1 hbuilt
  have hbuild := eq_ok_of_toOption hdecision
  obtain ⟨shown, hpath, hsegments, -, -⟩ := shown_segments_iff hbuild
  have hshown : shown = ["orders".toList, "7".toList] := by
    have hmatched : segments doubledRequest.path.toList
        = [[]] ++ ["orders".toList, "7".toList] := by decide +kernel
    rw [hmatched] at hsegments
    exact (List.append_cancel_left hsegments).symm
  subst hshown
  refine ⟨by decide +kernel, by decide +kernel, by decide +kernel, decision,
    hbuild, hpath, ?_⟩
  rw [hpath]
  decide

end Policy.DecisionRequest

end PolicyGateway
