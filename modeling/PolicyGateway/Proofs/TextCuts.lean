import Mathlib.Data.List.Basic
import PolicyGateway.Text.Pieces

/-!
# Cutting at a text

Addresses are cut at `://` and paths at `[*]`: at the first place where the text
that is looked for occurs. The two parts around it give the text back
(`cutAtText_eq_some`), and where the first part has nothing that the text begins
with, it is at this place that the text is cut (`cutAtText_append`). It occurs if
it stands anywhere (`occurs_iff`).

The text that is looked for is short and begins with a character that hardly
occurs in front of it. That is all that is used here, so nothing has to be known
of how a search goes on after it has begun in vain.
-/

namespace PolicyGateway.Text

/-- The two parts around the text that is looked for give the text back. -/
theorem cutAtText_eq_some {mark cs before after : List Char}
    (h : cutAtText mark cs = some (before, after)) :
    cs = before ++ (mark ++ after) := by
  induction cs generalizing before with
  | nil =>
    unfold cutAtText at h
    split at h
    · next hempty =>
      cases h
      rw [List.isEmpty_iff.1 hempty]
      rfl
    · cases h
  | cons c rest ih =>
    unfold cutAtText at h
    split at h
    · next behind hbehind =>
      cases h
      exact (List.append_eq_of_isPrefixOf?_eq_some hbehind).symm
    · obtain ⟨⟨b, a⟩, hcut, heq⟩ := Option.map_eq_some_iff.1 h
      cases heq
      rw [ih hcut]
      rfl

/-- A text is cut at its occurrence where nothing in front begins like it. -/
theorem cutAtText_append {c : Char} {mark before : List Char}
    (h : c ∉ before) (after : List Char) :
    cutAtText (c :: mark) (before ++ (c :: mark ++ after))
      = some (before, after) := by
  induction before with
  | nil =>
    have hself : (c :: mark).isPrefixOf? (c :: mark ++ after) = some after :=
      List.isPrefixOf?_eq_some_iff_append_eq.2 rfl
    rw [List.nil_append, List.cons_append, cutAtText, ← List.cons_append,
      hself]
  | cons d rest ih =>
    rw [List.mem_cons, not_or] at h
    -- the character in front is not the first one of the mark
    have hnone : (c :: mark).isPrefixOf? (d :: (rest ++ (c :: mark ++ after)))
        = none := by
      unfold List.isPrefixOf?
      rw [if_neg (by simpa using h.1)]
    rw [List.cons_append, cutAtText, hnone, ih h.2]
    rfl

/-- Where nothing begins like the text that is looked for, it does not occur. -/
theorem cutAtText_eq_none {c : Char} {mark cs : List Char} (h : c ∉ cs) :
    cutAtText (c :: mark) cs = none := by
  refine Option.eq_none_iff_forall_ne_some.2 fun ⟨before, after⟩ hcut => h ?_
  rw [cutAtText_eq_some hcut]
  exact List.mem_append_right _ List.mem_cons_self

/-- What occurs in a text stands somewhere in it. -/
theorem occurs_iff {part cs : List Char} :
    occurs part cs = true ↔ part <:+: cs := by
  unfold occurs
  induction cs with
  | nil =>
    unfold cutAtText
    rw [List.infix_nil]
    cases part <;> simp
  | cons c rest ih =>
    unfold cutAtText
    rw [List.infix_cons_iff, ← ih]
    cases hfront : part.isPrefixOf? (c :: rest) with
    | some after =>
      have hprefix : part <+: c :: rest :=
        ⟨after, List.append_eq_of_isPrefixOf?_eq_some hfront⟩
      exact iff_of_true rfl (.inl hprefix)
    | none =>
      have hprefix : ¬ part <+: c :: rest := by
        rintro ⟨after, heq⟩
        rw [List.isPrefixOf?_eq_some_iff_append_eq.2 heq] at hfront
        cases hfront
      rw [or_iff_right hprefix]
      dsimp only
      rw [Option.isSome_map]

end PolicyGateway.Text
