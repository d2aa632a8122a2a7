/-!
# Cutting text at a mark

Paths, keys, queries and header lists are all text with a separating
character. This module cuts at the first or at the last such character,
looks for one text inside another, and compares texts without regard to
ASCII case.

Cutting loses nothing: the two parts around the mark give the text back
(`cutFirst_eq_some`, `cutLast_eq_some`), and so do what is left without trailing
marks and the marks (`exists_dropTrailing`).
-/

namespace PolicyGateway.Text

/-- **Cut at the first mark**: the text before and after the first
occurrence of `mark`, or nothing where it does not occur. -/
def cutFirst (mark : Char) : List Char → Option (List Char × List Char)
  | [] => none
  | c :: rest =>
    if c = mark then some ([], rest)
    else (cutFirst mark rest).map fun (before, after) => (c :: before, after)

/-- **Cut at the last mark**: the text before and after the last occurrence
of `mark`, or nothing where it does not occur. -/
def cutLast (mark : Char) : List Char → Option (List Char × List Char)
  | [] => none
  | c :: rest =>
    match cutLast mark rest with
    | some (before, after) => some (c :: before, after)
    | none => if c = mark then some ([], rest) else none

/-- **Cut at the first occurrence of a text**, not of a single mark. -/
def cutAtText (mark : List Char) : List Char → Option (List Char × List Char)
  | [] => if mark.isEmpty then some ([], []) else none
  | c :: rest =>
    match mark.isPrefixOf? (c :: rest) with
    | some after => some ([], after)
    | none =>
      (cutAtText mark rest).map fun (before, after) => (c :: before, after)

/-- Whether `part` occurs somewhere in the text. -/
def occurs (part cs : List Char) : Bool :=
  (cutAtText part cs).isSome

/-- **Equality up to ASCII case.** -/
def sameIgnoringCase (a b : String) : Bool :=
  a.toList.map Char.toLower == b.toList.map Char.toLower

/-- A string in ASCII lower case; other characters stay. -/
def lowercase (s : String) : String :=
  String.ofList (s.toList.map Char.toLower)

/-- A string in ASCII upper case; other characters stay. -/
def uppercase (s : String) : String :=
  String.ofList (s.toList.map Char.toUpper)

/-- The text without its leading `mark`s. -/
def dropLeading (mark : Char) (cs : List Char) : List Char :=
  cs.dropWhile (· == mark)

/-- The text without its trailing `mark`s. -/
def dropTrailing (mark : Char) (cs : List Char) : List Char :=
  (cs.reverse.dropWhile (· == mark)).reverse

/-- The two parts around the first mark give the text back. -/
theorem cutFirst_eq_some {mark : Char} {cs before after : List Char}
    (h : cutFirst mark cs = some (before, after)) :
    cs = before ++ mark :: after ∧ mark ∉ before := by
  induction cs generalizing before with
  | nil => simp [cutFirst] at h
  | cons c rest ih =>
    unfold cutFirst at h
    split at h
    · cases h; simp_all
    · obtain ⟨⟨b, a⟩, hb, heq⟩ := Option.map_eq_some_iff.1 h
      cases heq
      obtain ⟨h₁, h₂⟩ := ih hb
      refine ⟨by rw [h₁]; rfl, ?_⟩
      simp only [List.mem_cons, not_or]
      exact ⟨fun e => by simp_all, h₂⟩

/-- There is nothing to cut exactly where the mark does not occur. -/
theorem cutLast_eq_none {mark : Char} {cs : List Char} :
    cutLast mark cs = none ↔ mark ∉ cs := by
  induction cs with
  | nil => simp [cutLast]
  | cons c rest ih =>
    unfold cutLast
    cases hrest : cutLast mark rest with
    | some p => simp_all
    | none =>
      rw [hrest] at ih
      by_cases hc : c = mark
      · simp [hc]
      · simpa [hc, Ne.symm hc] using ih

/-- The two parts around the last mark give the text back. -/
theorem cutLast_eq_some {mark : Char} {cs before after : List Char}
    (h : cutLast mark cs = some (before, after)) :
    cs = before ++ mark :: after ∧ mark ∉ after := by
  induction cs generalizing before with
  | nil => simp [cutLast] at h
  | cons c rest ih =>
    unfold cutLast at h
    cases hrest : cutLast mark rest with
    | some p =>
      obtain ⟨b, a⟩ := p
      rw [hrest] at h
      cases h
      obtain ⟨h₁, h₂⟩ := ih hrest
      exact ⟨by rw [h₁]; rfl, h₂⟩
    | none =>
      rw [hrest] at h
      simp only at h
      split at h
      · cases h; exact ⟨by simp_all, cutLast_eq_none.1 hrest⟩
      · simp at h

/-- A mark without another one behind it is the last. -/
theorem cutLast_append {mark : Char} {after : List Char}
    (h : mark ∉ after) (before : List Char) :
    cutLast mark (before ++ mark :: after) = some (before, after) := by
  induction before with
  | nil =>
    rw [List.nil_append, cutLast, cutLast_eq_none.2 h]
    exact if_pos rfl
  | cons c rest ih => rw [List.cons_append, cutLast, ih]

/-- Trailing marks are dropped from behind on. -/
theorem dropTrailing_append (mark : Char) (cs ds : List Char) :
    dropTrailing mark (cs ++ ds)
      = if dropTrailing mark ds = [] then dropTrailing mark cs
        else cs ++ dropTrailing mark ds := by
  unfold dropTrailing
  rw [List.reverse_append, List.dropWhile_append]
  by_cases h : ds.reverse.dropWhile (· == mark) = []
  · rw [h]
    rfl
  · rw [if_neg (by rwa [List.isEmpty_iff]),
      if_neg (by rwa [List.reverse_eq_nil_iff]), List.reverse_append,
      List.reverse_reverse]

/-- What is dropped are marks. -/
theorem exists_dropTrailing (mark : Char) (cs : List Char) :
    ∃ marks, cs = dropTrailing mark cs ++ marks ∧ ∀ c ∈ marks, c = mark := by
  refine ⟨(cs.reverse.takeWhile (· == mark)).reverse, ?_, fun c hc => ?_⟩
  · unfold dropTrailing
    rw [← List.reverse_append, List.takeWhile_append_dropWhile,
      List.reverse_reverse]
  · exact beq_iff_eq.1
      (List.all_eq_true.1 List.all_takeWhile c (List.mem_reverse.1 hc))

end PolicyGateway.Text
