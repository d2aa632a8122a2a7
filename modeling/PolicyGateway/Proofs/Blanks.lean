import Mathlib.Data.List.Basic
import Mathlib.Data.List.TakeWhile
import PolicyGateway.Text.Blank
import PolicyGateway.Text.Numeral

/-!
# Blanks around a text

A text is blanks, what is left of it, and blanks again (`exists_around`), and
what is left has no blank at either end (`isBare_trim`). That determines it:
whatever stands between blanks without a blank at its ends is what is left
(`trim_around`). So what trimming does to a text that is put together of parts
can be said without looking at how it is done.

Letters and digits are not blank.

**Why in terms of parts.** What is trimmed in the end is a text that others have
put together: a sign and digits between blanks, or a path in brackets. From the
definition of trimming one would have to go through those parts character by
character, and again from the back. With `trim_around` it is enough to name what
stands in the middle and to say that it starts and ends with something.
-/

namespace PolicyGateway.Text

/-- **No blanks around it**: neither end of the text is blank. Blanks inside do
not matter. An empty text counts as well, so that it need not be told apart. -/
structure IsBare (cs : List Char) : Prop where
  /-- It does not start with a blank. -/
  head : ∀ c ∈ cs.head?, isBlank c = false
  /-- It does not end in one. -/
  last : ∀ c ∈ cs.getLast?, isBlank c = false

/-- A text without any blank has none around it. -/
theorem IsBare.of_forall {cs : List Char} (h : ∀ c ∈ cs, isBlank c = false) :
    IsBare cs where
  head c hc := h c (List.mem_of_head? hc)
  last c hc := h c (List.mem_of_getLast? hc)

/-- Nor has one between two characters that are not blank. -/
theorem IsBare.of_ends {first last : Char} (hfirst : isBlank first = false)
    (hlast : isBlank last = false) (cs : List Char) :
    IsBare (first :: cs ++ [last]) where
  head c hc := by
    obtain rfl := Option.some.inj hc
    exact hfirst
  last c hc := by
    rw [List.getLast?_concat] at hc
    obtain rfl := Option.some.inj hc
    exact hlast

/-- A text with ends that have no blanks around them has none either. What
stands between the two ends may be anything. -/
theorem IsBare.append {front back : List Char} (hfront : IsBare front)
    (hfront_ne : front ≠ []) (hback : IsBare back) (hback_ne : back ≠ [])
    (gap : List Char) : IsBare (front ++ gap ++ back) where
  head c hc := by
    rw [List.append_assoc, List.head?_append_of_ne_nil _ hfront_ne] at hc
    exact hfront.head c hc
  last c hc := by
    rw [List.getLast?_append_of_ne_nil _ hback_ne] at hc
    exact hback.last c hc

/-- Leading blanks are dropped up to what does not start with one. This is the
only place where the characters are gone through one by one. -/
theorem dropWhile_isBlank_append {before cs : List Char}
    (hbefore : ∀ c ∈ before, isBlank c = true)
    (hcs : ∀ c ∈ cs.head?, isBlank c = false) :
    (before ++ cs).dropWhile isBlank = cs := by
  rw [List.dropWhile_append_of_pos hbefore]
  cases cs with
  | nil => rfl
  | cons c rest =>
    refine List.dropWhile_cons_of_neg ?_
    rw [hcs c rfl]
    exact Bool.false_ne_true

/-- What is left after leading blanks does not start with one. -/
theorem not_isBlank_head_dropWhile {cs : List Char} {c : Char}
    (h : c ∈ (cs.dropWhile isBlank).head?) : isBlank c = false := by
  have hnot := List.head?_dropWhile_not isBlank cs
  rw [Option.mem_def.1 h] at hnot
  exact hnot

/-- Blanks follow what is left of a text without leading blanks. The text is
read from its end, since that is how trailing blanks are found. -/
theorem trimStart_eq_append (cs : List Char) :
    trimStart cs
      = trim cs ++ ((trimStart cs).reverse.takeWhile isBlank).reverse := by
  unfold trim trimEnd
  rw [← List.reverse_append, List.takeWhile_append_dropWhile,
    List.reverse_reverse]

/-- **Blanks stand around what is left** of a text. With `isBare_trim` it
describes the result completely, as `trim_around` shows. -/
theorem exists_around (cs : List Char) :
    ∃ before after, (∀ c ∈ before, isBlank c = true) ∧
      (∀ c ∈ after, isBlank c = true) ∧ cs = before ++ (trim cs ++ after) := by
  refine ⟨cs.takeWhile isBlank,
    ((trimStart cs).reverse.takeWhile isBlank).reverse,
    fun c hc => List.mem_takeWhile_imp hc,
    fun c hc => List.mem_takeWhile_imp (List.mem_reverse.1 hc), ?_⟩
  rw [← trimStart_eq_append]
  exact List.takeWhile_append_dropWhile.symm

/-- **What is left of a text** has no blanks around it. -/
theorem isBare_trim (cs : List Char) : IsBare (trim cs) where
  head c hc := by
    -- it starts like the text without its leading blanks
    refine @not_isBlank_head_dropWhile cs c ?_
    show c ∈ (trimStart cs).head?
    rw [trimStart_eq_append, List.head?_append, Option.mem_def.1 hc]
    rfl
  last c hc := by
    unfold trim trimEnd at hc
    rw [List.getLast?_reverse] at hc
    exact not_isBlank_head_dropWhile hc

/-- **What stands between blanks** and has none around it is what is left. -/
theorem trim_around {before kept after : List Char}
    (hbefore : ∀ c ∈ before, isBlank c = true) (hkept : IsBare kept)
    (hafter : ∀ c ∈ after, isBlank c = true) :
    trim (before ++ (kept ++ after)) = kept := by
  cases kept with
  | nil =>
    have hnone : (before ++ ([] ++ after)).dropWhile isBlank = [] := by
      rw [List.nil_append, List.dropWhile_eq_nil_iff]
      exact fun c hc => (List.mem_append.1 hc).elim (hbefore c) (hafter c)
    unfold trim trimStart
    rw [hnone]
    rfl
  | cons c rest =>
    have hstart : (before ++ (c :: rest ++ after)).dropWhile isBlank
        = c :: rest ++ after :=
      dropWhile_isBlank_append hbefore fun _ hd => hkept.head _ hd
    have hend : (c :: rest ++ after).reverse.dropWhile isBlank
        = (c :: rest).reverse := by
      rw [List.reverse_append]
      refine dropWhile_isBlank_append
        (fun d hd => hafter d (List.mem_reverse.1 hd)) fun d hd => ?_
      rw [List.head?_reverse] at hd
      exact hkept.last d hd
    unfold trim trimEnd trimStart
    rw [hstart, hend, List.reverse_reverse]

/-- A text with no blanks around it is left as it is. -/
theorem IsBare.trim_eq {cs : List Char} (h : IsBare cs) : trim cs = cs := by
  have haround := trim_around (List.forall_mem_nil _) h (List.forall_mem_nil _)
  rwa [List.nil_append, List.append_nil] at haround

/-- Trimming twice is trimming once. -/
theorem trim_trim (cs : List Char) : trim (trim cs) = trim cs :=
  (isBare_trim cs).trim_eq

/-- What is left of a text is a part of it. -/
theorem mem_of_mem_trim {c : Char} {cs : List Char} (h : c ∈ trim cs) :
    c ∈ cs := by
  obtain ⟨before, after, -, -, hcs⟩ := exists_around cs
  rw [hcs]
  exact List.mem_append_right _ (List.mem_append_left _ h)

/-- Nothing is left exactly of blanks. So a text of blanks is as good as none.
-/
theorem trim_eq_nil_iff {cs : List Char} :
    trim cs = [] ↔ ∀ c ∈ cs, isBlank c = true := by
  constructor
  · intro h c hc
    obtain ⟨before, after, hbefore, hafter, hcs⟩ := exists_around cs
    rw [hcs, h, List.nil_append] at hc
    exact (List.mem_append.1 hc).elim (hbefore c) (hafter c)
  · intro h
    have haround := trim_around h (.of_forall (List.forall_mem_nil _))
      (List.forall_mem_nil _)
    rwa [List.append_nil, List.append_nil] at haround

/-- Digits are not blank. -/
theorem not_isBlank_of_isDigit {c : Char} (h : isDigit c = true) :
    isBlank c = false := by
  unfold isDigit at h
  simp only [Bool.and_eq_true, decide_eq_true_eq, Char.le_def] at h
  have hleast : '0'.toNat ≤ c.toNat := h.1
  have hgreatest : c.toNat ≤ '9'.toNat := h.2
  have h0 : '0'.toNat = 48 := rfl
  have h9 : '9'.toNat = 57 := rfl
  simp only [isBlank, Bool.or_eq_false_iff, Bool.and_eq_false_imp,
    decide_eq_true_eq, decide_eq_false_iff_not, beq_eq_false_iff_ne]
  omega

end PolicyGateway.Text
