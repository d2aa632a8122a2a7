import Mathlib.Data.List.Basic
import PolicyGateway.Proofs.Blanks
import PolicyGateway.Proofs.LetterCase
import PolicyGateway.Route.Pattern

/-!
# What a rule key says

A key may be written with blanks around it, with brackets or without, and with
its method in any letter case. What is taken from it is a path pattern, and
perhaps a method, and these have one canonical key: the path, a colon and the
method if there is one, in brackets.

Nothing that a key says is lost on the way there: the canonical key is taken
apart into the same path and method again. And any path, whatever colons,
brackets and blanks it has, can be written in a key with a method, since a key is
cut at its last colon; such a key scores as the path does, for its method alone.
`parse_keyFor` says both.

**Why a canonical key.** Keys come from settings, where the same rule may be
written in several ways. Rules that were read can be written again in one way
only, and it has to be known that this does not turn them into others. The other
direction is for whoever makes settings: for any path there is a key, and it
means this path and nothing else.
-/

namespace PolicyGateway

namespace Text

/-! ## Blanks and letter case

A method is trimmed and put in capitals. The two do not get in each other's way,
as no letter is blank in either case. -/

/-- What does not touch blanks may be done before or after trimming. -/
theorem trim_map {f : Char → Char} (h : ∀ c, isBlank (f c) = isBlank c)
    (cs : List Char) : trim (cs.map f) = (trim cs).map f := by
  have hcomp : isBlank ∘ f = isBlank := funext h
  unfold trim trimEnd trimStart
  rw [List.dropWhile_map, hcomp, ← List.map_reverse, List.dropWhile_map, hcomp,
    ← List.map_reverse]

/-- Letters are not blank, nor is anything that stands among them. -/
theorem not_isBlank_of_letter {c : Char} (hlow : 0x41 ≤ c.toNat)
    (hhigh : c.toNat ≤ 0x7a) : isBlank c = false := by
  simp only [isBlank, Bool.or_eq_false_iff, Bool.and_eq_false_imp,
    decide_eq_true_eq, decide_eq_false_iff_not, beq_eq_false_iff_ne]
  omega

/-- So upper case keeps what is blank and what is not. -/
theorem isBlank_toUpper (c : Char) : isBlank c.toUpper = isBlank c := by
  rcases eq_of_toUpper_eq (c := c) rfl with h | ⟨hlow, hhigh, hadd⟩
  · exact congrArg isBlank h.symm
  · rw [not_isBlank_of_letter hlow (by omega),
      not_isBlank_of_letter (by omega) (by omega)]

end Text

namespace Route.Pattern

open Text

/-! ## Taking a key apart

A key is trimmed, taken out of its brackets and cut at its last colon. What
stands behind the colon is a method only if it can be one; otherwise the whole
key is a path. `parse_cases` says what may come of it, and nothing below looks
into it again. -/

/-- **The canonical key** of a path, and of a method if there is one. It is in
brackets whether or not it has to be. -/
def keyFor (path : String) : Option String → String
  | none => "[" ++ path ++ "]"
  | some method => "[" ++ path ++ ":" ++ method ++ "]"

/-- **A text is a method**, as it may be written in a key: it is not all blank,
and no colon or slash is in it. It need not be the name of a method that HTTP
knows. -/
structure IsMethodText (method : String) : Prop where
  /-- No colon ends it. -/
  colon : ':' ∉ method.toList
  /-- No slash makes it part of a path. -/
  slash : '/' ∉ method.toList
  /-- Something of it is not blank. -/
  visible : ∃ c ∈ method.toList, isBlank c = false

/-- One pair of brackets is taken off, whatever is in them. -/
theorem bare_bracketed (inside : List Char) :
    bare ('[' :: inside ++ [']']) = inside := by
  have hopening : ['['].isPrefixOf? ('[' :: inside ++ [']'])
      = some (inside ++ [']']) :=
    List.isPrefixOf?_eq_some_iff_append_eq.2 rfl
  have hclosing : [']'].isSuffixOf? (inside ++ [']']) = some inside :=
    List.isSuffixOf?_eq_some_iff_append_eq.2 rfl
  have hends : IsBare ('[' :: inside ++ [']']) :=
    .of_ends (by decide) (by decide) inside
  unfold bare
  rw [hends.trim_eq]
  dsimp only
  rw [hopening, Option.bind_some, hclosing]
  rfl

theorem bare_keyFor_none (path : String) :
    bare (keyFor path none).toList = path.toList := by
  unfold keyFor
  rw [String.toList_append, String.toList_append]
  exact bare_bracketed path.toList

theorem bare_keyFor_some (path method : String) :
    bare (keyFor path (some method)).toList
      = path.toList ++ ':' :: method.toList := by
  unfold keyFor
  rw [String.toList_append, String.toList_append, String.toList_append,
    String.toList_append, List.append_assoc "[".toList,
    List.append_assoc "[".toList, List.append_assoc path.toList]
  exact bare_bracketed (path.toList ++ ':' :: method.toList)

theorem isMethod_iff {text : List Char} :
    isMethod text = true ↔ trim text ≠ [] ∧ '/' ∉ trim text := by
  unfold isMethod
  simp

/-- **What a key says**: a path and nothing else, or a path, a colon and a
method. -/
theorem parse_cases (raw : String) :
    parse raw
        = { raw, path := String.ofList (bare raw.toList), method := none } ∨
    ∃ path method, ':' ∉ method ∧ isMethod method = true ∧
      parse raw =
        { raw, path := String.ofList path
          method := some (uppercase (String.ofList (trim method))) } := by
  unfold parse
  dsimp only
  split
  · next path method hcut =>
    split
    · next hmethod =>
      exact .inr ⟨path, method, (cutLast_eq_some hcut).2, hmethod, rfl⟩
    · exact .inl rfl
  · exact .inl rfl

/-- Keys that differ in their decoration say the same. -/
theorem parse_of_bare_eq {raw other : String}
    (h : bare other.toList = bare raw.toList) :
    parse other = { parse raw with raw := other } := by
  unfold parse
  rw [h]
  dsimp only
  split
  · split <;> rfl
  · rfl

/-- **A path and a method in a key** are read as they are, up to the letter case
of the method and the blanks around it. A colon in the path is no trouble, since
it is not the last one. -/
theorem parse_keyFor_some {path method : String} (hcolon : ':' ∉ method.toList)
    (hmethod : isMethod method.toList = true) :
    parse (keyFor path (some method))
      = { raw := keyFor path (some method), path
          method := some (uppercase (trimmed method)) } := by
  unfold parse
  rw [bare_keyFor_some]
  dsimp only
  rw [cutLast_append hcolon]
  dsimp only
  rw [if_pos hmethod, String.ofList_toList]
  rfl

section Written

variable {method : List Char}

theorem toList_written :
    (uppercase (String.ofList (trim method))).toList
      = (trim method).map Char.toUpper := by
  unfold uppercase
  rw [String.toList_ofList, String.toList_ofList]

/-- What a text is without letters is not changed by their case. -/
theorem not_mem_written {mark : Char} (hmark : mark.toNat < 0x41)
    (h : mark ∉ trim method) :
    mark ∉ (uppercase (String.ofList (trim method))).toList := by
  rw [toList_written]
  intro hmem
  obtain ⟨c, hc, hupper⟩ := List.mem_map.1 hmem
  rw [(toUpper_eq_iff hmark).1 hupper] at hc
  exact h hc

theorem trim_written :
    trim (uppercase (String.ofList (trim method))).toList
      = (uppercase (String.ofList (trim method))).toList := by
  rw [toList_written, trim_map isBlank_toUpper, trim_trim]

/-- A method as a key says it is a method. -/
theorem isMethod_written (h : isMethod method = true) :
    isMethod (uppercase (String.ofList (trim method))).toList = true := by
  obtain ⟨hne, hslash⟩ := isMethod_iff.1 h
  rw [isMethod_iff, trim_written]
  refine ⟨?_, not_mem_written (by decide) hslash⟩
  rw [toList_written]
  exact fun hnil => hne (List.map_eq_nil_iff.1 hnil)

/-- And it is said as it is. -/
theorem uppercase_written :
    uppercase (trimmed (uppercase (String.ofList (trim method))))
      = uppercase (String.ofList (trim method)) := by
  unfold trimmed
  rw [trim_written, String.ofList_toList]
  unfold uppercase
  rw [String.toList_ofList, List.map_map]
  exact congrArg String.ofList
    (List.map_congr_left fun c _ => toUpper_toUpper c)

end Written

/-- **The canonical key says what the key says.** -/
theorem parse_keyFor_parse (raw : String) :
    parse (keyFor (parse raw).path (parse raw).method)
      = { parse raw with
          raw := keyFor (parse raw).path (parse raw).method } := by
  rcases parse_cases raw with hparse | ⟨path, method, hcolon, hmethod, hparse⟩
  · refine parse_of_bare_eq ?_
    rw [hparse, bare_keyFor_none, String.toList_ofList]
  · rw [hparse]
    -- what is read as a method has been trimmed and put in capitals, and is not
    -- changed by it again
    rw [parse_keyFor_some
      (not_mem_written (by decide) fun h => hcolon (mem_of_mem_trim h))
      (isMethod_written hmethod), uppercase_written]

theorem IsMethodText.isMethod {method : String} (h : IsMethodText method) :
    isMethod method.toList = true := by
  refine isMethod_iff.2 ⟨fun hnil => ?_, fun hmem =>
    h.slash (mem_of_mem_trim hmem)⟩
  obtain ⟨c, hc, hblank⟩ := h.visible
  rw [trim_eq_nil_iff.1 hnil c hc] at hblank
  cases hblank

/-! ## Any path in a key

Without a method a path with a colon might be cut at it, so the statement for
arbitrary paths is about keys with one. -/

/-- **Keys have a canonical form.** The canonical key of what a key says says the
same, for any text as a key. And any text as a path, with any text as a method
that can be one, is read back from its key: the key scores as the path does,
whatever the path of the request, where the method of the request is the one of
the key in some letter case or where none is named, and not at all for another
method. -/
theorem parse_keyFor :
    (∀ raw, parse (keyFor (parse raw).path (parse raw).method)
      = { parse raw with
          raw := keyFor (parse raw).path (parse raw).method }) ∧
    ∀ path method, IsMethodText method →
      (parse (keyFor path (some method))).path = path ∧
      ∀ request,
        (∀ actual,
          (parse (keyFor path (some method))).score? (some actual) request
            = if sameIgnoringCase actual (trimmed method) then
                pathScore? path request
              else none) ∧
        (parse (keyFor path (some method))).score? none request
          = pathScore? path request := by
  refine ⟨parse_keyFor_parse, fun path method h => ?_⟩
  have hparse := @parse_keyFor_some path method h.colon h.isMethod
  -- the method in the key is in capitals, and is compared without regard to
  -- case
  have hadmits : ∀ actual,
      (parse (keyFor path (some method))).admits (some actual)
        = sameIgnoringCase actual (trimmed method) := by
    intro actual
    rw [hparse]
    exact sameIgnoringCase_uppercase _ actual
  have hpath : (parse (keyFor path (some method))).path = path := by
    rw [hparse]
  refine ⟨hpath, fun request => ⟨fun actual => ?_, ?_⟩⟩
  · unfold score?
    rw [hadmits, hpath]
  · have hall : (parse (keyFor path (some method))).admits none = true := by
      rw [hparse]
      rfl
    unfold score?
    rw [if_pos hall, hpath]

/-- A key with room around its method, and a path with a colon and brackets of
its own. -/
theorem batch_keyFor :
    IsMethodText " post " ∧
      (parse "[/v1:batch/[a]: post ]").path = "/v1:batch/[a]" ∧
      (parse "[/v1:batch/[a]: post ]").score? (some "Post") "/v1:batch/[a]"
        = some 1013 ∧
      (parse "[/v1:batch/[a]: post ]").score? (some "PUT") "/v1:batch/[a]"
        = none ∧
      parse "[/v1:batch/[a]:POST]"
        = { parse "[/v1:batch/[a]: post ]" with raw := "[/v1:batch/[a]:POST]" }
          := by
  obtain ⟨hcanonical, hkeys⟩ := parse_keyFor
  have hmethod : IsMethodText " post " :=
    ⟨by decide, by decide, 'p', by decide, by decide⟩
  have hkey : keyFor "/v1:batch/[a]" (some " post ")
      = "[/v1:batch/[a]: post ]" := by decide
  have hshort : keyFor (parse "[/v1:batch/[a]: post ]").path
      (parse "[/v1:batch/[a]: post ]").method = "[/v1:batch/[a]:POST]" := by
    decide +kernel
  obtain ⟨hpath, hscores⟩ := hkeys "/v1:batch/[a]" " post " hmethod
  rw [hkey] at hpath hscores
  obtain ⟨hnamed, -⟩ := hscores "/v1:batch/[a]"
  have hread := hcanonical "[/v1:batch/[a]: post ]"
  rw [hshort] at hread
  refine ⟨hmethod, hpath, ?_, ?_, hread⟩
  · rw [hnamed, if_pos (by decide +kernel), pathScore?, if_pos rfl]
    decide +kernel
  · rw [hnamed, if_neg (by decide +kernel)]

end Route.Pattern

end PolicyGateway
