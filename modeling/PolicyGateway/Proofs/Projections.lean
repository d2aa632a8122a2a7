import PolicyGateway.Proofs.Selections

/-!
# What a path with all elements selects

A path with `[*]` leads to an array and says what to take of each of its elements:
the element as it is, or what the rest of the path selects of it, where it is an
object. One part is taken of every element, in their order (`IsPart`), and the first
element of which none can be taken is the cause of the failure (`FailsAt`). An array
is needed for all this, and the false that stands in for a missing field is none.

The walk goes through the elements with their indices (`walkEach_eq_mapM`), and what
comes of it, `select_each_iff`, is what comes of going through any list
(`mapM_eq_ok_iff`, `mapM_eq_error_iff`).

**Why every element counts.** A ruleset that takes a part of each item wants the
server to decide on all of them. If an element without that part were passed
over, a client could keep an item from being looked at by leaving the part out.
So one element is enough for a failure, and it is told which one.
-/

namespace PolicyGateway

namespace Json

open Text

/-! ## The rest of the path

What stands behind `[*]` starts with a dot, which belongs to it as a mark and
not as a step. More dots make no step either, so a rest of dots is as good as
none. -/

/-- A dot in front makes no step. -/
theorem steps_dot (rest : List Char) : steps ('.' :: rest) = steps rest := by
  unfold steps
  rw [List.splitOn_cons_eq_if_modifyHead]
  rfl

/-- Anything else does. -/
theorem steps_ne_nil {c : Char} (h : c ≠ '.') (rest : List Char) :
    steps (c :: rest) ≠ [] := by
  obtain ⟨first, more, hsplit⟩ :=
    List.exists_cons_of_ne_nil (List.splitOn_ne_nil '.' rest)
  unfold steps
  rw [List.splitOn_cons_eq_if_modifyHead, if_neg (by simpa using h), hsplit]
  exact List.cons_ne_nil _ _

theorem dropLeading_cons (c : Char) (rest : List Char) :
    dropLeading '.' (c :: rest)
      = if c = '.' then dropLeading '.' rest else c :: rest := by
  unfold dropLeading
  rw [List.dropWhile_cons]
  simp

/-- The dots in front of the rest of a path make no step. -/
theorem steps_dropLeading (rest : List Char) :
    steps (dropLeading '.' rest) = steps rest := by
  induction rest with
  | nil => rfl
  | cons c rest ih =>
    rw [dropLeading_cons]
    split
    · next hdot => rw [ih, hdot, steps_dot]
    · rfl

/-- Only dots make none at all. -/
theorem isEmpty_dropLeading (rest : List Char) :
    (dropLeading '.' rest).isEmpty = true ↔ steps rest = [] := by
  induction rest with
  | nil => exact iff_of_true rfl rfl
  | cons c rest ih =>
    rw [dropLeading_cons]
    split
    · next hdot => rw [ih, hdot, steps_dot]
    · next hdot => exact iff_of_false Bool.false_ne_true (steps_ne_nil hdot rest)

/-! ## Parts of elements

The rest of the path is walked from each element as if it were a path of its
own. Only failures are told under the name of the whole path; so a walk under
another name is the same walk with other words. -/

/-- The same failure, told of another path. -/
def SelectError.inPath (path : String) : SelectError → SelectError
  | missing _ field => missing path field
  | mismatch _ step expected => mismatch path step expected
  | malformed _ fault => malformed path fault

/-- A walk under another path comes to the same, and tells failures of that path. -/
theorem walk_inPath (path other : String) (steps : List String) (value : Value) :
    walk path steps value = (walk other steps value).mapError (·.inPath path) := by
  induction steps generalizing value with
  | nil => rfl
  | cons step rest ih =>
    rw [walk_cons, walk_cons]
    cases value.member? step with
    | some next => exact ih next
    | none =>
      dsimp only
      split
      · split <;> rfl
      · rfl

/-- **The place of an element** in the array that a path leads to. It is told in
failures, with the index in decimal digits. -/
def elementPlace (array : List Char) (index : Nat) : String :=
  String.ofList array ++ "[" ++ toString index ++ "]"

/-- **A part of an element**, by the rest of the path. -/
inductive IsPart (rest : List Char) (element : Value) : Value → Prop
  /-- The rest makes no step, and the element is taken as it is. -/
  | whole (ends : steps rest = []) : IsPart rest element element
  /-- The rest goes on, and selects the part of an object. -/
  | inside {part : Value} (goesOn : steps rest ≠ [])
      (object : element.isObject = true)
      (selects : select element (String.ofList rest) = .ok part) :
      IsPart rest element part

/-- **An element of which no part can be taken**, with the failure that is told.
The index is that of the element and not of the failure: it is known where in
the array to look. -/
inductive FailsAt (path : String) (array rest : List Char) (index : Nat)
    (element : Value) : SelectError → Prop
  /-- The rest goes on, and the element is no object. -/
  | noObject (goesOn : steps rest ≠ []) (other : element.isObject = false) :
      FailsAt path array rest index element
        (.mismatch path (elementPlace array index) .object)
  /-- The rest goes on and selects nothing of the object. -/
  | inside {cause : SelectError} (goesOn : steps rest ≠ [])
      (object : element.isObject = true)
      (fails : select element (String.ofList rest) = .error cause) :
      FailsAt path array rest index element (cause.inPath path)

/-- The part of the element at an index, or the failure. -/
def partAt (path : String) (array rest : List Char) (place : Value × Nat) :
    Except SelectError Value :=
  if steps rest = [] then .ok place.1
  else if place.1.isObject then walk path (steps rest) place.1
  else .error (.mismatch path (elementPlace array place.2) .object)

section Rest

variable {path : String} {array rest : List Char} {element part : Value}
  {place : Value × Nat} {cause : SelectError}

/-- The rest of a path, on its own, is walked under its own name. -/
theorem select_rest (hplain : IsPlain rest) (hdotted : ∀ c ∈ rest.head?, c = '.')
    (element : Value) :
    select element (String.ofList rest)
      = walk (String.ofList rest) (steps rest) element := by
  have hunrooted : rest.head? ≠ some '$' := fun h =>
    absurd (hdotted '$' h) (by decide)
  refine select_eq_walk ?_ hplain element
  rw [String.toList_ofList]
  exact .unmarked hunrooted

theorem partAt_eq_ok_iff (hplain : IsPlain rest)
    (hdotted : ∀ c ∈ rest.head?, c = '.') :
    partAt path array rest place = .ok part ↔ IsPart rest place.1 part := by
  have hwalk : walk path (steps rest) place.1 = .ok part ↔
      select place.1 (String.ofList rest) = .ok part := by
    rw [select_rest hplain hdotted, walk_inPath path (String.ofList rest)]
    cases walk (String.ofList rest) (steps rest) place.1 with
    | error cause => exact iff_of_false nofun nofun
    | ok found => rfl
  unfold partAt
  constructor
  · intro h
    split at h
    · next ends =>
      cases h
      exact .whole ends
    · next goesOn =>
      split at h
      · next object => exact .inside goesOn object (hwalk.1 h)
      · cases h
  · rintro (ends | ⟨goesOn, object, selects⟩)
    · exact if_pos ends
    · rw [if_neg goesOn, if_pos object]
      exact hwalk.2 selects

theorem partAt_eq_error_iff (hplain : IsPlain rest)
    (hdotted : ∀ c ∈ rest.head?, c = '.') {failure : SelectError} :
    partAt path array rest place = .error failure ↔
      FailsAt path array rest place.2 place.1 failure := by
  -- the walk of the rest fails as the rest does on its own, told of the whole
  -- path
  have hwalk : walk path (steps rest) place.1 = .error failure ↔
      ∃ cause, select place.1 (String.ofList rest) = .error cause ∧
        cause.inPath path = failure := by
    rw [select_rest hplain hdotted, walk_inPath path (String.ofList rest)]
    cases walk (String.ofList rest) (steps rest) place.1 with
    | error cause => simp [Except.mapError]
    | ok found => simp [Except.mapError]
  unfold partAt
  constructor
  · intro h
    split at h
    · cases h
    · next goesOn =>
      split at h
      · next object =>
        obtain ⟨cause, fails, rfl⟩ := hwalk.1 h
        exact .inside goesOn object fails
      · next other =>
        cases h
        exact .noObject goesOn (Bool.not_eq_true _ ▸ other)
  · rintro (⟨goesOn, other⟩ | ⟨goesOn, object, fails⟩)
    · rw [if_neg goesOn, if_neg (by rw [other]; exact Bool.false_ne_true)]
    · rw [if_neg goesOn, if_pos object]
      exact hwalk.2 ⟨_, fails, rfl⟩

/-- The place of an element is spelled with its index in decimal digits. -/
theorem elementPlace_eq (array : List Char) (index : Nat) :
    elementPlace array index
      = String.ofList (array ++ '[' :: Nat.toDigits 10 index ++ [']']) := by
  show String.ofList array ++ String.ofList ['['] ++
    String.ofList (Nat.toDigits 10 index) ++ String.ofList [']'] = _
  rw [← String.ofList_append, ← String.ofList_append, ← String.ofList_append,
    List.append_assoc array]
  rfl

/-- Where the rest of the path goes on, one part is taken after the other. So
what is known of going through a list holds of the elements. -/
theorem walkEach_eq_mapM (path : String) (array : List Char)
    (goesOn : steps rest ≠ []) (index : Nat) (elements : List Value) :
    walkEach path array (steps rest) index elements
      = (elements.zipIdx index).mapM (partAt path array rest) := by
  induction elements generalizing index with
  | nil => rfl
  | cons element later ih =>
    have hpart : partAt path array rest (element, index)
        = if element.isObject then walk path (steps rest) element
          else .error (.mismatch path (elementPlace array index) .object) :=
      if_neg goesOn
    rw [List.zipIdx_cons, mapM_cons_eq, walkEach, ih, hpart, elementPlace_eq]
    split
    · cases walk path (steps rest) element <;> rfl
    · rfl

/-- And where it does not, every element is taken as it is. -/
theorem mapM_partAt_of_ends (ends : steps rest = []) (elements : List Value) :
    elements.zipIdx.mapM (partAt path array rest) = .ok elements := by
  have hfst : elements.zipIdx.mapM (partAt path array rest)
      = .ok (elements.zipIdx.map Prod.fst) :=
    mapM_eq_ok_iff.2 (List.forall₂_map_right_iff.2
      (List.forall₂_same.2 fun place _ => if_pos ends))
  rwa [List.zipIdx_map_fst] at hfst

section Elements

variable {elements : List Value} (hplain : IsPlain rest)
  (hdotted : ∀ c ∈ rest.head?, c = '.')
include hplain hdotted

theorem mapM_partAt_eq_ok_iff {parts : List Value} :
    elements.zipIdx.mapM (partAt path array rest) = .ok parts ↔
      List.Forall₂ (IsPart rest) elements parts := by
  have hfst : List.Forall₂ (IsPart rest) elements parts ↔
      List.Forall₂ (fun place part => IsPart rest place.1 part)
        elements.zipIdx parts := by
    rw [← List.forall₂_map_left_iff (f := Prod.fst), List.zipIdx_map_fst]
  rw [mapM_eq_ok_iff, hfst]
  simp only [partAt_eq_ok_iff hplain hdotted]

theorem mapM_partAt_eq_error_iff {failure : SelectError} :
    elements.zipIdx.mapM (partAt path array rest) = .error failure ↔
      ∃ earlier element later, elements = earlier ++ element :: later ∧
        (∀ other ∈ earlier, ∃ part, IsPart rest other part) ∧
        FailsAt path array rest earlier.length element failure := by
  rw [mapM_eq_error_iff]
  simp only [partAt_eq_ok_iff hplain hdotted, partAt_eq_error_iff hplain hdotted]
  constructor
  · rintro ⟨before, place, after, hsplit, hbefore, hfails⟩
    obtain ⟨earlier, others, rfl, rfl, hothers⟩ := List.zipIdx_eq_append_iff.1 hsplit
    obtain ⟨element, later, rfl, rfl, -⟩ := List.zipIdx_eq_cons_iff.1 hothers.symm
    rw [Nat.zero_add] at hfails
    refine ⟨earlier, element, later, rfl, fun other hother => ?_, hfails⟩
    rw [← List.zipIdx_map_fst 0 earlier] at hother
    obtain ⟨place, hplace, rfl⟩ := List.mem_map.1 hother
    exact hbefore place hplace
  · rintro ⟨earlier, element, later, rfl, hearlier, hfails⟩
    refine ⟨earlier.zipIdx, (element, earlier.length),
      later.zipIdx (earlier.length + 1), ?_,
      fun place hplace => hearlier _ (List.fst_mem_of_mem_zipIdx hplace), hfails⟩
    rw [List.zipIdx_append, List.zipIdx_cons, Nat.zero_add]

end Elements

end Rest

section Each

variable {path : String} {front back : List Char}
  (hbody : IsBody path.toList (front ++ (['[', '*', ']'] ++ back)))
  (hfront : IsPlain front) (hback : IsPlain back)
  (hdotted : ∀ c ∈ back.head?, c = '.')
include hbody hfront hback hdotted

/-- A path with `[*]` takes a part of each element of the array that its front leads
to. -/
theorem select_eq_each (value : Value) :
    select value path
      = match walk path (steps front) value with
        | .error cause => .error cause
        | .ok (.array elements) =>
          (elements.zipIdx.mapM (partAt path front back)).map .array
        | .ok _ => .error (.mismatch path (String.ofList front) .array) := by
  unfold select
  rw [Selector.parse_each hbody hfront hback hdotted]
  dsimp only
  cases walk path (steps front) value with
  | error cause => rfl
  | ok found =>
    cases found with
    | array elements =>
      dsimp only
      split
      · next hempty =>
        rw [mapM_partAt_of_ends ((isEmpty_dropLeading back).1 hempty)]
        rfl
      · next hmore =>
        have goesOn : steps back ≠ [] := fun ends =>
          hmore ((isEmpty_dropLeading back).2 ends)
        rw [steps_dropLeading, walkEach_eq_mapM path front goesOn]
    | _ => rfl

theorem select_of_array {value : Value} {elements : List Value}
    (h : Leads value (steps front) (.array elements)) :
    select value path
      = (elements.zipIdx.mapM (partAt path front back)).map .array := by
  rw [select_eq_each hbody hfront hback hdotted, walk_eq_iff.2 (.reached h)]

/-- Nothing is selected but from an array. -/
theorem exists_array_of_select {value found : Value}
    (h : select value path = .ok found) :
    ∃ elements, Leads value (steps front) (.array elements) := by
  rw [select_eq_each hbody hfront hback hdotted] at h
  split at h
  · cases h
  · next elements harray =>
    -- a walk that ends in an array does not end in the false of a missing field
    cases walk_eq_iff.1 harray with
    | reached leads => exact ⟨elements, leads⟩
  · cases h

/-- **What a path with all elements selects.** It selects something exactly if
its front leads to an array and a part can be taken of each element, and these
parts are what it selects, one for each element and in their order. Otherwise
the first element without a part is told, with its index, or what the front
comes to instead of an array.

The elements in front of the one that is told are in order, and about those
behind it nothing is said. -/
theorem select_each_iff (value : Value) :
    (∀ found, select value path = .ok found ↔
      ∃ elements parts, Leads value (steps front) (.array elements) ∧
        List.Forall₂ (IsPart back) elements parts ∧ found = .array parts) ∧
    (∀ elements, Leads value (steps front) (.array elements) →
      ∀ failure, select value path = .error failure ↔
        ∃ earlier element later, elements = earlier ++ element :: later ∧
          (∀ other ∈ earlier, ∃ part, IsPart back other part) ∧
          FailsAt path front back earlier.length element failure) ∧
    (∀ found, EndsIn path value (steps front) (.ok found) →
      (∀ elements, found ≠ .array elements) →
      select value path = .error (.mismatch path (String.ofList front) .array)) ∧
    ∀ failure, EndsIn path value (steps front) (.error failure) →
      select value path = .error failure := by
  refine ⟨fun found => ⟨fun h => ?_, ?_⟩, fun elements hleads failure => ?_,
    fun found hends hother => ?_, fun failure hends => ?_⟩
  · obtain ⟨elements, hleads⟩ :=
      exists_array_of_select hbody hfront hback hdotted h
    rw [select_of_array hbody hfront hback hdotted hleads] at h
    cases hparts : elements.zipIdx.mapM (partAt path front back) with
    | error cause =>
      rw [hparts] at h
      cases h
    | ok parts =>
      rw [hparts] at h
      cases h
      exact ⟨elements, parts, hleads,
        (mapM_partAt_eq_ok_iff hback hdotted).1 hparts, rfl⟩
  · rintro ⟨elements, parts, hleads, hparts, rfl⟩
    rw [select_of_array hbody hfront hback hdotted hleads,
      (mapM_partAt_eq_ok_iff hback hdotted).2 hparts]
    rfl
  · have hfirst : elements.zipIdx.mapM (partAt path front back) = .error failure ↔ _ :=
      mapM_partAt_eq_error_iff hback hdotted
    rw [select_of_array hbody hfront hback hdotted hleads, ← hfirst]
    exact ⟨eq_error_of_map, fun h => by rw [h]; rfl⟩
  · -- what the front comes to is no array
    rw [select_eq_each hbody hfront hback hdotted, walk_eq_iff.2 hends]
    cases found with
    | array elements => exact absurd rfl (hother elements)
    | _ => rfl
  · rw [select_eq_each hbody hfront hback hdotted, walk_eq_iff.2 hends]

end Each

/-! ### Items of an order

The second item says nothing of the part that is asked for, and what stands in
for it is false. -/

/-- An order with these items. -/
def itemsOrder (items : List Value) : Value :=
  .object [("items", .array items)]

/-- An item that was given away, and one of which this is not said. -/
def giftItems : List Value :=
  [.object [("giftUsed", .boolean true)], .object []]

/-- Of each of the two items it is told whether it was a gift, and a third one that is
a number is told by its index. -/
theorem giftItems_selected :
    select (itemsOrder giftItems) "$.items[*].giftUsed"
        = .ok (.array [.boolean true, .boolean false]) ∧
      select (itemsOrder (giftItems ++ [Value.natural 7, .null]))
          "$.items[*].giftUsed"
        = .error (.mismatch "$.items[*].giftUsed" "items[2]" .object) := by
  have hbody : IsBody "$.items[*].giftUsed".toList
      ("items".toList ++ (['[', '*', ']'] ++ ".giftUsed".toList)) := .dotted _
  have hfront : IsPlain "items".toList := ⟨by decide, by decide⟩
  have hback : IsPlain ".giftUsed".toList := ⟨by decide, by decide⟩
  have hdotted : ∀ c ∈ ".giftUsed".toList.head?, c = '.' := fun c hc =>
    (Option.some.inj (show some '.' = some c from hc)).symm
  have hleads : ∀ items, Leads (itemsOrder items) (steps "items".toList)
      (.array items) := fun items => .down rfl .here
  have hgift : IsPart ".giftUsed".toList (.object [("giftUsed", .boolean true)])
      (.boolean true) := .inside (by decide) rfl rfl
  have hnone : IsPart ".giftUsed".toList (.object []) (.boolean false) :=
    .inside (by decide) rfl rfl
  have hnumber : FailsAt "$.items[*].giftUsed" "items".toList ".giftUsed".toList 2
      (Value.natural 7) (.mismatch "$.items[*].giftUsed" "items[2]" .object) :=
    .noObject (by decide) rfl
  refine ⟨((select_each_iff hbody hfront hback hdotted _).1 _).2
      ⟨_, _, hleads _, .cons hgift (.cons hnone .nil), rfl⟩,
    ((select_each_iff hbody hfront hback hdotted _).2.1 _ (hleads _) _).2
      ⟨giftItems, _, [.null], rfl, ?_, hnumber⟩⟩
  exact List.forall_mem_cons.2 ⟨⟨_, hgift⟩, List.forall_mem_singleton.2 ⟨_, hnone⟩⟩

end Json

end PolicyGateway
