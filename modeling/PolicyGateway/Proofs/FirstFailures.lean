import Mathlib.Data.List.Forall2
import PolicyGateway.Policy.DecisionRequest

/-!
# The first failure

A function that may fail goes through a list and stops where it fails. What comes of
it is one result for each entry, in their order (`mapM_eq_ok_iff`), or the failure of
the first entry that fails, with all entries in front of it having a result
(`mapM_eq_error_iff`).

So the fields of a ruleset are selected from a body: every field, under its name and
in the order of the ruleset (`selectFields_eq_ok_iff`), or none, and then the first
one that cannot be selected is told (`selectFields_eq_error_iff`).

**Why the front matters.** Where something fails, one would like to know that it
is the first thing to fail, and that all before it was in order. Otherwise the
cause that is told could depend on how the list is gone through, and two runs
over the same body could name two fields.
-/

namespace PolicyGateway

/-- A result that gives a value is no failure. -/
theorem eq_ok_of_toOption {ε α : Type} {result : Except ε α} {a : α}
    (h : result.toOption = some a) : result = .ok a := by
  cases result with
  | error failure => cases h
  | ok found =>
    cases h
    rfl

/-! ## Going through a list

Both statements are over any function and any list. The failing entry splits the
list in two, and about what comes behind it nothing is said, because nobody has
looked there. -/

section MapM

variable {ε α β : Type} {f : α → Except ε β}

/-- What is made of an answer fails only as the answer does. -/
theorem eq_error_of_map {make : α → β} {answer : Except ε α} {cause : ε}
    (h : answer.map make = .error cause) : answer = .error cause := by
  cases answer with
  | error e =>
    cases h
    rfl
  | ok part => cases h

/-- What comes of an entry and of the entries behind it. It is the only equation
of the pass that is used below. -/
theorem mapM_cons_eq (f : α → Except ε β) (x : α) (rest : List α) :
    (x :: rest).mapM f
      = match f x with
        | .error cause => .error cause
        | .ok y => (rest.mapM f).map (y :: ·) := by
  rw [List.mapM_cons]
  cases f x with
  | error cause => rfl
  | ok y => cases rest.mapM f <;> rfl

/-- **Each entry has its result**, in the order of the entries. No result is
dropped and none is made up. -/
theorem mapM_eq_ok_iff {xs : List α} {ys : List β} :
    xs.mapM f = .ok ys ↔ List.Forall₂ (fun x y => f x = .ok y) xs ys := by
  induction xs generalizing ys with
  | nil =>
    rw [List.forall₂_nil_left_iff]
    exact ⟨fun h => by cases h; rfl, fun h => h ▸ rfl⟩
  | cons x rest ih =>
    rw [List.forall₂_cons_left_iff, mapM_cons_eq]
    constructor
    · intro h
      split at h
      · cases h
      · next y hy =>
        cases hrest : rest.mapM f with
        | error cause =>
          rw [hrest] at h
          cases h
        | ok parts =>
          rw [hrest] at h
          cases h
          exact ⟨y, parts, hy, ih.1 hrest, rfl⟩
    · rintro ⟨y, parts, hy, hparts, rfl⟩
      rw [hy, ih.2 hparts]
      rfl

/-- **The first entry that fails** is the cause. -/
theorem mapM_eq_error_iff {xs : List α} {cause : ε} :
    xs.mapM f = .error cause ↔
      ∃ before x after, xs = before ++ x :: after ∧
        (∀ other ∈ before, ∃ y, f other = .ok y) ∧ f x = .error cause := by
  induction xs with
  | nil =>
    refine iff_of_false nofun ?_
    rintro ⟨before, x, after, hxs, -⟩
    cases before <;> cases hxs
  | cons x rest ih =>
    rw [mapM_cons_eq]
    constructor
    · intro h
      split at h
      · next hx =>
        cases h
        exact ⟨[], x, rest, rfl, nofun, hx⟩
      · next y hy =>
        obtain ⟨before, other, after, rfl, hbefore, hother⟩ :=
          ih.1 (eq_error_of_map h)
        refine ⟨x :: before, other, after, rfl, ?_, hother⟩
        exact List.forall_mem_cons.2 ⟨⟨y, hy⟩, hbefore⟩
    · rintro ⟨before, other, after, hxs, hbefore, hother⟩
      -- the entry in front either is the one that fails, or has a result
      cases before with
      | nil =>
        cases hxs
        rw [hother]
      | cons first before =>
        cases hxs
        obtain ⟨⟨y, hy⟩, hbefore⟩ := List.forall_mem_cons.1 hbefore
        rw [hy, ih.2 ⟨before, other, after, rfl, hbefore, hother⟩]
        rfl

/-- Where no entry fails there is a result, and only there. -/
theorem exists_mapM_eq_ok_iff {xs : List α} :
    (∃ ys, xs.mapM f = .ok ys) ↔ ∀ x ∈ xs, ∃ y, f x = .ok y := by
  constructor
  · rintro ⟨ys, h⟩
    induction mapM_eq_ok_iff.1 h with
    | nil => nofun
    | cons hy hrest ih =>
      exact List.forall_mem_cons.2 ⟨⟨_, hy⟩, ih (mapM_eq_ok_iff.2 hrest)⟩
  · intro h
    cases hxs : xs.mapM f with
    | ok ys => exact ⟨ys, rfl⟩
    | error cause =>
      obtain ⟨before, x, after, rfl, -, hx⟩ := mapM_eq_error_iff.1 hxs
      obtain ⟨y, hy⟩ := h x (List.mem_append_right _ List.mem_cons_self)
      rw [hy] at hx
      cases hx

end MapM

namespace Policy.DecisionRequest

open PolicyGateway.Json

/-! ## The fields of a ruleset

A ruleset names the fields that a policy server is to be shown, and for each of
them where in the body it is. To show some of them and leave out the rest would
be to ask a different question, so one that is missing is enough to ask none. -/

/-- **A field as it is selected** from a body: it has the name that the ruleset
gives it, and the part of the body that the path of the ruleset selects. The
name has nothing to do with the name that the value has in the body. -/
structure IsFieldOf (body : Value) (entry : String × String)
    (field : String × Value) : Prop where
  /-- The name is the ruleset's. -/
  name : field.1 = entry.1
  /-- The value is what the path selects. -/
  selects : select body entry.2 = .ok field.2

/-- What comes of one field of a ruleset. -/
def fieldOf (body : Value) (entry : String × String) :
    Except Failure (String × Value) :=
  match select body entry.2 with
  | .error cause => .error (.extraction entry.1 entry.2 cause)
  | .ok part => .ok (entry.1, part)

section Fields

variable {body : Value} {entry : String × String} {field : String × Value}
  {entries : List (String × String)} {fields : List (String × Value)}
  {failure : Failure}

theorem fieldOf_eq_ok_iff :
    fieldOf body entry = .ok field ↔ IsFieldOf body entry field := by
  unfold fieldOf
  constructor
  · intro h
    split at h
    · cases h
    · next part hpart =>
      cases h
      exact ⟨rfl, hpart⟩
  · rintro ⟨hname, hselects⟩
    rw [hselects, ← hname]

theorem exists_isFieldOf_iff :
    (∃ field, IsFieldOf body entry field) ↔
      ∃ part, select body entry.2 = .ok part :=
  ⟨fun ⟨_, h⟩ => ⟨_, h.selects⟩, fun ⟨part, h⟩ => ⟨(entry.1, part), rfl, h⟩⟩

theorem fieldOf_eq_error_iff :
    fieldOf body entry = .error failure ↔
      ∃ cause, select body entry.2 = .error cause ∧
        failure = .extraction entry.1 entry.2 cause := by
  unfold fieldOf
  constructor
  · intro h
    split at h
    · next cause hcause =>
      cases h
      exact ⟨cause, hcause, rfl⟩
    · cases h
  · rintro ⟨cause, hcause, rfl⟩
    rw [hcause]

theorem selectFields_eq_mapM (body : Value) (entries : List (String × String)) :
    selectFields body entries = entries.mapM (fieldOf body) := by
  induction entries with
  | nil => rfl
  | cons entry rest ih =>
    rw [mapM_cons_eq, ← ih, selectFields]
    unfold fieldOf
    cases select body entry.2 <;> rfl

/-- **All fields are selected**, each under its name and in their order. -/
theorem selectFields_eq_ok_iff :
    selectFields body entries = .ok fields ↔
      List.Forall₂ (IsFieldOf body) entries fields := by
  rw [selectFields_eq_mapM, mapM_eq_ok_iff]
  simp only [fieldOf_eq_ok_iff]

theorem exists_selectFields_iff :
    (∃ fields, selectFields body entries = .ok fields) ↔
      ∀ entry ∈ entries, ∃ part, select body entry.2 = .ok part := by
  rw [selectFields_eq_mapM, exists_mapM_eq_ok_iff]
  simp only [fieldOf_eq_ok_iff, exists_isFieldOf_iff]

/-- **Or the first that cannot be selected** is told, with its name and its path. -/
theorem selectFields_eq_error_iff :
    selectFields body entries = .error failure ↔
      ∃ before field path after cause, entries = before ++ (field, path) :: after ∧
        (∀ entry ∈ before, ∃ part, select body entry.2 = .ok part) ∧
        select body path = .error cause ∧
        failure = .extraction field path cause := by
  rw [selectFields_eq_mapM, mapM_eq_error_iff]
  simp only [fieldOf_eq_ok_iff, exists_isFieldOf_iff, fieldOf_eq_error_iff]
  constructor
  · rintro ⟨before, ⟨field, path⟩, after, hsplit, hbefore, cause, hcause, rfl⟩
    exact ⟨before, field, path, after, cause, hsplit, hbefore, hcause, rfl⟩
  · rintro ⟨before, field, path, after, cause, hsplit, hbefore, hcause, rfl⟩
    exact ⟨before, (field, path), after, hsplit, hbefore, cause, hcause, rfl⟩

end Fields

end Policy.DecisionRequest

end PolicyGateway
