import PolicyGateway.Proofs.PathGrammar
import PolicyGateway.Record.OrderedMap

/-!
# What a plain path selects

A path without brackets is a way down through objects. `Leads` follows the steps
of a way as long as each of them is there, and `EndsIn` says what becomes of a
walk:

* where all steps lead on, it ends in what they lead to, unchanged;
* at an object without the next member it ends in false or in a missing field, by
  the name of the member;
* at anything else it ends in a mismatch.

A walk ends in one of these ways, and in each of them only where it should
(`walk_eq_iff`). What stands somewhere in nested objects is reached by the names on
the way to it, and a path joins these by dots (`steps_intercalate`). So it is read
back as it is stored, whatever its name says of itself (`select_plain_iff`).

**Why the way back matters.** A body is data that somebody else has made, and a
ruleset names what it wants of it by a path. It has to be sure that the value
under this path is the one that stands there, whatever it is: a null, an empty
object, or a value whose name would stand for false if it were missing. The
default is for names that are not there, and never replaces one that is.
-/

namespace PolicyGateway.Json

open Text

/-! ## Following the steps

A walk goes down one member at a time. It is described in two parts, the steps
that lead on and the one at which they end; and there is one end for every walk.
-/

/-- **Steps that lead** from a value down to another, through objects. -/
inductive Leads : Value → List String → Value → Prop
  /-- No step leads to the value itself. -/
  | here {value : Value} : Leads value [] value
  /-- A step leads to a member, and further steps lead on from there. -/
  | down {value next part : Value} {step : String} {rest : List String}
      (found : value.member? step = some next)
      (further : Leads next rest part) :
      Leads value (step :: rest) part

/-- **A name that answers for itself** says whether something was used or
exists. Whoever leaves out such a field says no to it. -/
def AnswersForItself (name : String) : Prop :=
  "Used".toList <:+: name.toList ∨ "Exists".toList <:+: name.toList

theorem defaultsToFalse_iff {name : String} :
    defaultsToFalse name = true ↔ AnswersForItself name := by
  unfold defaultsToFalse AnswersForItself
  rw [Bool.or_eq_true, occurs_iff, occurs_iff]

instance (name : String) : Decidable (AnswersForItself name) :=
  decidable_of_iff _ defaultsToFalse_iff

/-- **What becomes of a walk** down from a value. The path is the one that is
named in errors. That an end is the only one is not said here, but follows from
`walk_eq_iff`. -/
inductive EndsIn (path : String) (value : Value) (steps : List String) :
    Except SelectError Value → Prop
  /-- All steps lead on. -/
  | reached {part : Value} (leads : Leads value steps part) :
      EndsIn path value steps (.ok part)
  /-- The steps lead to an object without the next member, and its name answers for
  itself. -/
  | defaulted {way rest : List String} {step : String} {found : Value}
      (split : steps = way ++ step :: rest) (leads : Leads value way found)
      (object : found.isObject = true) (absent : found.member? step = none)
      (answers : AnswersForItself step) :
      EndsIn path value steps (.ok (.boolean false))
  /-- They lead to an object without the next member, and nothing answers for it. -/
  | missing {way rest : List String} {step : String} {found : Value}
      (split : steps = way ++ step :: rest) (leads : Leads value way found)
      (object : found.isObject = true) (absent : found.member? step = none)
      (silent : ¬ AnswersForItself step) :
      EndsIn path value steps (.error (.missing path step))
  /-- They lead to something that is no object, and there is a next step. -/
  | blocked {way rest : List String} {step : String} {found : Value}
      (split : steps = way ++ step :: rest) (leads : Leads value way found)
      (other : found.isObject = false) :
      EndsIn path value steps (.error (.mismatch path step .object))

section Walk

variable {path step : String} {way rest : List String} {value found next : Value}
  {result : Except SelectError Value}

/-- One step of a walk, by what stands under its name. -/
theorem walk_cons (path step : String) (rest : List String) (value : Value) :
    walk path (step :: rest) value
      = match value.member? step with
        | some next => walk path rest next
        | none =>
          if value.isObject then
            if defaultsToFalse step then .ok (.boolean false)
            else .error (.missing path step)
          else .error (.mismatch path step .object) := by
  cases value <;> rfl

theorem member?_of_not_isObject (h : value.isObject = false) :
    value.member? step = none := by
  cases value with
  | object members => cases h
  | _ => rfl

/-- A walk goes on from where its first steps lead. -/
theorem Leads.walk_append (h : Leads value way found) :
    walk path (way ++ rest) value = walk path rest found := by
  induction h with
  | here => rfl
  | down member _ ih =>
    rw [List.cons_append, walk_cons, member]
    exact ih

/-- What becomes of a walk from a member becomes of the walk to it and on. -/
theorem EndsIn.down (member : value.member? step = some next)
    (h : EndsIn path next rest result) : EndsIn path value (step :: rest) result := by
  cases h with
  | reached leads => exact .reached (.down member leads)
  | defaulted split leads object absent answers =>
    exact .defaulted (congrArg (step :: ·) split) (.down member leads) object absent
      answers
  | missing split leads object absent silent =>
    exact .missing (congrArg (step :: ·) split) (.down member leads) object absent
      silent
  | blocked split leads other =>
    exact .blocked (congrArg (step :: ·) split) (.down member leads) other

/-- Every walk ends in one of these ways. -/
theorem endsIn_walk (path : String) (steps : List String) (value : Value) :
    EndsIn path value steps (walk path steps value) := by
  induction steps generalizing value with
  | nil => exact .reached .here
  | cons step rest ih =>
    rw [walk_cons]
    cases member : value.member? step with
    | some next => exact (ih next).down member
    | none =>
      show EndsIn path value (step :: rest) (if _ then _ else _)
      split
      · next object =>
        split
        · next answers =>
          exact .defaulted rfl .here object member (defaultsToFalse_iff.1 answers)
        · next silent =>
          exact .missing rfl .here object member
            fun answers => silent (defaultsToFalse_iff.2 answers)
      · next other => exact .blocked rfl .here (Bool.not_eq_true _ ▸ other)

/-- And it ends in that way which fits the value. -/
theorem EndsIn.walk_eq {steps : List String} (h : EndsIn path value steps result) :
    walk path steps value = result := by
  cases h with
  -- the steps that lead are walked first, and then it is the next one that
  -- decides
  | reached leads =>
    rw [← List.append_nil steps, leads.walk_append]
    rfl
  | defaulted split leads object absent answers =>
    rw [split, leads.walk_append, walk_cons, absent]
    show (if _ then _ else _) = _
    rw [if_pos object, if_pos (defaultsToFalse_iff.2 answers)]
  | missing split leads object absent silent =>
    rw [split, leads.walk_append, walk_cons, absent]
    show (if _ then _ else _) = _
    rw [if_pos object, if_neg fun answers => silent (defaultsToFalse_iff.1 answers)]
  | blocked split leads other =>
    rw [split, leads.walk_append, walk_cons, member?_of_not_isObject other]
    show (if _ then _ else _) = _
    rw [if_neg (by rw [other]; exact Bool.false_ne_true)]

/-- **What becomes of a walk** is decided by where its steps lead. -/
theorem walk_eq_iff {steps : List String} :
    walk path steps value = result ↔ EndsIn path value steps result :=
  ⟨fun h => h ▸ endsIn_walk path steps value, EndsIn.walk_eq⟩

end Walk

/-- A path without brackets is walked. -/
theorem select_eq_walk {path : String} {body : List Char}
    (hbody : IsBody path.toList body) (hplain : IsPlain body) (value : Value) :
    select value path = walk path (steps body) value := by
  unfold select
  rw [Selector.parse_plain hbody hplain]

/-! ## Reading back

A path is a text, and names on the way to a value are joined to it by dots. So a
name with a dot in it could be taken for two, and one with a bracket for an
index; without them the names can be had back from the path. -/

/-- **A name that can be a step of a path**: it is not empty, and has neither dots nor
brackets. -/
structure IsStepName (name : String) : Prop where
  /-- An empty step would not count. -/
  nonempty : name ≠ ""
  /-- A dot would end the step. -/
  undotted : '.' ∉ name.toList
  /-- A bracket has another meaning. -/
  plain : IsPlain name.toList

/-- **A value that stands in nested objects**, at the end of a way of keys. The
names of each object on the way are distinct. That names are distinct is needed,
since of two members of one name only one can be found. -/
inductive Holds : Value → List String → Value → Prop
  /-- The value itself. -/
  | here {value : Value} : Holds value [] value
  /-- What stands in a member of an object. -/
  | under {members : List (String × Value)} {key : String} {child part : Value}
      {keys : List String} (distinct : (members.map Prod.fst).Nodup)
      (mem : (key, child) ∈ members) (further : Holds child keys part) :
      Holds (.object members) (key :: keys) part

/-- The keys on the way to a value lead to it. -/
theorem Holds.leads {value part : Value} {keys : List String}
    (h : Holds value keys part) : Leads value keys part := by
  induction h with
  | here => exact .here
  | under distinct mem _ ih =>
    exact .down (Record.OrderedMap.lookup_of_mem distinct mem) ih

/-- What stands in joined texts is the mark between them or stands in one of them. -/
theorem mem_of_mem_intercalate {mark c : Char} {texts : List (List Char)}
    (h : c ∈ [mark].intercalate texts) : c = mark ∨ ∃ text ∈ texts, c ∈ text := by
  induction texts with
  | nil => cases h
  | cons text rest ih =>
    cases rest with
    | nil =>
      rw [List.intercalate_singleton] at h
      exact .inr ⟨text, List.mem_cons_self, h⟩
    | cons other rest =>
      rw [List.intercalate_cons_cons, List.mem_append, List.mem_append,
        List.mem_singleton] at h
      rcases h with (h | h) | h
      · exact .inr ⟨text, List.mem_cons_self, h⟩
      · exact .inl h
      · exact (ih h).imp_right fun ⟨found, hmem, hc⟩ =>
          ⟨found, List.mem_cons_of_mem _ hmem, hc⟩

section Keys

variable {keys : List String}

/-- Joined names have no brackets. -/
theorem isPlain_intercalate (h : ∀ key ∈ keys, IsStepName key) :
    IsPlain (['.'].intercalate (keys.map String.toList)) := by
  have hnot : ∀ c, c ≠ '.' → (∀ key ∈ keys, c ∉ key.toList) →
      c ∉ ['.'].intercalate (keys.map String.toList) := by
    intro c hdot hkeys hc
    rcases mem_of_mem_intercalate hc with rfl | ⟨text, htext, hc⟩
    · exact hdot rfl
    · obtain ⟨key, hkey, rfl⟩ := List.mem_map.1 htext
      exact hkeys key hkey hc
  exact ⟨hnot '[' (by decide) fun key hkey => (h key hkey).plain.opening,
    hnot ']' (by decide) fun key hkey => (h key hkey).plain.closing⟩

/-- **Joined names are the steps again.** -/
theorem steps_intercalate (h : ∀ key ∈ keys, IsStepName key) :
    steps (['.'].intercalate (keys.map String.toList)) = keys := by
  cases keys with
  | nil => rfl
  | cons first rest =>
    have hsplit : (['.'].intercalate ((first :: rest).map String.toList)).splitOn '.'
        = (first :: rest).map String.toList := by
      refine List.splitOn_intercalate '.' (fun text htext => ?_) (List.cons_ne_nil _ _)
      obtain ⟨key, hkey, rfl⟩ := List.mem_map.1 htext
      exact (h key hkey).undotted
    -- no name is empty, so no step is left out
    have hkept : ((first :: rest).map String.toList).filter (!·.isEmpty)
        = (first :: rest).map String.toList := by
      refine List.filter_eq_self.2 fun text htext => ?_
      obtain ⟨key, hkey, rfl⟩ := List.mem_map.1 htext
      simpa using (h key hkey).nonempty
    unfold steps
    rw [hsplit, hkept, List.map_map]
    exact List.map_id'' (fun _ => String.ofList_toList) _

/-- **What the keys of a value lead to is selected by their path.** -/
theorem select_of_leads {value part : Value} (hleads : Leads value keys part)
    (h : ∀ key ∈ keys, IsStepName key) :
    select value ("$." ++ ".".intercalate keys) = .ok part := by
  have hpath : ("$." ++ ".".intercalate keys).toList
      = '$' :: '.' :: ['.'].intercalate (keys.map String.toList) := by
    rw [String.toList_append, String.toList_intercalate]
    rfl
  have hbody : IsBody ("$." ++ ".".intercalate keys).toList
      (['.'].intercalate (keys.map String.toList)) := by
    rw [hpath]
    exact .dotted _
  rw [select_eq_walk hbody (isPlain_intercalate h), steps_intercalate h]
  exact walk_eq_iff.2 (.reached hleads)

end Keys

/-- **What a plain path selects** of a value is decided by where its steps lead, and
by the name of the first one that does not lead on. Whatever stands in nested
objects is read back by the path of its keys. -/
theorem select_plain_iff (value : Value) :
    (∀ (path : String) (body : List Char), IsBody path.toList body → IsPlain body →
      ∀ result, select value path = result ↔ EndsIn path value (steps body) result) ∧
    ∀ (keys : List String) (part : Value), Holds value keys part →
      (∀ key ∈ keys, IsStepName key) →
      select value ("$." ++ ".".intercalate keys) = .ok part := by
  refine ⟨fun path body hbody hplain result => ?_,
    fun keys part hholds hkeys => select_of_leads hholds.leads hkeys⟩
  rw [select_eq_walk hbody hplain]
  exact walk_eq_iff

/-! ### An order with a coupon

The name of the coupon says that it was used or not. It is there, and so what
stands there counts. -/

/-- What is said of an order: which coupon was used, and how many items it has. -/
def couponOrder : Value :=
  .object [("flags", .object [("couponUsed", .text "SAVE10")]),
    ("items", Value.natural 3)]

/-- The coupon is read back as it is stored. A gift is not used, a note is missing, and
the items have no parts. -/
theorem couponOrder_selects :
    select couponOrder "$.flags.couponUsed" = .ok (.text "SAVE10") ∧
      select couponOrder "$flags..giftUsed" = .ok (.boolean false) ∧
      select couponOrder "flags.note" = .error (.missing "flags.note" "note") ∧
      select couponOrder "$.items.id"
        = .error (.mismatch "$.items.id" "id" .object) := by
  have hflags : Leads couponOrder ["flags"]
      (.object [("couponUsed", .text "SAVE10")]) := .down rfl .here
  have hitems : Leads couponOrder ["items"] (Value.natural 3) := .down rfl .here
  obtain ⟨hplain, hback⟩ := select_plain_iff couponOrder
  refine ⟨hback ["flags", "couponUsed"] (.text "SAVE10") ?_ ?_,
    (hplain "$flags..giftUsed" "flags..giftUsed".toList (.marked (by decide))
      ⟨by decide, by decide⟩ _).2 ?_,
    (hplain "flags.note" "flags.note".toList (.unmarked (by decide))
      ⟨by decide, by decide⟩ _).2 ?_,
    (hplain "$.items.id" "items.id".toList (.dotted _)
      ⟨by decide, by decide⟩ _).2 ?_⟩
  · exact .under (by decide) List.mem_cons_self
      (.under (by decide) List.mem_cons_self .here)
  · simp only [List.forall_mem_cons]
    exact ⟨⟨by decide, by decide, by decide, by decide⟩,
      ⟨by decide, by decide, by decide, by decide⟩, nofun⟩
  · exact .defaulted (show _ = ["flags"] ++ ["giftUsed"] by decide) hflags rfl rfl
      (by decide)
  · exact .missing (show _ = ["flags"] ++ ["note"] by decide) hflags rfl rfl
      (by decide)
  · exact .blocked (show _ = ["items"] ++ ["id"] by decide) hitems rfl

end PolicyGateway.Json
