import PolicyGateway.Text.Pieces
import PolicyGateway.Text.Utf8

/-!
# HTTP headers

Header fields have names that are tokens, whatever their letter case, and
values that are bytes. A value may hold bytes beyond ASCII; it is **text**
only if it holds none and no control other than the tab.

A message may repeat a name. The fields are kept in the order in which they
came, names in lower case, so that the values of a name are a list in their
order. The order of fields of different names means nothing, and what is said of
headers is said of `values`, name by name.
-/

namespace PolicyGateway.Http

/-- The value of a header field. -/
abbrev FieldValue := List UInt8

/-- A character of a token. -/
def isTokenChar (c : Char) : Bool :=
  c.isAlphanum || "!#$%&'*+-.^_`|~".toList.contains c

/-- Whether a text is a token: not empty, and nothing but token
characters. -/
def isToken (s : String) : Bool :=
  !s.isEmpty && s.toList.all isTokenChar

/-- The name of a field in its one spelling, if it is a name. -/
def fieldName? (s : String) : Option String :=
  if isToken s then some (Text.lowercase s) else none

/-- Whether bytes may be the value of a field. -/
def isFieldValue (value : FieldValue) : Bool :=
  value.all fun b => b == 0x09 || (0x20 ≤ b && b ≠ 0x7f)

/-- Whether the value of a field is text. -/
def isText (value : FieldValue) : Bool :=
  value.all fun b => b == 0x09 || (0x20 ≤ b && b < 0x7f)

/-- **The text of a value**, if it is text. -/
def fieldText? (value : FieldValue) : Option String :=
  if isText value then
    some (String.ofList (value.map fun b => Char.ofNat b.toNat))
  else none

/-- **Header fields** in their order, names in lower case. A name may have more
than one value, and the order among them is kept. -/
structure Headers where
  /-- The fields. -/
  fields : List (String × FieldValue) := []
  deriving Repr, DecidableEq, Inhabited

namespace Headers

/-- The fields behind which a valid one is appended; an invalid one is
dropped. -/
def append (headers : Headers) (name : String) (value : FieldValue) :
    Headers :=
  match fieldName? name with
  | some name =>
    if isFieldValue value then ⟨headers.fields ++ [(name, value)]⟩
    else headers
  | none => headers

/-- The headers of these fields, invalid ones dropped. -/
def ofList (fields : List (String × FieldValue)) : Headers :=
  fields.foldl (fun headers (name, value) => headers.append name value) {}

/-- **The values under a name**, in order. -/
def values (headers : Headers) (name : String) : List FieldValue :=
  (headers.fields.filter fun field => field.1 = name).map Prod.snd

/-- The first value under a name. -/
def first? (headers : Headers) (name : String) : Option FieldValue :=
  (headers.values name).head?

/-- The names, each once, in the order of their first field. -/
def names (headers : Headers) : List String :=
  headers.fields.foldl (fun names (name, _) =>
    if names.contains name then names else names ++ [name]) []

/-- The fields whose name satisfies a condition. -/
def keep (headers : Headers) (keeps : String → Bool) : Headers :=
  ⟨headers.fields.filter fun (name, _) => keeps name⟩

/-- The headers without a name. -/
def erase (headers : Headers) (name : String) : Headers :=
  headers.keep fun other => other ≠ name

/-- **The headers with one value under a name.** A value that no field may
have changes nothing. -/
def set (headers : Headers) (name : String) (value : FieldValue) :
    Headers :=
  if isFieldValue value then
    ⟨(headers.erase name).fields ++ [(name, value)]⟩
  else headers

/-- The fields in the order of their names, those of one name in their own
order. -/
def sorted (headers : Headers) : List (String × FieldValue) :=
  headers.fields.mergeSort fun a b => decide (a.1 ≤ b.1)

/-! ## What is kept -/

variable {keeps : String → Bool} {name : String}

theorem values_keep (hname : keeps name = true) (headers : Headers) :
    (headers.keep keeps).values name = headers.values name := by
  unfold keep values
  rw [List.filter_filter]
  refine congrArg (List.map Prod.snd) (List.filter_congr fun field _ => ?_)
  by_cases hf : field.1 = name
  · simp [hf, hname]
  · simp [hf]

theorem first?_keep (hname : keeps name = true) (headers : Headers) :
    (headers.keep keeps).first? name = headers.first? name := by
  unfold first?
  rw [values_keep hname]

/-- What is kept of what is kept. -/
theorem keep_keep {narrow : String → Bool}
    (h : ∀ name, narrow name = true → keeps name = true)
    (headers : Headers) :
    (headers.keep keeps).keep narrow = headers.keep narrow := by
  unfold keep
  rw [List.filter_filter]
  refine congrArg Headers.mk (List.filter_congr fun field _ => ?_)
  by_cases hn : narrow field.1 = true
  · simp [hn, h _ hn]
  · simp [hn]

/-- What is not kept is gone. -/
theorem values_keep_of_not (hname : keeps name = false) (headers : Headers) :
    (headers.keep keeps).values name = [] := by
  unfold keep values
  rw [List.filter_filter, List.map_eq_nil_iff, List.filter_eq_nil_iff]
  intro field _ h
  simp only [Bool.and_eq_true, decide_eq_true_eq] at h
  rw [h.1, hname] at h
  cases h.2

/-- Take a name down, unless it is there. -/
def noting (names : List String) (name : String) : List String :=
  if names.contains name then names else names ++ [name]

theorem names_eq (headers : Headers) :
    headers.names = headers.fields.foldl
      (fun names field => noting names field.1) [] :=
  rfl

/-- What is kept of the names once one more is taken down. -/
theorem filter_noting (names : List String) (name : String) :
    (noting names name).filter keeps
      = if keeps name then noting (names.filter keeps) name
        else names.filter keeps := by
  have hkept : (names.filter keeps).contains name
      = (names.contains name && keeps name) := by
    rw [Bool.eq_iff_iff]
    simp
  unfold noting
  by_cases hk : keeps name = true
  · rw [if_pos hk, hkept, hk, Bool.and_true]
    split
    · rfl
    · rw [List.filter_append, List.filter_cons_of_pos hk]
      rfl
  · rw [if_neg hk]
    split
    · rfl
    · rw [List.filter_append, List.filter_cons_of_neg hk]
      exact List.append_nil _

/-- The names of what is kept are the names that are kept. -/
theorem names_keep (headers : Headers) :
    (headers.keep keeps).names = headers.names.filter keeps := by
  have hfold : ∀ (fields : List (String × FieldValue)) (names : List String),
      (fields.filter fun field => keeps field.1).foldl
          (fun names field => noting names field.1) (names.filter keeps)
        = (fields.foldl (fun names field => noting names field.1)
            names).filter keeps := by
    intro fields
    induction fields with
    | nil => exact fun names => rfl
    | cons field rest ih =>
      intro names
      rw [List.filter_cons, List.foldl_cons, ← ih, filter_noting]
      split <;> rfl
  rw [names_eq, names_eq]
  exact hfold headers.fields []

/-! ## What is set -/

theorem values_append (before behind : List (String × FieldValue)) :
    (Headers.mk (before ++ behind)).values name
      = (Headers.mk before).values name ++ (Headers.mk behind).values name := by
  unfold values
  rw [List.filter_append, List.map_append]

/-- **What is set is the one value** under its name. -/
theorem values_set {value : FieldValue} (hvalue : isFieldValue value = true)
    (headers : Headers) : (headers.set name value).values name = [value] := by
  have hgone : (headers.erase name).values name = [] :=
    values_keep_of_not (by simp) headers
  have hself : (Headers.mk [(name, value)]).values name = [value] := by
    simp [values]
  unfold set
  rw [if_pos hvalue, values_append, hself]
  exact congrArg (· ++ [value]) hgone

/-- Under other names nothing is changed. -/
theorem values_set_of_ne {other : String} (hne : other ≠ name)
    (headers : Headers) (value : FieldValue) :
    (headers.set name value).values other = headers.values other := by
  have hkept : (headers.erase name).values other = headers.values other :=
    values_keep (by simpa using hne) headers
  have hnone : (Headers.mk [(name, value)]).values other = [] := by
    simp [values, hne.symm]
  unfold set
  split
  · rw [values_append, hnone, List.append_nil]
    exact hkept
  · rfl

/-- A field is the one that was set, or it was there. -/
theorem name_eq_or_mem_of_mem_set {value : FieldValue} {headers : Headers}
    {field : String × FieldValue}
    (h : field ∈ (headers.set name value).fields) :
    field.1 = name ∨ field ∈ headers.fields := by
  unfold set at h
  split at h
  · rcases List.mem_append.1 h with hkept | hset
    · exact .inr (List.mem_filter.1 hkept).1
    · exact .inl (by rw [List.mem_singleton.1 hset])
  · exact .inr h

end Headers

end PolicyGateway.Http
