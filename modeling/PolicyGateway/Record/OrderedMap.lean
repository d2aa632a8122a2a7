/-!
# Ordered maps

Rules, headers and body fields are kept under names in the order in which
they were first given. Giving a name again replaces its value and leaves its
place.

The names of a map are distinct, and every map carries the proof. `insert`
says what it does to the names (`names_insert`) and to the values
(`find?_insert`), and what is found under a name is its entry
(`find?_eq_some_iff`). The entries of a map, inserted in order, are the map again
(`ofList_entries`), and the entries under some of the names are the map of
what was inserted under these (`filter_ofList`).
-/

namespace PolicyGateway.Record

/-- **Values under distinct names**, in the order of their first insertion. That
the names are distinct is part of it, so looking one up finds all there is. -/
structure OrderedMap (α : Type) where
  /-- The names with their values. -/
  entries : List (String × α)
  /-- No name occurs twice. -/
  distinct : (entries.map Prod.fst).Nodup

namespace OrderedMap

variable {α β : Type}

/-- The map without entries. -/
def empty : OrderedMap α := ⟨[], List.nodup_nil⟩

instance : Inhabited (OrderedMap α) := ⟨empty⟩

instance [Repr α] : Repr (OrderedMap α) :=
  ⟨fun map n => reprPrec map.entries n⟩

instance [DecidableEq α] : DecidableEq (OrderedMap α) := fun a b =>
  decidable_of_iff (a.entries = b.entries)
    ⟨fun h => by cases a; cases b; cases h; rfl, fun h => by rw [h]⟩

/-- Put a value under a name: in its place if there is one, else last. -/
def put (name : String) (value : α) : List (String × α) → List (String × α)
  | [] => [(name, value)]
  | (other, kept) :: rest =>
    if other = name then (name, value) :: rest
    else (other, kept) :: put name value rest

theorem map_fst_put (name : String) (value : α) (l : List (String × α)) :
    (put name value l).map Prod.fst =
      if name ∈ l.map Prod.fst then l.map Prod.fst
      else l.map Prod.fst ++ [name] := by
  induction l with
  | nil => simp [put]
  | cons p rest ih =>
    obtain ⟨other, kept⟩ := p
    by_cases h : other = name
    · simp [put, h]
    · have h' : name ≠ other := fun e => h e.symm
      simp only [put, h, if_false, List.map_cons, ih, List.mem_cons, h',
        false_or]
      split <;> simp

theorem nodup_put {name : String} {value : α} {l : List (String × α)}
    (h : (l.map Prod.fst).Nodup) :
    ((put name value l).map Prod.fst).Nodup := by
  rw [map_fst_put]
  split
  · exact h
  · next hname =>
    refine List.nodup_append.2 ⟨h, by simp, ?_⟩
    intro a ha b hb
    rw [List.mem_singleton.1 hb]
    exact fun e => hname (e ▸ ha)

/-- **Insert a value under a name.** -/
def insert (map : OrderedMap α) (name : String) (value : α) :
    OrderedMap α :=
  ⟨put name value map.entries, nodup_put map.distinct⟩

/-- The map of these entries, inserted in order. -/
def ofList (entries : List (String × α)) : OrderedMap α :=
  entries.foldl (fun map (name, value) => map.insert name value) empty

/-- The names of a map, in order. -/
def names (map : OrderedMap α) : List String :=
  map.entries.map Prod.fst

/-- The value under a name. -/
def find? (map : OrderedMap α) (name : String) : Option α :=
  map.entries.lookup name

theorem names_insert (map : OrderedMap α) (name : String) (value : α) :
    (map.insert name value).names =
      if name ∈ map.names then map.names else map.names ++ [name] :=
  map_fst_put name value map.entries

theorem lookup_put (name other : String) (value : α)
    (l : List (String × α)) :
    (put name value l).lookup other =
      if other = name then some value else l.lookup other := by
  induction l with
  | nil =>
    simp only [put, List.lookup_cons, List.lookup_nil]
    by_cases h : other = name
    · simp [h]
    · have hne : (other == name) = false := by simpa using h
      simp [h, hne]
  | cons p rest ih =>
    obtain ⟨key, kept⟩ := p
    unfold put
    split
    · next hk =>
      subst hk
      simp only [List.lookup_cons]
      by_cases h : other = key
      · simp [h]
      · have hne : (other == key) = false := by simpa using h
        simp [h, hne]
    · next hk =>
      simp only [List.lookup_cons, ih]
      by_cases h : other = name
      · subst h
        have hk' : (other == key) = false := by simpa using fun e => hk e.symm
        simp [hk']
      · simp [h]

theorem find?_insert (map : OrderedMap α) (name other : String)
    (value : α) :
    (map.insert name value).find? other =
      if other = name then some value else map.find? other :=
  lookup_put name other value map.entries

/-- Under distinct names every entry is looked up. -/
theorem lookup_of_mem {name : String} {value : α} {entries : List (String × α)}
    (hdistinct : (entries.map Prod.fst).Nodup) (hmem : (name, value) ∈ entries) :
    entries.lookup name = some value := by
  induction entries with
  | nil => cases hmem
  | cons entry rest ih =>
    obtain ⟨other, kept⟩ := entry
    rw [List.map_cons, List.nodup_cons] at hdistinct
    rw [List.lookup_cons]
    rcases List.mem_cons.1 hmem with heq | hmem
    · cases heq
      rw [beq_self_eq_true]
    · have hne : (name == other) = false :=
        beq_eq_false_iff_ne.2 fun he =>
          hdistinct.1 (List.mem_map.2 ⟨_, hmem, he⟩)
      rw [hne]
      exact ih hdistinct.2 hmem

theorem find?_eq_some_iff {map : OrderedMap α} {name : String} {value : α} :
    map.find? name = some value ↔ (name, value) ∈ map.entries := by
  refine ⟨fun h => ?_, lookup_of_mem map.distinct⟩
  obtain ⟨before, after, hentries, -⟩ := List.lookup_eq_some_iff.1 h
  rw [hentries]
  exact List.mem_append_right _ List.mem_cons_self

theorem find?_eq_none_iff {map : OrderedMap α} {name : String} :
    map.find? name = none ↔ ∀ entry ∈ map.entries, entry.1 ≠ name := by
  unfold find?
  rw [List.lookup_eq_none_iff]
  refine forall₂_congr fun entry _ => ?_
  rw [bne_iff_ne]
  exact ne_comm

/-! ## The entries of a map -/

@[ext] theorem ext {a b : OrderedMap α} (h : a.entries = b.entries) :
    a = b := by
  cases a
  cases b
  cases h
  rfl

/-- A new name comes last. -/
theorem put_of_notMem {name : String} (value : α) {l : List (String × α)}
    (h : name ∉ l.map Prod.fst) : put name value l = l ++ [(name, value)] := by
  induction l with
  | nil => rfl
  | cons entry rest ih =>
    obtain ⟨other, kept⟩ := entry
    rw [List.map_cons, List.mem_cons, not_or] at h
    unfold put
    rw [if_neg (Ne.symm h.1), ih h.2]
    rfl

/-- **A map is what its entries make**, inserted in order. -/
theorem ofList_entries (map : OrderedMap α) : ofList map.entries = map := by
  have hfold : ∀ (later : List (String × α)) (front : OrderedMap α),
      ((front.entries ++ later).map Prod.fst).Nodup →
      (later.foldl (fun map entry => map.insert entry.1 entry.2)
        front).entries = front.entries ++ later := by
    intro later
    induction later with
    | nil => exact fun front _ => (List.append_nil _).symm
    | cons entry rest ih =>
      intro front hdistinct
      have hnew : entry.1 ∉ front.entries.map Prod.fst := by
        rw [List.map_append, List.map_cons] at hdistinct
        exact fun hmem => (List.nodup_append.1 hdistinct).2.2 _ hmem _
          List.mem_cons_self rfl
      have hinsert : (front.insert entry.1 entry.2).entries
          = front.entries ++ [entry] := put_of_notMem entry.2 hnew
      rw [List.foldl_cons, ih, hinsert, List.append_assoc]
      · rfl
      · rw [hinsert, List.append_assoc]
        exact hdistinct
  exact ext (hfold map.entries empty map.distinct)

/-! ## The entries under some names -/

variable {keeps : String → Bool}

/-- A name that is kept is looked up as well among the entries that are
kept. -/
theorem lookup_filter {name : String}
    (hname : keeps name = true) (entries : List (String × α)) :
    (entries.filter fun entry => keeps entry.1).lookup name
      = entries.lookup name := by
  induction entries with
  | nil => rfl
  | cons entry rest ih =>
    obtain ⟨other, value⟩ := entry
    rw [List.filter_cons]
    by_cases hother : keeps other = true
    · rw [if_pos hother, List.lookup_cons, List.lookup_cons, ih]
    · have hne : (name == other) = false :=
        beq_eq_false_iff_ne.2 fun he => hother (he ▸ hname)
      rw [if_neg hother, List.lookup_cons, hne, ih]

theorem put_cons (name other : String) (value kept : α)
    (rest : List (String × α)) :
    put name value ((other, kept) :: rest)
      = if other = name then (name, value) :: rest
        else (other, kept) :: put name value rest :=
  rfl

/-- What is kept of entries once one more is put in. -/
theorem filter_put (name : String) (value : α)
    (entries : List (String × α)) :
    (put name value entries).filter (fun entry => keeps entry.1)
      = if keeps name then
          put name value (entries.filter fun entry => keeps entry.1)
        else entries.filter fun entry => keeps entry.1 := by
  induction entries with
  | nil =>
    unfold put
    rw [List.filter_cons]
    split <;> rfl
  | cons entry rest ih =>
    obtain ⟨other, kept⟩ := entry
    rw [put_cons]
    by_cases hother : other = name
    · subst hother
      rw [if_pos rfl, List.filter_cons, List.filter_cons]
      split
      · rw [put_cons, if_pos rfl]
      · rfl
    · rw [if_neg hother, List.filter_cons, ih, List.filter_cons]
      by_cases hk : keeps name = true
      · rw [if_pos hk, if_pos hk]
        split
        · rw [put_cons, if_neg hother]
        · rfl
      · rw [if_neg hk, if_neg hk]

/-- **The entries that are kept** of a map are the map of those. -/
theorem filter_ofList (entries : List (String × α)) :
    (ofList entries).entries.filter (fun entry => keeps entry.1)
      = (ofList (entries.filter fun entry => keeps entry.1)).entries := by
  have hfold : ∀ (later : List (String × α)) (map kept : OrderedMap α),
      map.entries.filter (fun entry => keeps entry.1) = kept.entries →
      (later.foldl (fun map entry => map.insert entry.1 entry.2)
          map).entries.filter (fun entry => keeps entry.1)
        = ((later.filter fun entry => keeps entry.1).foldl
            (fun map entry => map.insert entry.1 entry.2) kept).entries := by
    intro later
    induction later with
    | nil => exact fun map kept h => h
    | cons entry rest ih =>
      intro map kept h
      rw [List.foldl_cons, List.filter_cons]
      have hput : (map.insert entry.1 entry.2).entries.filter
          (fun entry => keeps entry.1) = _ := filter_put ..
      split
      · next hk =>
        rw [if_pos hk, h] at hput
        exact ih _ _ hput
      · next hk =>
        rw [if_neg hk, h] at hput
        exact ih _ _ hput
  exact hfold entries empty empty rfl

end OrderedMap

end PolicyGateway.Record
