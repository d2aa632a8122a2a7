import Mathlib.Data.List.Count
import Mathlib.Data.List.Nodup
import PolicyGateway.Proofs.Evidence
import PolicyGateway.Proofs.JsonGrammar

/-!
# How answers are read

A policy server need not know the gateway it answers. It may send fields that mean
nothing here, and may send null where it has nothing to say. Neither changes what is
read. But what is said about a known field has to be said clearly: once, and by a
value of its type. And nothing may come behind the answer.

All this is said of texts (`ReadsRobustly`), since a text has more than one way to say
the same: a name may be escaped, and blanks stand wherever they like. So a text is
taken apart by the grammar of JSON, and what its members say decides. What a reader of
answers has to do for it is little (`Decodes`): it asks for its declared fields, each
with its type, and looks at nothing else.

**Why null and a wrong type are told apart.** A server that is written in
another language often writes null for what it does not set, and that is no more
than silence. A text where a flag is expected is different: it may well have
been meant, and nobody can say as what. To guess would be to decide about a
request on a guess.

**Why the whole text counts.** If a second value could follow the first, two
readers of the same bytes could come to two verdicts. The same goes for a name
that is given twice, of which one reader takes the first and another one the
last.
-/

namespace PolicyGateway

open PolicyGateway.Json PolicyGateway.Record

/-! ## Fields and what they say

An object comes as a list of members, and a record keeps those that it knows.
What a field says is looked up by name, so the order of the members does not
count and neither do the members in between. This part is about that lookup,
under one more member. -/

namespace Record.Fields

variable {names : List String} {members front behind : List (String × Node)}
  {fields fields' : Fields} {name : String} {node : Node}

theorem areDistinct_iff_nodup {names : List String} :
    areDistinct names = true ↔ names.Nodup := by
  induction names with
  | nil => simp [areDistinct]
  | cons name rest ih => simp [areDistinct, ih]

/-- The members that are fields. Unknown names may repeat; nobody looks at them.
-/
def known (names : List String) (members : List (String × Node)) :
    List (String × Node) :=
  members.filter fun member => names.contains member.1

/-- **Members have fields** if no known name is given twice. -/
theorem ofMembers?_eq_some_iff :
    ofMembers? names members = some fields ↔
      ((known names members).map Prod.fst).Nodup ∧
        fields = ⟨known names members⟩ := by
  have hof : ofMembers? names members
      = if areDistinct ((known names members).map Prod.fst)
        then some ⟨known names members⟩ else none := rfl
  rw [hof, ← areDistinct_iff_nodup]
  split
  · next h => simp [h, eq_comm]
  · next h => simp [h]

/-- A member of a known name is what its field says. -/
theorem lookup_of_ofMembers? (h : ofMembers? names members = some fields)
    (hmember : (name, node) ∈ members) (hname : name ∈ names) :
    fields.given.lookup name = some node := by
  obtain ⟨hdistinct, rfl⟩ := ofMembers?_eq_some_iff.1 h
  exact OrderedMap.lookup_of_mem hdistinct
    (List.mem_filter.2 ⟨hmember, List.contains_iff_mem.2 hname⟩)

/-- A known name is given once. -/
theorem count_le_one_of_ofMembers? (h : ofMembers? names members = some fields)
    (hname : name ∈ names) : (members.map Prod.fst).count name ≤ 1 := by
  obtain ⟨hdistinct, -⟩ := ofMembers?_eq_some_iff.1 h
  have hknown : (known names members).map Prod.fst
      = (members.map Prod.fst).filter names.contains := by
    unfold known
    rw [List.filter_map]
    rfl
  rw [hknown] at hdistinct
  rw [← List.count_filter (List.contains_iff_mem.2 hname)]
  exact List.nodup_iff_count_le_one.1 hdistinct name

/-- **The same is said**: under each name there is the same node, or there is
null where there was nothing. It is not symmetric: a null may have been added,
and none taken away. -/
def SaysTheSame (fields fields' : Fields) : Prop :=
  ∀ name, fields'.given.lookup name = fields.given.lookup name ∨
    fields.given.lookup name = none ∧ fields'.given.lookup name = some .null

/-- A further member is not found under other names. -/
theorem lookup_append_cons_of_ne {other : String} (h : other ≠ name) :
    (front ++ (name, node) :: behind).lookup other
      = (front ++ behind).lookup other := by
  rw [List.lookup_append, List.lookup_append, List.lookup_cons,
    beq_eq_false_iff_ne.2 h]

/-- Under a new name the further member is found, where there was none. -/
theorem lookup_append_cons_self
    (h : ∀ member ∈ front ++ behind, member.1 ≠ name) :
    (front ++ behind).lookup name = none ∧
      (front ++ (name, node) :: behind).lookup name = some node := by
  have hnone : ∀ {part : List (String × Node)},
      (∀ member ∈ part, member ∈ front ++ behind) → part.lookup name = none :=
    fun hpart => List.lookup_eq_none_iff.2 fun member hmember =>
      bne_iff_ne.2 (h member (hpart member hmember)).symm
  refine ⟨hnone fun _ => id, ?_⟩
  rw [List.lookup_append, hnone fun _ => List.mem_append_left _,
    List.lookup_cons_self]
  rfl

/-- **A further member says nothing** if its name is unknown, or if it is null
under a name that no other member has. The place does not count. Where a name is
given twice, the record is refused as a whole, so the first part cannot be about
a name that is known already. -/
theorem exists_same_of_insert
    (h : ofMembers? names (front ++ behind) = some fields)
    (hnew : name ∉ names ∨
      node = .null ∧ ∀ member ∈ front ++ behind, member.1 ≠ name) :
    ∃ fields', ofMembers? names (front ++ (name, node) :: behind) = some fields' ∧
      SaysTheSame fields fields' := by
  obtain ⟨hdistinct, rfl⟩ := ofMembers?_eq_some_iff.1 h
  have hsplit : ∀ members, known names (front ++ members)
      = known names front ++ known names members := fun _ => List.filter_append ..
  -- a known name is one more field, an unknown one is none
  by_cases hname : name ∈ names
  · obtain ⟨rfl, habsent⟩ := hnew.resolve_left (not_not.2 hname)
    have hknown : known names (front ++ (name, .null) :: behind)
        = known names front ++ (name, .null) :: known names behind := by
      rw [hsplit]
      exact congrArg _ (List.filter_cons_of_pos (List.contains_iff_mem.2 hname))
    have hunknown : ∀ member ∈ known names front ++ known names behind,
        member.1 ≠ name := fun member hmember =>
      habsent member (List.mem_filter.1 (hsplit behind ▸ hmember)).1
    refine ⟨_, ofMembers?_eq_some_iff.2 ⟨?_, rfl⟩, fun other => ?_⟩
    · rw [hsplit, List.map_append] at hdistinct
      rw [hknown, List.map_append, List.map_cons, List.nodup_middle,
        List.nodup_cons, ← List.map_append]
      refine ⟨fun hmem => ?_, by rwa [List.map_append]⟩
      obtain ⟨member, hmember, heq⟩ := List.mem_map.1 hmem
      exact hunknown member hmember heq
    · rw [hknown, hsplit]
      by_cases hother : other = name
      · rw [hother]
        exact .inr (lookup_append_cons_self hunknown)
      · exact .inl (lookup_append_cons_of_ne hother)
  · have hknown : known names (front ++ (name, node) :: behind)
        = known names (front ++ behind) := by
      rw [hsplit, hsplit]
      exact congrArg _ (List.filter_cons_of_neg (by simpa using hname))
    exact ⟨_, ofMembers?_eq_some_iff.2 ⟨by rwa [hknown], rfl⟩,
      fun _ => .inl (by rw [hknown])⟩

end Record.Fields

namespace Policy

/-! ## What a reader of answers does

Both dialects have a reader of their own, with fields of their own. What they
have in common is said by `Decodes`, and proved of each of them once; everything
about texts then follows for both. -/

/-- **The types of the fields** of an answer. -/
inductive FieldType where
  /-- A truth value. -/
  | flag
  /-- A text. -/
  | text
  deriving DecidableEq, Repr

/-- **A node is a value of a type.** A number is of neither type, and neither is
an object. -/
def FieldType.Holds : FieldType → Node → Prop
  | flag, node => ∃ b, node = .boolean b
  | text, node => ∃ s, node = .text s

/-- The fields of an answer in the decision dialect. Their order is that of the
values where an answer comes as a sequence. -/
def DecisionAnswer.declared : List (String × FieldType) :=
  [("allow", .flag), ("reason", .text), ("permit", .text), ("deny", .text)]

/-- The fields of an answer of allow and reason. -/
def ValidationAnswer.declared : List (String × FieldType) :=
  [("allow", .flag), ("reason", .text)]

/-- **A field is of a type** if it says null or a value of it, or nothing. This
is what is read off a text that was read, so null counts as any type. -/
def IsOfType (fields : Fields) (field : String × FieldType) : Prop :=
  ∀ node, fields.given.lookup field.1 = some node →
    node = .null ∨ field.2.Holds node

section AnswerField

variable {α : Type} {fields fields' : Fields} {name : String}
  {read : Node → Option α} {absent value : α}

/-- **Null is read like nothing.** -/
theorem answerField?_congr (h : fields.SaysTheSame fields') :
    answerField? fields' name read absent = answerField? fields name read absent := by
  unfold answerField? Fields.get?
  rcases h name with hsame | ⟨hnone, hnull⟩
  · rw [hsame]
  · rw [hnone, hnull]
    rfl

/-- What is read of a field is a value that it says, unless it says null or
nothing. -/
theorem exists_read_of_answerField?
    (h : answerField? fields name read absent = some value) :
    ∀ node, fields.given.lookup name = some node →
      node = .null ∨ ∃ value, read node = some value := by
  intro node hnode
  unfold answerField? Fields.get? at h
  rw [hnode] at h
  cases node with
  | null => exact .inl rfl
  | _ =>
    obtain ⟨_, hread, -⟩ := Option.map_eq_some_iff.1 h
    obtain ⟨value, hvalue, -⟩ := Option.map_eq_some_iff.1 hread
    exact .inr ⟨value, hvalue⟩

theorem isOfType_flag {absent value : Bool}
    (h : answerField? fields name Node.asBoolean? absent = some value) :
    IsOfType fields (name, .flag) := by
  intro node hnode
  refine (exists_read_of_answerField? h node hnode).imp_right ?_
  rintro ⟨b, hb⟩
  cases node with
  | boolean b => exact ⟨b, rfl⟩
  | _ => cases hb

theorem isOfType_text {absent value : String}
    (h : answerField? fields name Node.asText? absent = some value) :
    IsOfType fields (name, .text) := by
  intro node hnode
  refine (exists_read_of_answerField? h node hnode).imp_right ?_
  rintro ⟨s, hs⟩
  cases node with
  | text s => exact ⟨s, rfl⟩
  | _ => cases hs

end AnswerField

/-- **A reader decodes its declared fields** and nothing else. The two parts are
what is read and what it may depend on. A reader that looked at an unknown
field, or at the order of the members, would not have the second one. -/
structure Decodes {α : Type} (declared : List (String × FieldType))
    (read : Node → Option α) : Prop where
  /-- What is read has these fields, each of its type. -/
  typed : ∀ {node answer}, read node = some answer →
    ∃ fields, Fields.ofNode? .json (declared.map Prod.fst) node = some fields ∧
      ∀ field ∈ declared, IsOfType fields field
  /-- Where the fields say the same, the same is read. -/
  congr : ∀ {node node' fields fields'},
    Fields.ofNode? .json (declared.map Prod.fst) node = some fields →
    Fields.ofNode? .json (declared.map Prod.fst) node' = some fields' →
    fields.SaysTheSame fields' → read node' = read node

theorem DecisionAnswer.decodes : Decodes declared ofNode? where
  typed := by
    intro node answer h
    obtain ⟨fields, hfields, h⟩ := Option.bind_eq_some_iff.1 h
    obtain ⟨allow, hallow, h⟩ := Option.bind_eq_some_iff.1 h
    obtain ⟨reason, hreason, h⟩ := Option.bind_eq_some_iff.1 h
    obtain ⟨permit, hpermit, h⟩ := Option.bind_eq_some_iff.1 h
    obtain ⟨deny, hdeny, -⟩ := Option.bind_eq_some_iff.1 h
    refine ⟨fields, hfields, ?_⟩
    unfold declared
    simp only [List.forall_mem_cons]
    exact ⟨isOfType_flag hallow, isOfType_text hreason, isOfType_text hpermit,
      isOfType_text hdeny, nofun⟩
  congr := by
    intro node node' fields fields' hfields hfields' hsame
    unfold ofNode?
    rw [show Fields.ofNode? .json ["allow", "reason", "permit", "deny"] node
        = some fields from hfields,
      show Fields.ofNode? .json ["allow", "reason", "permit", "deny"] node'
        = some fields' from hfields']
    simp only [Option.bind_eq_bind, Option.bind_some, answerField?_congr hsame]

theorem ValidationAnswer.decodes : Decodes declared ofNode? where
  typed := by
    intro node answer h
    obtain ⟨fields, hfields, h⟩ := Option.bind_eq_some_iff.1 h
    obtain ⟨allow, hallow, h⟩ := Option.bind_eq_some_iff.1 h
    obtain ⟨reason, hreason, -⟩ := Option.bind_eq_some_iff.1 h
    refine ⟨fields, hfields, ?_⟩
    unfold declared
    simp only [List.forall_mem_cons]
    exact ⟨isOfType_flag hallow, isOfType_text hreason, nofun⟩
  congr := by
    intro node node' fields fields' hfields hfields' hsame
    unfold ofNode?
    rw [show Fields.ofNode? .json ["allow", "reason"] node = some fields
        from hfields,
      show Fields.ofNode? .json ["allow", "reason"] node' = some fields'
        from hfields']
    simp only [Option.bind_eq_bind, Option.bind_some, answerField?_congr hsame]

/-! ## What becomes of a text

A member is put into a text, and not into a list of members: its name may be
written with escapes, its value with blanks around it, and it stands between two
others with a comma on either side. `WrittenObject` keeps all of this, so that
two texts can differ in one member and agree in every other character. -/

/-- **A further member says nothing** to a reader of these fields: it is null
under a declared name that no other member has, or its name is not declared. The
name is what the written one stands for, however it is written. Else a known
name could be hidden in an escape. -/
def SaysNothing (declared : List (String × FieldType)) (object : WrittenObject)
    (member : WrittenMember) : Prop :=
  (∃ field ∈ declared, member.said = (some field.1, .null) ∧
    ∀ other ∈ object.members, other.said.1 ≠ some field.1) ∨
  ∃ name node, (∀ field ∈ declared, field.1 ≠ name) ∧
    member.said = (some name, node)

theorem SaysNothing.exists_said {declared : List (String × FieldType)}
    {object : WrittenObject} {member : WrittenMember}
    (h : SaysNothing declared object member) :
    ∃ name node, member.said = (some name, node) ∧
      (name ∉ declared.map Prod.fst ∨
        node = .null ∧ ∀ other ∈ object.members, other.said.1 ≠ some name) := by
  rcases h with ⟨field, -, hsaid, habsent⟩ | ⟨name, node, hunknown, hsaid⟩
  · exact ⟨field.1, .null, hsaid, .inr ⟨rfl, habsent⟩⟩
  · refine ⟨name, node, hsaid, .inl fun hname => ?_⟩
    obtain ⟨field, hfield, heq⟩ := List.mem_map.1 hname
    exact hunknown field hfield heq

/-- **Answers are read robustly**, and the checks that ask for them heed it.

The first five parts are about the reader, and the last two about the check that
asks by it. Every part but the first is about a change that a text may undergo
on its way, or a fault that it may have. -/
structure ReadsRobustly {α : Type} (declared : List (String × FieldType))
    (read : List UInt8 → Option α) (verdict : α → Verdict)
    (check : Server → Http.Network → Value → Outcome Verdict) : Prop where
  /-- Only an object is read, or a sequence of no more values than there are
  fields. -/
  shape : ∀ {bs : List UInt8} {answer : α}, read bs = some answer →
    (∃ object : WrittenObject, object.IsWritten ∧
      Text.Utf8.cells bs = object.cells) ∨
    ∃ items, items.length ≤ declared.length ∧
      IsDocument (.sequence items) (Text.Utf8.cells bs)
  /-- What a further member says nothing about stays as it is, wherever the member
  is put. -/
  inserted : ∀ {object : WrittenObject} {front behind : List WrittenMember}
    {member : WrittenMember} {bs bs' : List UInt8} {answer : α},
    object.IsWritten → object.members = front ++ behind → member.IsWritten →
    SaysNothing declared object member → Text.Utf8.cells bs = object.cells →
    Text.Utf8.cells bs'
      = { object with members := front ++ member :: behind }.cells →
    read bs = some answer → read bs' = some answer
  /-- A declared field with a value of another type spoils the answer, unless the
  value is null. -/
  typed : ∀ {object : WrittenObject} {member : WrittenMember} {name : String}
    {type : FieldType} {node : Node} {bs : List UInt8},
    object.IsWritten → Text.Utf8.cells bs = object.cells →
    member ∈ object.members → (name, type) ∈ declared →
    member.said = (some name, node) → node ≠ .null → ¬ type.Holds node →
    read bs = none
  /-- So does a declared field that is given twice. -/
  single : ∀ {object : WrittenObject} {name : String} {type : FieldType}
    {bs : List UInt8}, object.IsWritten → Text.Utf8.cells bs = object.cells →
    (name, type) ∈ declared →
    2 ≤ (object.said.map Prod.fst).count (some name) → read bs = none
  /-- And so does whatever follows the value and is not blank. -/
  alone : ∀ {before text rest : List Text.Utf8.Cell} {node : Node}
    {bs : List UInt8}, AreGaps before → Spells greatestDepth node text →
    ¬ AreGaps rest → Text.Utf8.cells bs = before ++ (text ++ rest) →
    read bs = none
  /-- An answer that is read decides by its verdict. -/
  decides : ∀ {bs : List UInt8} {answer : α}, read bs = some answer →
    ∀ {server : Server} {network : Http.Network} {question : Value},
    server.Answers network question bs →
    (check server network question).result = .ok (verdict answer)
  /-- An answer that is not read is a failure, and allows nothing. -/
  fails : ∀ {bs : List UInt8}, read bs = none →
    ∀ {server : Server} {network : Http.Network} {question : Value}
      {response : Http.Response},
    (server.exchange network question).response = some response →
    response.body.bytes = bs →
    ∃ failure, (check server network question).result = .error failure

section Decoder

variable {α : Type} {declared : List (String × FieldType)}
  {decode : Node → Option α}

/-- **What is read stays the same** if a member is put in that says nothing. -/
theorem Decodes.read_insert (h : Decodes declared decode)
    {front behind : List (String × Node)} {name : String} {node : Node} {answer : α}
    (hnew : name ∉ declared.map Prod.fst ∨
      node = .null ∧ ∀ member ∈ front ++ behind, member.1 ≠ name)
    (hread : decode (.mapping (front ++ behind)) = some answer) :
    decode (.mapping (front ++ (name, node) :: behind)) = some answer := by
  obtain ⟨fields, hfields, -⟩ := h.typed hread
  obtain ⟨fields', hfields', hsame⟩ := Fields.exists_same_of_insert hfields hnew
  rw [← hread]
  exact h.congr hfields hfields' hsame

/-- What is read of an object has fields among what its members say. From here
on the text is out of the way: what was read is a list of members, with names
that are texts and not only written ones. -/
theorem Decodes.exists_fields (h : Decodes declared decode)
    {object : WrittenObject} (hwritten : object.IsWritten) {bs : List UInt8}
    (hcells : Text.Utf8.cells bs = object.cells) {answer : α}
    (hread : (readBytes? bs).bind decode = some answer) :
    ∃ members fields,
      object.said = members.map (fun member => (some member.1, member.2)) ∧
      decode (.mapping members) = some answer ∧
      Fields.ofMembers? (declared.map Prod.fst) members = some fields ∧
      ∀ field ∈ declared, IsOfType fields field := by
  have hnode : readBytes? bs = some (membersNode object.said) := by
    unfold readBytes?
    rw [hcells, WrittenObject.read?_cells hwritten]
  rw [hnode, Option.bind_some] at hread
  obtain ⟨fields, hfields, htyped⟩ := h.typed hread
  rcases membersNode_cases object.said with hnone | ⟨members, hsaid⟩
  · rw [hnone] at hfields
    cases hfields
  · rw [hsaid] at hread hfields
    exact ⟨members, fields, membersNode_eq_mapping_iff.1 hsaid, hread, hfields,
      htyped⟩

/-- The bytes of an object are read as what its members say. -/
theorem readBytes?_of_cells {object : WrittenObject} (h : object.IsWritten)
    {bs : List UInt8} (hcells : Text.Utf8.cells bs = object.cells)
    {members : List (String × Node)}
    (hsaid : object.said = members.map fun member => (some member.1, member.2)) :
    readBytes? bs = some (.mapping members) := by
  unfold readBytes?
  rw [hcells, WrittenObject.read?_cells h, membersNode_eq_mapping_iff.2 hsaid]

/-- **Only an object is read**, or a sequence of no more values than there are
fields. -/
theorem Decodes.exists_shape (h : Decodes declared decode) {bs : List UInt8}
    {answer : α} (hread : (readBytes? bs).bind decode = some answer) :
    (∃ object : WrittenObject, object.IsWritten ∧
        Text.Utf8.cells bs = object.cells) ∨
      ∃ items, items.length ≤ declared.length ∧
        IsDocument (.sequence items) (Text.Utf8.cells bs) := by
  obtain ⟨node, hnode, hdecode⟩ := Option.bind_eq_some_iff.1 hread
  obtain ⟨fields, hfields, -⟩ := h.typed hdecode
  cases node with
  | mapping members =>
    obtain ⟨object, hwritten, hcells, -⟩ := exists_object_of_read? hnode
    exact .inl ⟨object, hwritten, hcells⟩
  | sequence items =>
    refine .inr ⟨items, ?_, read?_eq_some_iff.1 hnode⟩
    unfold Fields.ofNode? at hfields
    dsimp only at hfields
    split at hfields
    · next hshort =>
      rw [List.length_map] at hshort
      exact hshort.resolve_right nofun
    · cases hfields
  | _ => cases hfields

/-- **A text stays the answer that it is** if a member is put in that says
nothing, wherever in the text that is. -/
theorem Decodes.read_inserted (h : Decodes declared decode)
    {object : WrittenObject} {front behind : List WrittenMember}
    {member : WrittenMember} {bs bs' : List UInt8} {answer : α}
    (hwritten : object.IsWritten) (hmembers : object.members = front ++ behind)
    (hmember : member.IsWritten) (hnothing : SaysNothing declared object member)
    (hcells : Text.Utf8.cells bs = object.cells)
    (hcells' : Text.Utf8.cells bs'
      = { object with members := front ++ member :: behind }.cells)
    (hread : (readBytes? bs).bind decode = some answer) :
    (readBytes? bs').bind decode = some answer := by
  obtain ⟨members, -, hsaid, hdecode, -, -⟩ :=
    h.exists_fields hwritten hcells hread
  obtain ⟨name, node, hnew, hsilent⟩ := hnothing.exists_said
  -- what the members say is parted where the members are
  unfold WrittenObject.said at hsaid
  rw [hmembers, List.map_append] at hsaid
  obtain ⟨saidFront, saidBehind, rfl, hfront, hbehind⟩ :=
    List.map_eq_append_iff.1 hsaid.symm
  have hread' : readBytes? bs'
      = some (.mapping (saidFront ++ (name, node) :: saidBehind)) :=
    readBytes?_of_cells (hwritten.insert hmembers hmember) hcells' (by
      unfold WrittenObject.said
      simp only [List.map_append, List.map_cons, hfront, hbehind, hnew])
  rw [hread', Option.bind_some]
  refine h.read_insert (hsilent.imp_right (And.imp_right ?_)) hdecode
  intro habsent other hother heq
  rw [hmembers] at habsent
  obtain ⟨written, hin, htold⟩ := List.mem_map.1
    (List.map_append ▸ hsaid ▸ List.mem_map_of_mem hother)
  exact habsent written hin (by rw [htold, heq])

section Spoiled

variable {object : WrittenObject} {name : String} {type : FieldType}
  {bs : List UInt8}

/-- **A value of another type spoils the answer**, if it is under a declared name
and is not null. -/
theorem Decodes.read_untyped (h : Decodes declared decode)
    {member : WrittenMember} {node : Node} (hwritten : object.IsWritten)
    (hcells : Text.Utf8.cells bs = object.cells)
    (hmember : member ∈ object.members) (hdeclared : (name, type) ∈ declared)
    (htold : member.said = (some name, node)) (hnull : node ≠ .null)
    (hother : ¬ type.Holds node) : (readBytes? bs).bind decode = none := by
  by_contra hread
  obtain ⟨answer, hread⟩ := Option.ne_none_iff_exists'.1 hread
  obtain ⟨members, fields, hsaid, -, hfields, htyped⟩ :=
    h.exists_fields hwritten hcells hread
  have hin : (some name, node) ∈ members.map
      (fun member => (some member.1, member.2)) :=
    hsaid ▸ htold ▸ List.mem_map_of_mem hmember
  obtain ⟨⟨_, _⟩, hmem, ⟨⟩⟩ := List.mem_map.1 hin
  have hlookup := Fields.lookup_of_ofMembers? hfields hmem
    (List.mem_map_of_mem hdeclared)
  exact (htyped _ hdeclared _ hlookup).elim hnull hother

/-- **A declared name that is given twice** spoils the answer, even if both say
the same. -/
theorem Decodes.read_twice (h : Decodes declared decode)
    (hwritten : object.IsWritten) (hcells : Text.Utf8.cells bs = object.cells)
    (hdeclared : (name, type) ∈ declared)
    (hcount : 2 ≤ (object.said.map Prod.fst).count (some name)) :
    (readBytes? bs).bind decode = none := by
  by_contra hread
  obtain ⟨answer, hread⟩ := Option.ne_none_iff_exists'.1 hread
  obtain ⟨members, fields, hsaid, -, hfields, -⟩ :=
    h.exists_fields hwritten hcells hread
  have honce := Fields.count_le_one_of_ofMembers? hfields
    (List.mem_map_of_mem hdeclared)
  have hsame : object.said.map Prod.fst = (members.map Prod.fst).map some := by
    rw [hsaid, List.map_map, List.map_map]
    rfl
  rw [hsame, List.count_map_of_injective _ _ fun _ _ => Option.some.inj] at hcount
  exact Nat.not_lt.2 honce hcount

end Spoiled

/-- **What follows a value and is not blank** spoils the answer. Where the value is
a numeral it might be read as part of it, but then there is a numeral, and no
answer is one. -/
theorem Decodes.read_trailing (h : Decodes declared decode)
    {before text rest : List Text.Utf8.Cell} {node : Node} {bs : List UInt8}
    (hbefore : AreGaps before) (htext : Spells greatestDepth node text)
    (hrest : ¬ AreGaps rest)
    (hcells : Text.Utf8.cells bs = before ++ (text ++ rest)) :
    (readBytes? bs).bind decode = none := by
  by_contra hread
  obtain ⟨answer, hread⟩ := Option.ne_none_iff_exists'.1 hread
  obtain ⟨other, hother, hdecode⟩ := Option.bind_eq_some_iff.1 hread
  unfold readBytes? at hother
  rw [hcells] at hother
  obtain ⟨n, rfl⟩ := exists_numeral_of_trailing hbefore htext hrest hother
  obtain ⟨fields, hfields, -⟩ := h.typed hdecode
  unfold numeralNode at hfields
  split at hfields <;> cases hfields

/-- **What is not read is a failure**, of whoever asked. It may fail for an
earlier reason, its status or its length; in no case is there an answer. -/
theorem Server.exists_failure_of_unread {β : Type} {server : Server}
    {network : Http.Network} {endpoint : Endpoint} {question : Value}
    {read : List UInt8 → Option β} {response : Http.Response}
    (hresponse : (server.exchange network question).response = some response)
    (hread : read response.body.bytes = none) :
    ∃ failure,
      (server.ask network endpoint question read).result = .error failure := by
  cases hresult : (server.ask network endpoint question read).result with
  | error failure => exact ⟨failure, rfl⟩
  | ok answer =>
    obtain ⟨bs, ⟨-, response', hresponse', hcarries⟩, hread'⟩ :=
      Server.ask_eq_ok_iff.1 hresult
    rw [hresponse] at hresponse'
    cases hresponse'
    rw [← hcarries.bytes, hread] at hread'
    cases hread'

/-- **What decodes declared fields reads robustly**, and a check that asks by it
heeds what it reads. -/
theorem Decodes.readsRobustly (h : Decodes declared decode) {verdict : α → Verdict}
    {endpoint : Endpoint}
    {check : Server → Http.Network → Value → Outcome Verdict}
    (hcheck : ∀ server network question, (check server network question).result
      = (server.ask network endpoint question
          fun bs => (readBytes? bs).bind decode).result.map verdict) :
    ReadsRobustly declared (fun bs => (readBytes? bs).bind decode) verdict
      check where
  shape := h.exists_shape
  inserted := h.read_inserted
  typed := h.read_untyped
  single := h.read_twice
  alone := h.read_trailing
  decides := by
    intro bs answer hread server network question hanswers
    rw [hcheck, Server.ask_eq_ok_iff.2 ⟨bs, hanswers, hread⟩]
    rfl
  fails := by
    intro bs hread server network question response hresponse hbytes
    have hask : ∃ failure, (server.ask network endpoint question
        fun bs => (readBytes? bs).bind decode).result = .error failure :=
      Server.exists_failure_of_unread hresponse (by rw [hbytes, hread])
    obtain ⟨failure, hfailure⟩ := hask
    rw [hcheck, hfailure]
    exact ⟨failure, rfl⟩

end Decoder

/-- **Answers of both dialects are read robustly.** And the verdict of an answer
in the decision dialect is to allow for the sake of the permit, if there is one,
else to deny for the sake of the denial, if there is one, else the flag with its
reason.

An answer with a permit and a denial is to allow. The order is that of the
dialect, and the flag is only asked where neither speaks. -/
theorem answers_read_robustly :
    ReadsRobustly DecisionAnswer.declared DecisionAnswer.ofBytes?
        DecisionAnswer.verdict Server.askDecision ∧
      ReadsRobustly ValidationAnswer.declared ValidationAnswer.ofBytes?
        ValidationAnswer.verdict Server.askValidation ∧
      ∀ {bs : List UInt8} {answer : DecisionAnswer},
        DecisionAnswer.ofBytes? bs = some answer →
        (answer.permit ≠ "" → answer.verdict = .allow answer.permit) ∧
        (answer.permit = "" → answer.deny ≠ "" →
          answer.verdict = .deny answer.deny) ∧
        (answer.permit = "" → answer.deny = "" →
          answer.verdict = ⟨answer.allow, answer.reason⟩) := by
  refine ⟨DecisionAnswer.decodes.readsRobustly fun _ _ _ => rfl,
    ValidationAnswer.decodes.readsRobustly fun _ _ _ => rfl, ?_⟩
  intro bs answer _
  unfold DecisionAnswer.verdict
  refine ⟨fun hpermit => ?_, fun hpermit hdeny => ?_, fun hpermit hdeny => ?_⟩
  · rw [if_pos (by simpa using hpermit)]
  · rw [if_neg (by simpa using hpermit), if_pos (by simpa using hdeny)]
  · rw [if_neg (by simpa using hpermit), if_neg (by simpa using hdeny)]

/-! ### An answer that allows

The texts below differ from an answer that allows in one place each. -/

/-- A member with this name and this value, without blanks. -/
def plainMember (name : String) (node : Node) (text : String) : WrittenMember where
  before := []
  marks := name.toList.map .plain
  name := name.toList.map some
  between := []
  value := ⟨[], node, text.toList.map some, []⟩

theorem isWritten_plainMember {name text : String} {node : Node}
    (hname : (name.toList.all fun c =>
      0x20 ≤ c.toNat && c != '"' && c != '\\') = true)
    (htext : Spells (greatestDepth - 1) node (text.toList.map some)) :
    (plainMember name node text).IsWritten := by
  have hmarks : SpellsMarks (name.toList.map .plain) (name.toList.map some) := by
    generalize name.toList = cs at hname
    induction cs with
    | nil => exact .nil
    | cons c cs ih =>
      simp only [List.all_cons, Bool.and_eq_true, decide_eq_true_eq, bne_iff_ne]
        at hname
      obtain ⟨⟨⟨hvisible, hquote⟩, hslash⟩, hrest⟩ := hname
      exact .cons (.plain hvisible hquote hslash) (ih hrest)
  exact ⟨⟨areGaps_nil, hmarks, areGaps_nil, areGaps_nil, areGaps_nil⟩, htext⟩

/-- What allows. -/
def allowMember : WrittenMember := plainMember "allow" (.boolean true) "true"

/-- No permit. -/
def nullMember : WrittenMember := plainMember "permit" .null "null"

/-- A reason that is no text. -/
def flagMember : WrittenMember := plainMember "reason" (.boolean true) "true"

/-- The object of these members, without blanks. -/
def plainObject (members : List WrittenMember) : WrittenObject :=
  ⟨[], [], members, []⟩

/-- A permit that is null leaves an answer what it is. A reason that is no text
spoils it, and so do a second flag and a second answer behind it. -/
theorem null_read_and_faults_refused :
    let read := fun text => DecisionAnswer.ofBytes? (Text.Utf8.bytes text)
    read "\x7b\"permit\":null,\"allow\":true\x7d" = some { allow := true } ∧
      read "\x7b\"allow\":true,\"reason\":true\x7d" = none ∧
      read "\x7b\"allow\":true,\"allow\":true\x7d" = none ∧
      read "\x7b\"allow\":true\x7d \x7b\x7d" = none := by
  intro read
  obtain ⟨hreads, -, -⟩ := answers_read_robustly
  have hallow : allowMember.IsWritten := isWritten_plainMember (by decide) .yes
  have hnull : nullMember.IsWritten := isWritten_plainMember (by decide) .null
  have hflag : flagMember.IsWritten := isWritten_plainMember (by decide) .yes
  have hobject : ∀ members, (∀ member ∈ members, member.IsWritten) →
      (plainObject members).IsWritten := fun _ hmembers =>
    ⟨areGaps_nil, areGaps_nil, hmembers, areGaps_nil⟩
  refine ⟨?_, ?_, ?_, ?_⟩
  · have hplain : read "\x7b\"allow\":true\x7d" = some { allow := true } := by
      decide +kernel
    exact hreads.inserted (hobject [allowMember] (by simpa using hallow))
      (List.nil_append _).symm hnull
      (.inl ⟨("permit", .text), by decide, rfl,
        List.forall_mem_singleton.2 (by decide +kernel)⟩)
      (by decide +kernel) (by decide +kernel) hplain
  · exact hreads.typed (hobject [allowMember, flagMember] (by simp [hallow, hflag]))
      (by decide +kernel) (List.mem_cons_of_mem _ List.mem_cons_self)
      (by decide : ("reason", FieldType.text) ∈ _) rfl nofun nofun
  · exact hreads.single (hobject [allowMember, allowMember] (by simp [hallow]))
      (by decide +kernel) (by decide : ("allow", FieldType.flag) ∈ _)
      (by decide +kernel)
  · exact hreads.alone areGaps_nil
      (WrittenObject.spells_text (hobject [allowMember] (by simpa using hallow)))
      (fun hgaps => absurd (hgaps (some '\x7b') (by simp)) (by decide))
      (by decide +kernel :
        _ = [] ++ ((plainObject [allowMember]).text
          ++ [some ' ', some '\x7b', some '\x7d']))

end Policy

end PolicyGateway
