import PolicyGateway.Proofs.RequestIds
import PolicyGateway.Proofs.SettingsText

/-!
# Callers written into a header

The layer that authenticates callers writes the caller as a JSON document in
UTF-8, and its bytes become the value of a header (`Principal.written`). Such a
value may have any bytes but controls, and UTF-8 and JSON together give back
the caller that was written (`spelt?_written`).

The gateway takes the value for text first, and the value of a header is text
only if it is ASCII. A string of a JSON document keeps whatever is beyond ASCII
as it is. So a caller comes back exactly if its three texts are ASCII, and any
other one is refused as if its bytes were no UTF-8. What is refused besides is
what spells no caller. `Reading` says this of every value that is there, with
the questions of the checks, which name the caller that was read
(`reading_of_first`). A caller of which the name has an accent is refused in
`accented_refused`.

**Why the bytes are at fault and not the text.** HTTP does not say what the
bytes of a field beyond ASCII stand for, and a library may choose to take such a
value for no text. That is a choice that can be made. It is another matter to
tell whoever wrote the value in UTF-8 that it is none.
-/

namespace PolicyGateway

/-! ## ASCII

For text and for bytes it means the same: a character beyond ASCII has bytes
beyond ASCII, all of them. -/

namespace Text

/-- **A text of ASCII.** -/
def IsAscii (s : String) : Prop :=
  ∀ c ∈ s.toList, c.toNat < 0x80

instance (s : String) : Decidable (IsAscii s) :=
  List.decidableBAll (fun c : Char => c.toNat < 0x80) s.toList

namespace Utf8

/-- **The bytes of a text are ASCII exactly if its characters are.** -/
theorem forall_mem_encode_lt_iff (cs : List Char) :
    (∀ b ∈ encode cs, b.toNat < 0x80) ↔ ∀ c ∈ cs, c.toNat < 0x80 := by
  have hone : ∀ c : Char, (∀ b ∈ encode [c], b.toNat < 0x80)
      ↔ c.toNat < 0x80 := by
    intro c
    constructor
    · intro h
      obtain ⟨b, rest, hb⟩ :=
        List.exists_cons_of_ne_nil (encode_singleton_ne_nil c)
      have hmem : b ∈ encode [c] := hb ▸ List.mem_cons_self
      by_contra hc
      exact absurd (h b hmem)
        (Nat.not_lt.2 (le_of_mem_encode (Nat.not_lt.1 hc) hmem))
    · intro hc b hb
      rw [encode_ascii hc, List.mem_singleton] at hb
      rw [hb, UInt8.toNat_ofNat_of_lt' (Nat.lt_trans hc (by decide))]
      exact hc
  induction cs with
  | nil => simp [encode_nil]
  | cons c rest ih =>
    rw [encode_cons, List.forall_mem_append, List.forall_mem_cons]
    exact and_congr (hone c) ih

/-- Bytes of ASCII are those of the characters that they stand for. -/
theorem encode_map_charOfNat {bs : List UInt8}
    (h : ∀ b ∈ bs, b.toNat < 0x80) :
    encode (bs.map fun b => Char.ofNat b.toNat) = bs := by
  induction bs with
  | nil => rfl
  | cons b rest ih =>
    have hb := h b List.mem_cons_self
    rw [List.map_cons, encode_eq_cons hb]
    exact ⟨_, rfl, ih fun other hother => h other (List.mem_cons_of_mem b hother)⟩

end Utf8

end Text

namespace Http

variable {value : FieldValue} (hlegal : isFieldValue value = true)
include hlegal

/-- **A value is text exactly if it is ASCII.** -/
theorem isText_iff : isText value = true ↔ ∀ b ∈ value, b.toNat < 0x80 := by
  unfold isText
  unfold isFieldValue at hlegal
  rw [List.all_eq_true] at hlegal ⊢
  refine forall₂_congr fun b hb => ?_
  have hbyte := hlegal b hb
  simp only [Bool.or_eq_true, beq_iff_eq, Bool.and_eq_true, decide_eq_true_eq,
    UInt8.le_iff_toNat_le, UInt8.lt_iff_toNat_lt] at hbyte ⊢
  have hdelete : b ≠ 0x7f → b.toNat ≠ 0x7f :=
    fun hne heq => hne (UInt8.toNat_inj.1 heq)
  have htab : b = 0x09 → b.toNat = 9 := fun heq => congrArg UInt8.toNat heq
  constructor
  · rintro (heq | ⟨-, hlt⟩)
    · exact htab heq ▸ by decide
    · exact Nat.lt_trans hlt (by decide)
  · intro hlt
    rcases hbyte with heq | ⟨hle, hne⟩
    · exact .inl heq
    · have := hdelete hne
      exact .inr ⟨hle, by show b.toNat < 127; omega⟩

/-- **A value of ASCII is text**, the same one as in UTF-8. -/
theorem exists_text_of_ascii (h : ∀ b ∈ value, b.toNat < 0x80) :
    ∃ text, fieldText? value = some text ∧
      Text.Utf8.string? value = some text := by
  have htext : isText value = true := (isText_iff hlegal).2 h
  have hbytes : Text.Utf8.bytes
      (String.ofList (value.map fun b => Char.ofNat b.toNat)) = value := by
    unfold Text.Utf8.bytes
    rw [String.toList_ofList, Text.Utf8.encode_map_charOfNat h]
  refine ⟨_, if_pos htext, ?_⟩
  conv_lhs => rw [← hbytes, Text.Utf8.string?_bytes]

/-- Any other value has no text. -/
theorem fieldText?_eq_none (h : ¬ ∀ b ∈ value, b.toNat < 0x80) :
    fieldText? value = none :=
  if_neg fun htext => h ((isText_iff hlegal).1 htext)

end Http

namespace Json

/-! ## What is written in ASCII

A writer of JSON could escape whatever is beyond ASCII, and then every caller
would come back. This one escapes controls, quotes and backslashes, and nothing
else. -/

/-- **What is escaped is ASCII**, and nothing else comes to be. -/
theorem forall_mem_escape_lt_iff (c : Char) :
    (∀ d ∈ escape c, d.toNat < 0x80) ↔ c.toNat < 0x80 := by
  -- the digits of a control character are ASCII, as there are few of them
  have hdigits : ∀ n < 0x20, (Nat.digitChar (n / 16)).toNat < 0x80 ∧
      (Nat.digitChar (n % 16)).toNat < 0x80 := by decide
  unfold escape
  split
  · next h => simp [h]
  split
  · next h => simp [h]
  split
  · next h => simp [h]
  split
  · next h => simp [h]
  split
  · next h => simp [h]
  split
  · next h => simp [h]
  split
  · next h => simp [h]
  split
  · next h =>
    have hlow : c.toNat < 0x80 := Nat.lt_trans h (by decide)
    simp [hexPair, hdigits _ h, hlow]
  · simp

/-- **A string is written in ASCII** exactly if it is ASCII. -/
theorem forall_mem_quote_lt_iff (s : String) :
    (∀ d ∈ quote s, d.toNat < 0x80) ↔ Text.IsAscii s := by
  have hquote : ('"' : Char).toNat < 0x80 := by decide
  have hchars : (∀ d ∈ s.toList.flatMap escape, d.toNat < 0x80)
      ↔ Text.IsAscii s :=
    List.forall_mem_flatMap.trans
      (forall₂_congr fun c _ => forall_mem_escape_lt_iff c)
  unfold quote
  rw [List.forall_mem_append, List.forall_mem_cons, List.forall_mem_singleton,
    hchars]
  exact ⟨fun h => h.1.2, fun h => ⟨⟨hquote, h⟩, hquote⟩⟩

end Json

namespace Policy

open PolicyGateway.Http (FieldValue)
open PolicyGateway.Json

namespace Principal

/-! ## Callers as header values -/

/-- **The header value of a caller**, as the layer that authenticates callers
writes it. -/
def written (principal : Principal) : FieldValue :=
  Text.Utf8.bytes principal.toJson.toText

/-- **The caller that a value spells**, read as UTF-8 and as JSON. It is what a
reader would make of it who takes the value for UTF-8. -/
def spelt? (value : FieldValue) : Option Principal :=
  ((Text.Utf8.string? value).bind Json.readText?).bind ofNode?

/-- A caller of which all texts are ASCII. -/
structure IsAscii (principal : Principal) : Prop where
  /-- The id of the user is. -/
  userId : Text.IsAscii principal.userId
  /-- So is the login name. -/
  username : Text.IsAscii principal.username
  /-- So is the email address. -/
  email : Text.IsAscii principal.email

variable (principal : Principal)

/-- A caller is read from its document. -/
theorem ofNode?_toJson : ofNode? principal.toJson.node = some principal := by
  unfold ofNode? toJson
  rw [Record.Fields.ofNode?_object rfl rfl]
  simp

theorem fits_toJson (room : Nat) :
    principal.toJson.fits (room + 1) = true := by
  refine Value.fits_object ?_
  simp

/-- **UTF-8 and JSON give back the caller that was written.** -/
theorem spelt?_written : spelt? principal.written = some principal := by
  have hread := readText?_toText (principal.fits_toJson 126)
  unfold spelt? written
  rw [Text.Utf8.string?_bytes, Option.bind_some, hread, Option.bind_some,
    ofNode?_toJson]

/-- **A caller is written in ASCII** exactly if its texts are ASCII. -/
theorem forall_mem_written_lt_iff :
    (∀ b ∈ principal.written, b.toNat < 0x80) ↔ principal.IsAscii := by
  have hwrite : principal.toJson.write
      = '\x7b' :: (quote "user_id" ++ ':' :: quote principal.userId ++
          ',' :: (quote "username" ++ ':' :: quote principal.username ++
            ',' :: (quote "email" ++ ':' :: quote principal.email)))
        ++ ['\x7d'] :=
    rfl
  have hnames : Text.IsAscii "user_id" ∧ Text.IsAscii "username" ∧
      Text.IsAscii "email" := by decide
  have hsigns : ('\x7b' : Char).toNat < 0x80 ∧ (':' : Char).toNat < 0x80 ∧
      (',' : Char).toNat < 0x80 ∧ ('\x7d' : Char).toNat < 0x80 := by decide
  unfold written Text.Utf8.bytes Value.toText
  rw [Text.Utf8.forall_mem_encode_lt_iff, String.toList_ofList, hwrite]
  simp only [List.forall_mem_append, List.forall_mem_cons, List.not_mem_nil,
    forall_mem_quote_lt_iff, false_imp_iff, implies_true, hnames, hsigns,
    true_and, and_true]
  exact ⟨fun ⟨hid, hname, hemail⟩ => ⟨hid, hname, hemail⟩,
    fun h => ⟨h.userId, h.username, h.email⟩⟩

/-! ## Callers in questions

That a caller was read can only be seen in what is asked on its behalf. Two of
the three kinds of questions have it in them as it is. -/

/-- **A request names a caller**: it bears a question with this caller in it. It
is told in full, not only by its id. -/
def IsNamedBy (call : Http.Request) : Prop :=
  ∃ question : Value, question.member? "principal" = some principal.toJson ∧
    Bears (Text.Utf8.bytes question.toText) call

end Principal

namespace Checks

variable (checks : Checks) (network : Http.Network) (request : AccessRequest)
  (principal : Principal) (body : Value)

/-- The question about a resource names the caller. -/
theorem isNamedBy_resourceCalls {call : Http.Request}
    (hcall : call ∈ (checks.authorize network request principal
      body).resourceCalls) : principal.IsNamedBy call := by
  obtain ⟨server, question, hasked, hbears⟩ :=
    (ResourceCheck.asksOnce_run network request principal
      checks.resources).exists_question hcall
  obtain ⟨resource, anonymousAccess, rfl⟩ :=
    ResourceCheck.exists_of_asked? hasked
  exact ⟨_, rfl, hbears⟩

/-- So does the question about a ruleset, in the generic dialect. -/
theorem isNamedBy_rulesetCalls (hdialect : checks.rulesets.dialect = .generic)
    {call : Http.Request}
    (hcall : call ∈ (checks.authorize network request principal
      body).rulesetCalls) : principal.IsNamedBy call := by
  have hgeneric : call ∈ (checks.rulesets.runGeneric network request
      principal).calls := by
    have hrun : call ∈ (checks.rulesets.run network request principal
        body).calls := hcall
    unfold RulesetCheck.run at hrun
    rwa [hdialect] at hrun
  obtain ⟨server, question, hasked, hbears⟩ :=
    (RulesetCheck.asksOnce_runGeneric network request principal
      checks.rulesets).exists_question hgeneric
  obtain ⟨ruleset, rfl⟩ := RulesetCheck.exists_of_askedGeneric? hasked
  exact ⟨_, rfl, hbears⟩

end Checks

end Policy

namespace Gateway

open PolicyGateway.Http PolicyGateway.Policy
open PolicyGateway.Json (Value)

/-! ## Reading a value that is there

A value of ASCII is text, and read as the same text that UTF-8 would give; any
other value is refused before it is looked into. So whether a caller is found,
and which one, is settled by these two cases. -/

namespace Service

variable {service : Service} {network : Network} {moment : Moment}
  {inbound : Inbound} {principal : Principal}

/-- **Whatever the checks send for a request**, they send on behalf of its
caller. -/
theorem exists_authorization_of_policyCalls
    (hcaller : callerOf inbound.headers service.settings.identity
      = .ok principal) {call : Request}
    (hcall : call ∈ (service.handle network moment inbound).policyCalls) :
    ∃ body, call ∈ (service.gate.authorize network
      (accessRequest inbound (idOf moment inbound)) principal body).calls := by
  unfold handle at hcall
  dsimp only at hcall
  split at hcall
  · cases hcall
  · obtain ⟨other, body, hother, hasked⟩ :=
      service.exists_authorization_of_process network _ inbound hcall
    rw [hcaller] at hother
    cases hother
    exact ⟨bodyValue body, hasked⟩

end Service

/-- **What becomes of a value that is there.** The value is any that a field can
have, whether a caller was written there or not. -/
structure Reading (settings : IdentitySettings) (headers : Headers)
    (value : FieldValue) : Prop where
  /-- A caller that was written comes back exactly if its texts are ASCII. -/
  written : ∀ principal : Principal, value = principal.written →
    (callerOf headers settings = .ok principal ↔ principal.IsAscii)
  /-- Refused is what spells no caller, and what is beyond ASCII. -/
  refused : (∃ failure, callerOf headers settings = .error failure)
    ↔ Principal.spelt? value = none ∨ ¬ ∀ b ∈ value, b.toNat < 0x80
  /-- What is beyond ASCII is refused as if it were no UTF-8. -/
  told : (¬ ∀ b ∈ value, b.toNat < 0x80) → callerOf headers settings
    = .error (.unauthenticated "caller identity is not valid UTF-8")
  /-- A caller that was read is named in whatever is asked about a resource,
  and in whatever is asked in the generic dialect. -/
  asked : ∀ (service : Service) (network : Network) (moment : Moment)
    (inbound : Inbound) (principal : Principal),
    service.settings.identity = settings → inbound.headers = headers →
    callerOf headers settings = .ok principal →
    ∀ call ∈ (service.handle network moment inbound).policyCalls, ∃ body,
      let authorization := service.gate.authorize network
        (Service.accessRequest inbound (idOf moment inbound)) principal body
      call ∈ authorization.calls ∧
        (call ∈ authorization.resourceCalls ∨
            service.gate.checks.rulesets.dialect = .generic →
          principal.IsNamedBy call)

section Values

variable {settings : IdentitySettings} {headers : Headers} {name : String}
  {value : FieldValue}
  (hname : fieldName? settings.principalHeader = some name)
  (hvalue : headers.first? name = some value)
  (hlegal : isFieldValue value = true)
include hname hvalue hlegal

/-- The caller of a value in ASCII is the one that it spells. -/
theorem callerOf_of_ascii (hascii : ∀ b ∈ value, b.toNat < 0x80) :
    callerOf headers settings
      = match Principal.spelt? value with
        | none => .error (.unauthenticated "invalid caller identity")
        | some principal => .ok principal := by
  obtain ⟨text, hfield, hutf8⟩ := exists_text_of_ascii hlegal hascii
  unfold callerOf Principal.spelt?
  rw [hname, Option.bind_some, hvalue, hutf8]
  dsimp only
  rw [hfield]
  rfl

/-- A value beyond ASCII has no caller. -/
theorem callerOf_of_not_ascii (hascii : ¬ ∀ b ∈ value, b.toNat < 0x80) :
    callerOf headers settings
      = .error (.unauthenticated "caller identity is not valid UTF-8") := by
  unfold callerOf
  rw [hname, Option.bind_some, hvalue]
  dsimp only
  rw [fieldText?_eq_none hlegal hascii]

/-- **Which callers come back**: under whatever name the settings look for the
caller, and whatever value a field can have. -/
theorem reading_of_first : Reading settings headers value where
  written := by
    intro principal hwritten
    rw [hwritten] at hvalue hlegal
    rw [← principal.forall_mem_written_lt_iff]
    constructor
    · intro hcaller
      by_contra hascii
      rw [callerOf_of_not_ascii hname hvalue hlegal hascii] at hcaller
      cases hcaller
    · intro hascii
      rw [callerOf_of_ascii hname hvalue hlegal hascii,
        principal.spelt?_written]
  refused := by
    by_cases hascii : ∀ b ∈ value, b.toNat < 0x80
    · rw [callerOf_of_ascii hname hvalue hlegal hascii]
      cases Principal.spelt? value with
      | none => simp
      | some principal => simpa using hascii
    · rw [callerOf_of_not_ascii hname hvalue hlegal hascii]
      exact iff_of_true ⟨_, rfl⟩ (.inr hascii)
  told := callerOf_of_not_ascii hname hvalue hlegal
  asked := by
    intro service network moment inbound principal hsettings hheaders hcaller
      call hcall
    rw [← hsettings, ← hheaders] at hcaller
    obtain ⟨body, hbody⟩ :=
      Service.exists_authorization_of_policyCalls hcaller hcall
    refine ⟨body, hbody, fun hnaming => ?_⟩
    -- of the questions all but those of the decision dialect name the caller
    have hgiven := List.mem_append.1 hbody
    cases hnaming with
    | inl hresource => exact Checks.isNamedBy_resourceCalls _ _ _ _ _ hresource
    | inr hdialect =>
      cases hgiven with
      | inl hresource =>
        exact Checks.isNamedBy_resourceCalls _ _ _ _ _ hresource
      | inr hruleset =>
        exact Checks.isNamedBy_rulesetCalls _ _ _ _ _ hdialect hruleset

end Values

/-! ### A name with an accent

Only the login name has a character beyond ASCII, and only one. -/

/-- A caller of which the login name has an accent. -/
def accented : Principal :=
  { userId := "u1", username := "José" }

/-- Its header, as it was written. -/
def accentedHeaders : Headers :=
  ⟨[("x-caller-identity", accented.written)]⟩

/-- It is refused, and told that it is no UTF-8. -/
theorem accented_refused :
    isFieldValue accented.written = true ∧
      Principal.spelt? accented.written = some accented ∧
      callerOf accentedHeaders {}
        = .error (.unauthenticated "caller identity is not valid UTF-8") := by
  have hlegal : isFieldValue accented.written = true := by decide +kernel
  have hname : fieldName? ({} : IdentitySettings).principalHeader
      = some "x-caller-identity" := by decide +kernel
  have hreading : Reading {} accentedHeaders accented.written :=
    reading_of_first hname rfl hlegal
  refine ⟨hlegal, accented.spelt?_written, hreading.told ?_⟩
  rw [accented.forall_mem_written_lt_iff]
  exact fun h => absurd h.username (by decide)

end Gateway

end PolicyGateway
