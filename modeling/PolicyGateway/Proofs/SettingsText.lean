import Mathlib.Data.List.Basic
import PolicyGateway.Gateway.Settings
import PolicyGateway.Proofs.DurationText
import PolicyGateway.Proofs.Evidence
import PolicyGateway.Proofs.JsonText

/-!
# Writing settings and loading them again

What a file and the environment make of the settings can be written as JSON,
and a file that holds this text gives the same settings. That needs three
things of every field: its value is written at all, under a name that is
declared, and in a form that is read as the same value.

Only their times can keep settings from being of that kind: all else is read as it
is written, and each time as what is read of its text (`Settings.ofNode?_toJson`).
A duration that was read from a text is read again (`Duration.ReadsBack`). So are
the defaults, and hence the three times in settings that were loaded; the
environment replaces a time only by one that it has read as well.

A record is written with all its fields, each of them once, so each reader
finds the node that its writer has made (`Fields.get?_ofValues_cons`). A map
is written with its entries in their order, and these make the same map again.
A reader has one lemma for each record, and none of them looks into a record
that another one reads. No record is nested deeper than a reader of JSON
follows, and its numbers are words (`Settings.fits_toJson`), so that its text
is read as its document.

`Gateway.Settings.load_written` is what comes of it.

**Why through documents.** A file may be JSON or TOML, and both are read as a
document first. What is written is JSON. So the way back is cut in two: the text
is read as the document of what was written, which is a matter of JSON alone,
and the record is read from that document, which is a matter of its fields
alone.
-/

namespace PolicyGateway

open PolicyGateway.Json PolicyGateway.Record

/-! ## Records

A record is an object with a fixed list of names. To find a field again it is
enough that its name is among them and is written once; both can be seen from
the two lists, so `simp` goes through them. -/

namespace Record

namespace Fields

/-- The fields that an object gives. -/
def ofValues (members : List (String × Value)) : Fields :=
  ⟨members.map fun member => (member.1, member.2.node)⟩

section Given

variable {names : List String} {members : List (String × Value)}
  (hknown : members.all (fun member => names.contains member.1) = true)
  (hdistinct : areDistinct (members.map Prod.fst) = true)
include hknown hdistinct

/-- Members of declared names, none of them twice, are the fields. -/
theorem ofMembers?_memberNodes :
    ofMembers? names (Value.memberNodes members)
      = some (ofValues members) := by
  -- all members are of declared names, so none is passed over
  have hall : (Value.memberNodes members).filter
      (fun member => names.contains member.1) = Value.memberNodes members := by
    rw [Value.memberNodes_eq_map, List.filter_map]
    exact congrArg (List.map _)
      (List.filter_eq_self.2 (List.all_eq_true.1 hknown))
  have hnames : (Value.memberNodes members).map Prod.fst
      = members.map Prod.fst := by
    rw [Value.memberNodes_eq_map, List.map_map]
    rfl
  have hgiven : areDistinct (((Value.memberNodes members).filter
      (fun member => names.contains member.1)).map Prod.fst) = true := by
    rw [hall, hnames]
    exact hdistinct
  refine (if_pos hgiven).trans ?_
  rw [hall, Value.memberNodes_eq_map]
  rfl

/-- **The fields of a record** are what the object gives. -/
theorem ofNode?_object (format : Format) :
    ofNode? format names (Value.object members).node
      = some (ofValues members) :=
  ofMembers?_memberNodes hknown hdistinct

/-- So are the fields of a section. -/
theorem ofSection?_object :
    ofSection? names (Value.object members).node
      = some (ofValues members) := by
  have hall : (Value.memberNodes members).all (fun member =>
      names.contains member.1 || member.2.isReadable) = true := by
    rw [Value.memberNodes_eq_map, List.all_map, List.all_eq_true]
    exact fun member hmember =>
      Bool.or_eq_true_iff.2 (.inl (List.all_eq_true.1 hknown member hmember))
  exact (if_pos hall).trans (ofMembers?_memberNodes hknown hdistinct)

end Given

variable {α : Type} {read : Node → Option α} {absent : α}

/-- **A reader finds what its writer has made.** -/
@[simp] theorem get?_ofValues_cons (name other : String) (v : Value)
    (members : List (String × Value)) :
    (ofValues ((other, v) :: members)).get? name read absent
      = if name = other then read v.node
        else (ofValues members).get? name read absent := by
  unfold get? ofValues
  rw [List.map_cons, List.lookup_cons]
  by_cases h : name = other
  · rw [if_pos h, beq_iff_eq.2 h]
  · rw [if_neg h, beq_eq_false_iff_ne.2 h]

end Fields

namespace Node

/-! ### Parts of a record

What a field holds is a text, a flag, a number, a list or a map. There is one
lemma for each, and a record is read by them one after the other. -/

@[simp] theorem asText?_text (s : String) :
    (Value.text s).node.asText? = some s :=
  rfl

@[simp] theorem asBoolean?_boolean (b : Bool) :
    (Value.boolean b).node.asBoolean? = some b :=
  rfl

theorem asNatural?_natural {n greatest : Nat} (h : n ≤ greatest) :
    (Value.natural n).node.asNatural? greatest = some n :=
  if_pos ⟨Int.natCast_nonneg n, Int.ofNat_le.2 h⟩

@[simp] theorem asList?_texts (items : List String) :
    (Value.texts items).node.asList? asText? = some items := by
  have hitems : (Value.nodes (items.map Value.text)).mapM asText?
      = some items := by
    induction items with
    | nil => rfl
    | cons item rest ih =>
      rw [List.map_cons, Value.nodes, List.mapM_cons, ih]
      rfl
  exact hitems

/-- **A map is read as it is written**, if its values are. -/
theorem asMap?_object {α : Type} {read : Node → Option α} (write : α → Value)
    (hread : ∀ a, read (write a).node = some a) (map : OrderedMap α) :
    (Value.object (map.entries.map fun entry =>
      (entry.1, write entry.2))).node.asMap? read = some map := by
  have hentries : (Value.memberNodes (map.entries.map fun entry =>
      (entry.1, write entry.2))).mapM
        (fun (member : String × Node) => (read member.2).map (member.1, ·))
      = some map.entries := by
    generalize map.entries = entries
    induction entries with
    | nil => rfl
    | cons entry rest ih =>
      rw [List.map_cons, Value.memberNodes, List.mapM_cons, ih, hread]
      rfl
  exact (congrArg (Option.map OrderedMap.ofList) hentries).trans
    (congrArg some map.ofList_entries)

end Node

/-! ### Files

The name of a file says in which format it is. A text that is JSON is read as
JSON only where the name says so. -/

variable {α : Type} {read : Format → Node → Option α} {a : α}

/-- What a file holds is read from a document. -/
theorem exists_of_readFile {path : String} {content : FileContent}
    (h : readFile read path content = .ok a) :
    ∃ format node, read format node = some a := by
  unfold readFile at h
  split at h
  · cases h
  split at h
  · cases h
  split at h
  · cases h
  split at h
  · cases h
  · next hread =>
    cases h
    obtain ⟨node, -, hnode⟩ := Option.bind_eq_some_iff.1 hread
    exact ⟨_, node, hnode⟩

/-- What the document of a text is read as is what its file holds. -/
theorem readFile_bytes {path s : String} {format : Format} {node : Node}
    (hformat : Format.ofEnding? (ending path) = some format)
    (hs : Node.ofText? format s = some node) :
    readFile read path (.bytes (Text.Utf8.bytes s))
      = match read format node with
        | some a => .ok a
        | none => .error (.malformed format) := by
  have hread : (Node.ofText? format s).bind (read format)
      = read format node := by
    rw [hs, Option.bind_some]
  unfold readFile
  simp only [Text.Utf8.string?_bytes, hformat, hread]
  cases read format node <;> rfl

end Record

namespace Json.Value

variable {room : Nat}

@[simp] theorem fits_texts (items : List String) :
    (texts items).fits (room + 1) = true := by
  refine fits_array fun item hitem => ?_
  obtain ⟨s, -, rfl⟩ := List.mem_map.1 hitem
  exact fits_text s

theorem fits_map {α : Type} {write : α → Value}
    (hwrite : ∀ a, (write a).fits room = true) (map : OrderedMap α) :
    (object (map.entries.map fun entry =>
      (entry.1, write entry.2))).fits (room + 1) = true := by
  refine fits_object fun member hmember => ?_
  obtain ⟨entry, -, rfl⟩ := List.mem_map.1 hmember
  exact hwrite entry.2

end Json.Value

/-! ## The checks

From the innermost record outwards: a ruleset, the two sections, and the
settings of both checks. In each of them a time is written as a text, and read
as what is read of that text. -/

namespace Policy

variable (format : Format) (room : Nat)

@[simp] theorem durationOfNode?_text (d : Duration) :
    durationOfNode? (Value.text d.text).node = Duration.parse? d.text := by
  unfold durationOfNode?
  rw [Node.asText?_text, Option.bind_some]

@[simp] theorem Dialect.ofNode?_name (dialect : Dialect) :
    ofNode? format (Value.text dialect.name).node = some dialect := by
  cases dialect <;> rfl

theorem Ruleset.ofNode?_toJson (ruleset : Ruleset) :
    ofNode? format ruleset.toJson.node = some ruleset := by
  have hbody := Node.asMap?_object Value.text Node.asText?_text ruleset.body
  unfold ofNode? toJson
  rw [Fields.ofNode?_object rfl rfl]
  simp [hbody]

theorem Ruleset.fits_toJson (ruleset : Ruleset) :
    ruleset.toJson.fits (room + 2) = true := by
  have hbody : (Value.object (ruleset.body.entries.map fun entry =>
      (entry.1, Value.text entry.2))).fits (room + 1) = true :=
    Value.fits_map Value.fits_text ruleset.body
  refine Value.fits_object ?_
  simp [hbody]

theorem ResourceSettings.ofNode?_toJson (settings : ResourceSettings) :
    ofNode? settings.toJson.node
      = (Duration.parse? settings.timeout.text).bind
          fun timeout => some { settings with timeout } := by
  have hmap := Node.asMap?_object Value.text Node.asText?_text
    settings.resourceMap
  unfold ofNode? toJson Credentials.members
  rw [Fields.ofSection?_object rfl rfl]
  simp [Credentials.ofFields?, hmap]

theorem ResourceSettings.fits_toJson (settings : ResourceSettings) :
    settings.toJson.fits (room + 2) = true := by
  have hmap : (Value.object (settings.resourceMap.entries.map fun entry =>
      (entry.1, Value.text entry.2))).fits (room + 1) = true :=
    Value.fits_map Value.fits_text settings.resourceMap
  refine Value.fits_object ?_
  simp [Credentials.members, hmap]

theorem RulesetSettings.ofNode?_toJson (settings : RulesetSettings) :
    ofNode? format settings.toJson.node
      = (Duration.parse? settings.timeout.text).bind
          fun timeout => some { settings with timeout } := by
  have hmap := Node.asMap?_object Ruleset.toJson
    (Ruleset.ofNode?_toJson format) settings.resourceMap
  unfold ofNode? toJson Credentials.members
  rw [Fields.ofSection?_object rfl rfl]
  simp [Credentials.ofFields?, hmap]

theorem RulesetSettings.fits_toJson (settings : RulesetSettings) :
    settings.toJson.fits (room + 4) = true := by
  have hmap := Value.fits_map (Ruleset.fits_toJson room) settings.resourceMap
  refine Value.fits_object ?_
  simp [Credentials.members, hmap]

/-- The settings of the checks with other times. -/
def Settings.withTimes (settings : Settings) (resources rulesets : Duration) :
    Settings where
  resources := { settings.resources with timeout := resources }
  rulesets := { settings.rulesets with timeout := rulesets }

theorem Settings.ofNode?_toJson (settings : Settings) :
    ofNode? format settings.toJson.node = (do
      let resources ← Duration.parse? settings.resources.timeout.text
      let rulesets ← Duration.parse? settings.rulesets.timeout.text
      return settings.withTimes resources rulesets) := by
  unfold ofNode? toJson
  rw [Fields.ofNode?_object rfl rfl]
  simp [ResourceSettings.ofNode?_toJson, RulesetSettings.ofNode?_toJson,
    withTimes, Option.bind_assoc]

theorem Settings.fits_toJson (settings : Settings) :
    settings.toJson.fits (room + 5) = true := by
  refine Value.fits_object ?_
  simp [ResourceSettings.fits_toJson, RulesetSettings.fits_toJson]

end Policy

/-! ## The gateway

The sections of the gateway have numbers as well, ports and a size, which are
words. The settings of the checks are a section like the others here. -/

namespace Gateway

variable (format : Format) (room : Nat)

@[simp] theorem portOfNode?_natural (port : UInt16) :
    portOfNode? (Value.natural port.toNat).node = some port := by
  unfold portOfNode?
  rw [Node.asNatural?_natural (Nat.le_of_lt_succ port.toNat_lt)]
  exact congrArg some UInt16.ofNat_toNat

theorem fits_port (port : UInt16) :
    (Value.natural port.toNat).fits room = true :=
  Value.fits_natural (Nat.lt_trans port.toNat_lt (by decide))

theorem ServerSettings.ofNode?_toJson (settings : ServerSettings) :
    ofNode? format settings.toJson.node
      = (Duration.parse? settings.backendTimeout.text).bind
          fun backendTimeout => some { settings with backendTimeout } := by
  have hsize : settings.maxRequestBodySize.toNat ≤ 18446744073709551615 :=
    Nat.le_of_lt_succ settings.maxRequestBodySize.toNat_lt
  unfold ofNode? toJson
  rw [Fields.ofNode?_object rfl rfl]
  simp [Node.asNatural?_natural hsize]

theorem ServerSettings.fits_toJson (settings : ServerSettings) :
    settings.toJson.fits (room + 1) = true := by
  have hsize : (Value.natural settings.maxRequestBodySize.toNat).fits room
      = true := Value.fits_natural settings.maxRequestBodySize.toNat_lt
  refine Value.fits_object ?_
  simp [fits_port, hsize]

theorem IdentitySettings.ofNode?_toJson (settings : IdentitySettings) :
    ofNode? format settings.toJson.node = some settings := by
  unfold ofNode? toJson
  rw [Fields.ofNode?_object rfl rfl]
  simp

theorem IdentitySettings.fits_toJson (settings : IdentitySettings) :
    settings.toJson.fits (room + 1) = true := by
  refine Value.fits_object ?_
  simp

theorem TelemetrySettings.ofNode?_toJson (settings : TelemetrySettings) :
    ofNode? format settings.toJson.node = some settings := by
  have hsome : ∀ port : UInt16,
      (Value.natural port.toNat).node.asOptional? portOfNode?
        = some (some port) := fun port =>
    congrArg (Option.map some) (portOfNode?_natural port)
  have hnone : Value.null.node.asOptional? portOfNode? = some none := rfl
  obtain ⟨logLevel, jsonLogs, metricsEnabled, metricsPort, serviceName⟩ :=
    settings
  unfold ofNode? toJson
  rw [Fields.ofNode?_object rfl rfl]
  cases metricsPort with
  | none => simp [hnone]
  | some port => simp [hsome]

theorem TelemetrySettings.fits_toJson (settings : TelemetrySettings) :
    settings.toJson.fits (room + 1) = true := by
  refine Value.fits_object ?_
  cases settings.metricsPort with
  | none => simp
  | some port => simp [fits_port]

theorem Settings.fits_toJson (settings : Settings) :
    settings.toJson.fits (room + 6) = true := by
  refine Value.fits_object ?_
  simp [ServerSettings.fits_toJson, Policy.Settings.fits_toJson,
    IdentitySettings.fits_toJson, TelemetrySettings.fits_toJson]

end Gateway

/-! ## The times in settings that were loaded

A time in settings that were loaded is a default, or it was read from a text.
Both are read back as they are, and so nothing has to be asked of settings that
come from a file. -/

/-- What holds of a default and of all that is read holds of a field. -/
theorem Record.Fields.of_get? {α : Type} {fields : Fields} {name : String}
    {read : Node → Option α} {absent a : α} {P : α → Prop}
    (h : fields.get? name read absent = some a) (habsent : P absent)
    (hread : ∀ node, read node = some a → P a) : P a := by
  unfold get? at h
  split at h
  · cases h
    exact habsent
  · exact hread _ h

namespace Policy

theorem readsBack_of_durationOfNode? {node : Node} {d : Duration}
    (h : durationOfNode? node = some d) : d.ReadsBack := by
  obtain ⟨s, -, hs⟩ := Option.bind_eq_some_iff.1 h
  exact Duration.readsBack_of_parse? hs

theorem ResourceSettings.readsBack_of_ofNode? {node : Node}
    {settings : ResourceSettings} (h : ofNode? node = some settings) :
    settings.timeout.ReadsBack := by
  simp only [ofNode?, Option.bind_eq_bind, Option.bind_eq_some_iff] at h
  obtain ⟨fields, -, _, -, _, -, _, -, _, -, timeout, htimeout, _, -, ⟨⟩⟩ := h
  exact Fields.of_get? htimeout (Duration.readsBack_ofSeconds 5)
    fun _ => readsBack_of_durationOfNode?

theorem RulesetSettings.readsBack_of_ofNode? {format : Format} {node : Node}
    {settings : RulesetSettings} (h : ofNode? format node = some settings) :
    settings.timeout.ReadsBack := by
  simp only [ofNode?, Option.bind_eq_bind, Option.bind_eq_some_iff] at h
  obtain ⟨fields, -, _, -, _, -, _, -, timeout, htimeout, _, -, _, -, ⟨⟩⟩ := h
  exact Fields.of_get? htimeout (Duration.readsBack_ofSeconds 5)
    fun _ => readsBack_of_durationOfNode?

theorem Settings.readsBack_of_ofNode? {format : Format} {node : Node}
    {settings : Settings} (h : ofNode? format node = some settings) :
    settings.resources.timeout.ReadsBack ∧
      settings.rulesets.timeout.ReadsBack := by
  simp only [ofNode?, Option.bind_eq_bind, Option.bind_eq_some_iff] at h
  obtain ⟨fields, -, resources, hresources, rulesets, hrulesets, ⟨⟩⟩ := h
  constructor
  · exact Fields.of_get? (P := fun settings : ResourceSettings =>
      settings.timeout.ReadsBack) hresources (Duration.readsBack_ofSeconds 5)
      fun _ => ResourceSettings.readsBack_of_ofNode?
  · exact Fields.of_get? (P := fun settings : RulesetSettings =>
      settings.timeout.ReadsBack) hrulesets (Duration.readsBack_ofSeconds 5)
      fun _ => RulesetSettings.readsBack_of_ofNode?

end Policy

namespace Gateway

theorem ServerSettings.readsBack_of_ofNode? {format : Format} {node : Node}
    {settings : ServerSettings} (h : ofNode? format node = some settings) :
    settings.backendTimeout.ReadsBack := by
  simp only [ofNode?, Option.bind_eq_bind, Option.bind_eq_some_iff] at h
  obtain ⟨fields, -, _, -, _, -, _, -, timeout, htimeout, _, -, ⟨⟩⟩ := h
  exact Fields.of_get? htimeout (Duration.readsBack_ofSeconds 30)
    fun _ => Policy.readsBack_of_durationOfNode?

namespace Settings

/-- **Settings whose times are read as they are written.** It is where the two
halves meet: loading makes such settings, and such settings are loaded again. -/
structure KeepsTimes (settings : Settings) : Prop where
  /-- The time of the backend service is. -/
  backend : settings.server.backendTimeout.ReadsBack
  /-- The time of the resource check is. -/
  resources : settings.authorization.resources.timeout.ReadsBack
  /-- The time of the ruleset check is. -/
  rulesets : settings.authorization.rulesets.timeout.ReadsBack

/-- Settings with other times. -/
def withTimes (settings : Settings) (backend resources rulesets : Duration) :
    Settings :=
  { settings with
    server := { settings.server with backendTimeout := backend }
    authorization := settings.authorization.withTimes resources rulesets }

/-- **All settings are read as they are written**, but for their times, which are
what is read of them. -/
theorem ofNode?_toJson (settings : Settings) (format : Format) :
    ofNode? format settings.toJson.node = (do
      let backend ← Duration.parse? settings.server.backendTimeout.text
      let resources ← Duration.parse?
        settings.authorization.resources.timeout.text
      let rulesets ← Duration.parse?
        settings.authorization.rulesets.timeout.text
      return settings.withTimes backend resources rulesets) := by
  unfold ofNode? toJson
  rw [Fields.ofNode?_object rfl rfl]
  simp [ServerSettings.ofNode?_toJson, Policy.Settings.ofNode?_toJson,
    IdentitySettings.ofNode?_toJson, TelemetrySettings.ofNode?_toJson,
    withTimes, Option.bind_assoc]

theorem KeepsTimes.ofNode?_toJson {settings : Settings} (h : settings.KeepsTimes)
    (format : Format) : ofNode? format settings.toJson.node = some settings := by
  rw [Settings.ofNode?_toJson, h.backend, h.resources, h.rulesets]
  rfl

theorem keepsTimes_of_ofNode? {format : Format} {node : Node}
    {settings : Settings} (h : ofNode? format node = some settings) :
    settings.KeepsTimes := by
  simp only [ofNode?, Option.bind_eq_bind, Option.bind_eq_some_iff] at h
  obtain ⟨fields, -, server, hserver, authorization, hauthorization, _, -, _,
    -, ⟨⟩⟩ := h
  have hbackend := Fields.of_get? (P := fun settings : ServerSettings =>
    settings.backendTimeout.ReadsBack) hserver
    (Duration.readsBack_ofSeconds 30)
    fun _ => ServerSettings.readsBack_of_ofNode?
  have hchecks := Fields.of_get? (P := fun settings : Policy.Settings =>
    settings.resources.timeout.ReadsBack ∧
      settings.rulesets.timeout.ReadsBack) hauthorization
    ⟨Duration.readsBack_ofSeconds 5, Duration.readsBack_ofSeconds 5⟩
    fun _ => Policy.Settings.readsBack_of_ofNode?
  exact ⟨hbackend, hchecks.1, hchecks.2⟩

/-- The environment gives no time but one that was read. -/
theorem KeepsTimes.override {settings : Settings} (h : settings.KeepsTimes)
    (lookup : String → Option String) :
    (settings.override lookup).KeepsTimes where
  backend := by
    show (((lookup "TOLLGATE_UPSTREAM_TIMEOUT").bind
      Duration.parse?).getD settings.server.backendTimeout).ReadsBack
    -- the environment gives a time that can be read, or it gives none
    cases hgiven : (lookup "TOLLGATE_UPSTREAM_TIMEOUT").bind
        Duration.parse? with
    | none => exact h.backend
    | some d =>
      obtain ⟨s, -, hs⟩ := Option.bind_eq_some_iff.1 hgiven
      exact Duration.readsBack_of_parse? hs
  resources := h.resources
  rulesets := h.rulesets

/-- All settings that were loaded do. -/
theorem keepsTimes_of_load {path : String} {content : FileContent}
    {settings : Settings} (h : load path content = .ok settings) :
    settings.KeepsTimes := by
  have hfile : readFile ofNode? path content = .ok settings := by
    unfold load at h
    split at h
    · next hfile =>
      cases h
      exact hfile
    · cases h
    · cases h
  obtain ⟨format, node, hnode⟩ := exists_of_readFile hfile
  exact keepsTimes_of_ofNode? hnode

/-- What is loaded from the text of settings is what is read of their
document. -/
theorem load_toText (settings : Settings) {path : String}
    (hending : Record.ending path = "json") :
    load path (.bytes (Text.Utf8.bytes settings.toJson.toText))
      = match ofNode? .json settings.toJson.node with
        | some loaded => .ok loaded
        | none => .error (.settings (FileFault.malformed .json).message) := by
  have hformat : Format.ofEnding? (Record.ending path) = some .json := by
    rw [hending]
    rfl
  have hfits : settings.toJson.fits greatestDepth = true :=
    fits_toJson 121 settings
  unfold load
  rw [readFile_bytes hformat (readText?_toText hfits)]
  cases ofNode? .json settings.toJson.node <;> rfl

/-- Settings whose times are read as they are written are loaded from their
text. -/
theorem KeepsTimes.load_toText {settings : Settings} (h : settings.KeepsTimes)
    {path : String} (hending : Record.ending path = "json") :
    load path (.bytes (Text.Utf8.bytes settings.toJson.toText))
      = .ok settings := by
  rw [Settings.load_toText settings hending, h.ofNode?_toJson]

/-- **Settings that were written are loaded again.** Whatever file they were
loaded from and whatever the environment has changed, the JSON text of the
settings, in a file whose name says that it is JSON, gives the same
settings. -/
theorem load_written {path : String} {content : FileContent}
    {settings : Settings} (h : load path content = .ok settings)
    (lookup : String → Option String) {written : String}
    (hending : Record.ending written = "json") :
    load written (.bytes (Text.Utf8.bytes
        (settings.override lookup).toJson.toText))
      = .ok (settings.override lookup) := by
  have htimes := (keepsTimes_of_load h).override lookup
  exact htimes.load_toText hending

/-- A file with a rule that is judged by a field of the body, and with a time
that is no whole number of seconds. -/
def ordersFile : String :=
  "[authorization.fine_grain]\ntimeout = \"1500ms\"\n"
    ++ "resource_map.\"/orders\".body.\"a\\tb\" = \"$.total\"\n"
    ++ "[telemetry]\nmetrics_port = 9464\n"

/-- The settings in it. -/
def ordersSettings : Settings where
  authorization :=
    { rulesets :=
        { timeout := .ofMilliseconds 1500
          resourceMap := .ofList
            [("/orders", { body := .ofList [("a\tb", "$.total")] })] } }
  telemetry := { metricsPort := some 9464 }

/-- An environment that shortens the time of the backend service. -/
def hastyEnvironment (name : String) : Option String :=
  if name = "TOLLGATE_UPSTREAM_TIMEOUT" then some "250ms" else none

/-- The settings of that file, changed by that environment, are loaded
again. -/
theorem orders_written :
    load "gateway.toml" (.bytes (Text.Utf8.bytes ordersFile))
        = .ok ordersSettings ∧
      load "copy.json" (.bytes (Text.Utf8.bytes
          (ordersSettings.override hastyEnvironment).toJson.toText))
        = .ok (ordersSettings.override hastyEnvironment) := by
  have hload : load "gateway.toml" (.bytes (Text.Utf8.bytes ordersFile))
      = .ok ordersSettings :=
    eq_ok_of_toOption (by decide +kernel)
  exact ⟨hload, load_written hload hastyEnvironment (by decide +kernel)⟩

end Settings

end Gateway

end PolicyGateway
