import Mathlib.Data.List.Basic
import Mathlib.Data.List.TakeWhile
import PolicyGateway.Proofs.Addresses
import PolicyGateway.Proofs.FailClosed
import PolicyGateway.Proofs.Targets
import PolicyGateway.Proofs.TextCuts

/-!
# The place that requests are forwarded to

An address names a place: a scheme, and behind `://` an authority. The settings
name the place of the backend service, and what a client writes is only put
behind it. So the place should stay what it is, whatever the client writes.

It does for every target that starts with a slash, if there is more in the
settings than a scheme and slashes. Slashes at the end are left out before the
target is put there, and a target need not start with a slash. So an asterisk
goes into the authority where this has not come to its end, and where nothing
but slashes stands behind the scheme, the client writes the authority by
itself. `place_kept_iff` says that there is no other case, and
`client_names_place` has one of each kind.

**Why the cases are listed.** Settings that pass the test have a backend address
that starts with `http://` or `https://`, and nothing more is asked of it. So an
address without a host is possible, and so is a target that is no path. The list
in `KeepsPlace` is what it would take to test for.
-/

namespace PolicyGateway

namespace Gateway

open PolicyGateway.Policy

/-- **The place that an address names**: the scheme, and the text between `://`
and the slash, question mark or number sign behind it, or the end. It is read
off the text, with no other rule than where an authority ends. So it says where
a reader of the address would look, before anyone has resolved it. -/
def placeOf? (address : String) : Option (List Char × List Char) :=
  (Text.cutAtText "://".toList address.toList).map fun p =>
    (p.1, p.2.takeWhile (!Uri.endsAuthority ·))

/-- **What an address says behind its scheme**, without slashes at its end. This
is what is left of the address when a target is put behind it: the forwarder
drops slashes from the end, and it does not stop at the scheme. -/
def saidBehind (address : String) : List Char :=
  Text.dropTrailing '/'
    (((Text.cutAtText "://".toList address.toList).map Prod.snd).getD [])

/-- **When the place is kept** once a target is put behind an address. Of a
target nothing is known but its form, a path or an asterisk. -/
inductive KeepsPlace (address target : String) : Prop
  /-- The address says something behind its scheme, and the target is no
  asterisk. -/
  | said (speaks : saidBehind address ≠ []) (plain : target ≠ "*")
  /-- Its authority has come to its end. -/
  | ended (ends : (saidBehind address).any Uri.endsAuthority = true)
  /-- It says nothing, and the target starts with an authority of no
  character. -/
  | empty (silent : saidBehind address = []) (more : List Char)
    (opens : target.toList = '/' :: '/' :: more)
    (unnamed : more.takeWhile (!Uri.endsAuthority ·) = [])

/-- The schemes of an address of the web. In settings that pass the test there
is no other one, and it is in lower case. -/
def IsWebScheme (scheme : String) : Prop :=
  scheme = "http" ∨ scheme = "https"

/-- An address of the web starts with its scheme. -/
theorem exists_of_isWebAddress {url : String}
    (h : Settings.isWebAddress url = true) :
    ∃ scheme behind, IsWebScheme scheme ∧
      url.toList = scheme.toList ++ ("://".toList ++ behind) := by
  unfold Settings.isWebAddress at h
  rcases Bool.or_eq_true_iff.1 h with h | h
  · obtain ⟨behind, hurl⟩ := List.isPrefixOf_iff_prefix.1 h
    exact ⟨"http", behind, .inl rfl, hurl.symm⟩
  · obtain ⟨behind, hurl⟩ := List.isPrefixOf_iff_prefix.1 h
    exact ⟨"https", behind, .inr rfl, hurl.symm⟩

theorem isWebAddress_of_validate {settings : Settings}
    (h : settings.validate = .ok ()) :
    Settings.isWebAddress settings.server.backendUrl = true := by
  unfold Settings.validate at h
  split at h
  · cases h
  · split at h
    · cases h
    · next hweb => simpa using hweb

section Address

variable {address scheme : String} {behind : List Char}
  (hscheme : IsWebScheme scheme)
  (h : address.toList = scheme.toList ++ ("://".toList ++ behind))
include hscheme h

theorem cutAtText_web :
    Text.cutAtText "://".toList address.toList
      = some (scheme.toList, behind) := by
  have hcolon : ':' ∉ scheme.toList := by
    rcases hscheme with rfl | rfl <;> decide
  rw [h]
  exact Text.cutAtText_append hcolon behind

/-- **The place of an address of the web.** -/
theorem placeOf?_web :
    placeOf? address
      = some (scheme.toList, behind.takeWhile (!Uri.endsAuthority ·)) := by
  unfold placeOf?
  rw [cutAtText_web hscheme h]
  rfl

theorem saidBehind_web :
    saidBehind address = Text.dropTrailing '/' behind := by
  unfold saidBehind
  rw [cutAtText_web hscheme h]
  rfl

/-- Slashes at the end of an address are dropped up to what it says behind its
scheme, or up to the colon. In the second case the two slashes of the scheme are
gone as well, and whatever follows has to bring its own. -/
theorem dropTrailing_web :
    Text.dropTrailing '/' address.toList
      = if saidBehind address = [] then scheme.toList ++ [':']
        else scheme.toList ++ ("://".toList ++ saidBehind address) := by
  rw [saidBehind_web hscheme h, h, ← List.append_assoc,
    Text.dropTrailing_append, ← List.append_assoc]
  refine if_congr Iff.rfl ?_ rfl
  rcases hscheme with rfl | rfl <;> decide

/-- What is dropped does not change the authority. A slash ends the authority,
so those at the end are none of its characters. -/
theorem takeWhile_saidBehind :
    behind.takeWhile (!Uri.endsAuthority ·)
      = (saidBehind address).takeWhile (!Uri.endsAuthority ·) := by
  obtain ⟨marks, hmarks, hslashes⟩ := Text.exists_dropTrailing '/' behind
  rw [saidBehind_web hscheme h]
  refine (congrArg (List.takeWhile _) hmarks).trans ?_
  cases marks with
  | nil => rw [List.append_nil]
  | cons c rest =>
    rw [hslashes c List.mem_cons_self]
    exact Http.Url.takeWhile_append_of_head (by decide) _ _

end Address

/-- What names a place starts with its scheme. -/
theorem exists_of_placeOf? {address : String} {scheme authority : List Char}
    (h : placeOf? address = some (scheme, authority)) :
    ∃ behind, address.toList = scheme ++ ("://".toList ++ behind) ∧
      behind.takeWhile (!Uri.endsAuthority ·) = authority := by
  obtain ⟨⟨before, behind⟩, hcut, heq⟩ := Option.map_eq_some_iff.1 h
  cases heq
  exact ⟨behind, Text.cutAtText_eq_some hcut, rfl⟩

/-- **The authority is kept** where something stands in front of the target
exactly if it has come to its end or does not go on in the target. A path ends
it at once, by its first character. An asterisk does not, and would be read as
part of a host or of a port. -/
theorem takeWhile_append_target_iff (front : List Char) {target : String}
    (htarget : target = "" ∨ target = "*" ∨ target.toList.head? = some '/') :
    (front ++ target.toList).takeWhile (!Uri.endsAuthority ·)
        = front.takeWhile (!Uri.endsAuthority ·) ↔
      front.any Uri.endsAuthority = true ∨ target ≠ "*" := by
  cases hends : front.any Uri.endsAuthority with
  | true => simp [Http.Url.takeWhile_append_of_any hends]
  | false =>
    have hall : ∀ c ∈ front, (!Uri.endsAuthority c) = true := fun c hc => by
      rw [Bool.not_eq_true']
      exact Bool.eq_false_iff.2 (List.any_eq_false.1 hends c hc)
    rw [List.takeWhile_append_of_pos hall,
      List.takeWhile_eq_self_iff.2 hall]
    rcases htarget with rfl | rfl | hslash
    · simp
    · simp [Uri.endsAuthority]
    · obtain ⟨rest, hrest⟩ := List.head?_eq_some_iff.1 hslash
      have hplain : target ≠ "*" := by
        rintro rfl
        cases hrest
      rw [hrest, List.takeWhile_cons_of_neg (by decide), List.append_nil]
      simp [hplain]

/-- **When a client cannot choose the place**: the place that the settings name
for the backend service is that of the address for a target in the cases that
`KeepsPlace` lists, and in no other.

It takes both directions to be of use. That the place is kept in these cases is
what one relies on; that it is lost in every other case says that the list
cannot be made longer. -/
theorem place_kept_iff {settings : Settings}
    (hvalid : settings.validate = .ok ()) {target : String} {uri : Uri}
    (huri : Uri.parse target = .ok uri) :
    placeOf? ((Forwarder.ofSettings settings.server).address
        (Service.targetOf uri)) = placeOf? settings.server.backendUrl ↔
      KeepsPlace settings.server.backendUrl (Service.targetOf uri) := by
  obtain ⟨scheme, behind, hscheme, hurl⟩ :=
    exists_of_isWebAddress (isWebAddress_of_validate hvalid)
  have hforms := Uri.targetOf_forms huri
  generalize Service.targetOf uri = written at hforms ⊢
  -- the address is what is left of the configured one, and the target
  have haddress : ((Forwarder.ofSettings settings.server).address
      written).toList
        = Text.dropTrailing '/' settings.server.backendUrl.toList
          ++ written.toList := by
    show (String.ofList _ ++ written).toList = _
    rw [String.toList_append, String.toList_ofList]
  rw [dropTrailing_web hscheme hurl] at haddress
  rw [placeOf?_web hscheme hurl, takeWhile_saidBehind hscheme hurl]
  -- without anything behind the scheme, its slashes are gone as well
  by_cases hsilent : saidBehind settings.server.backendUrl = []
  · rw [if_pos hsilent, List.append_assoc] at haddress
    rw [hsilent, List.takeWhile_nil]
    constructor
    · intro hplace
      obtain ⟨more, hmore, hunnamed⟩ := exists_of_placeOf? hplace
      rw [haddress] at hmore
      exact .empty hsilent more
        (List.cons.inj (List.append_cancel_left hmore)).2 hunnamed
    · rintro (⟨hspeaks, -⟩ | hends | ⟨-, more, hopens, hunnamed⟩)
      · exact absurd hsilent hspeaks
      · rw [hsilent] at hends
        cases hends
      · rw [hopens] at haddress
        rw [placeOf?_web hscheme haddress, hunnamed]
  · rw [if_neg hsilent, List.append_assoc, List.append_assoc] at haddress
    rw [placeOf?_web hscheme haddress, Option.some_inj, Prod.mk.injEq,
      takeWhile_append_target_iff _ hforms, and_iff_right rfl]
    constructor
    · rintro (hends | hplain)
      · exact .ended hends
      · exact .said hsilent hplain
    · rintro (⟨-, hplain⟩ | hends | ⟨hempty, -, -, -⟩)
      · exact .inr hplain
      · exact .inl hends
      · exact absurd hempty hsilent

/-! ### Places that a client names

Both settings below pass the test, and both requests can be received. The second
one leaves the gateway for a host that the settings do not mention. -/

/-- Settings that name no host for the backend service. -/
def hostlessSettings : Settings :=
  { openSettings with server := { backendUrl := "http://" } }

/-- A request that names one. -/
def namesHost : Http.Inbound :=
  { method := "GET"
    uri := .origin ⟨"//elsewhere/notes", none⟩
    headers := {}
    body := {} }

/-- An asterisk becomes part of the authority. And where the settings name no
host, a request that is allowed goes to the one that it names itself. -/
theorem client_names_place :
    (openSettings.validate = .ok () ∧
      Uri.parse "*" = .ok (.origin ⟨"*", none⟩) ∧
      placeOf? ((Forwarder.ofSettings openSettings.server).address
          (Service.targetOf (.origin ⟨"*", none⟩)))
        ≠ placeOf? openSettings.server.backendUrl) ∧
    (hostlessSettings.validate = .ok () ∧
      Uri.parse "//elsewhere/notes" = .ok namesHost.uri ∧
      placeOf? ((Forwarder.ofSettings hostlessSettings.server).address
          (Service.targetOf namesHost.uri))
        ≠ placeOf? hostlessSettings.server.backendUrl ∧
      ∃ service, Service.ofSettings hostlessSettings = .ok service ∧
        (service.handle (fun _ => .closed) ⟨"1", 0, none⟩
          namesHost).backendCalls.map (·.url.authority.host)
            = ["elsewhere"]) := by
  have hasterisk : Uri.parse "*" = .ok (.origin ⟨"*", none⟩) := rfl
  have hnaming : Uri.parse "//elsewhere/notes" = .ok namesHost.uri :=
    eq_ok_of_toOption (by decide +kernel)
  have hvalid : openSettings.validate = .ok () :=
    eq_ok_of_toOption (by decide +kernel)
  have hvalid' : hostlessSettings.validate = .ok () :=
    eq_ok_of_toOption (by decide +kernel)
  refine ⟨⟨hvalid, hasterisk, fun hkept => ?_⟩, hvalid', hnaming,
    fun hkept => ?_, _, rfl, by decide +kernel⟩
  · rcases (place_kept_iff hvalid hasterisk).1 hkept with
      ⟨-, hplain⟩ | hends | ⟨hsilent, -, -, -⟩
    · exact hplain (by decide)
    · exact absurd hends (by decide +kernel)
    · exact absurd hsilent (by decide +kernel)
  · rcases (place_kept_iff hvalid' hnaming).1 hkept with
      ⟨hspeaks, -⟩ | hends | ⟨-, more, hopens, hunnamed⟩
    · exact hspeaks (by decide +kernel)
    · exact absurd hends (by decide +kernel)
    · have hwritten : (Service.targetOf namesHost.uri).toList
          = '/' :: '/' :: "elsewhere/notes".toList := by decide +kernel
      rw [hwritten, List.cons.injEq, List.cons.injEq] at hopens
      rw [← hopens.2.2] at hunnamed
      exact absurd hunnamed (by decide +kernel)

end Gateway

end PolicyGateway
