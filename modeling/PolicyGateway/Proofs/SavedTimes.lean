import PolicyGateway.Proofs.DurationText
import PolicyGateway.Proofs.SettingsText

/-!
# Times in settings that are saved

Settings can be put together in memory, with any duration as a time, and saved as
JSON. A duration is written in the unit that keeps what is beyond its whole seconds,
which is milliseconds, and their number is read as one word. So two kinds of
duration do not come back from their text. What is below a millisecond is not
written, and a duration that has nothing else comes back as no time at all. And the
milliseconds of a duration whose seconds nearly fill a word do not fit one, so that
its text is refused, and with it the settings that it stands in.

No text at all is read as such a duration, and every other one comes back
(`Duration.ComesBack`). `Gateway.Settings.times_survive_iff` says so of durations
and of settings; in `Gateway.Settings.patient_refused` the greatest duration there
is, and half a millisecond, are saved.

**Why the unit is at fault.** Seconds and milliseconds are both read as a number
that fits a word. In seconds every duration has such a number, since its seconds
are a word. In milliseconds the number is a thousand times as large, and for
long durations it is too large. Times as long as this are not meant to be waited
for; but half a millisecond is a time to wait, and what it comes back as is
none.
-/

namespace PolicyGateway

open PolicyGateway.Record

/-! ## Durations

All of it is about the length in nanoseconds. Whether a duration comes back,
whether its text is refused, and what is lost of it otherwise, can each be read
off that number. -/

namespace Duration

/-- **What a duration comes back as** when it is written and read. -/
structure ComesBack (d : Duration) : Prop where
  /-- It comes back as it was exactly if its milliseconds are whole and the number
  it is written with fits a word. -/
  same_iff : parse? d.text = some d ↔
    d.IsLegible ∧ 1000000 ∣ d.inNanoseconds
  /-- No other duration is read from any text. -/
  any_text_iff : parse? d.text = some d ↔ ∃ s, parse? s = some d
  /-- Its text is refused exactly if that number does not fit. -/
  refused_iff : parse? d.text = none ↔ ¬ d.IsLegible
  /-- Otherwise it comes back in whole milliseconds. -/
  cut : ∀ back, parse? d.text = some back →
    back.inNanoseconds = d.inNanoseconds / 1000000 * 1000000
  /-- It comes back as no time exactly if it is shorter than a millisecond. -/
  nothing_iff : parse? d.text = some (ofSeconds 0) ↔ d.inNanoseconds < 1000000

/-- Every duration comes back so. -/
theorem comesBack (d : Duration) : d.ComesBack where
  same_iff := readsBack_iff
  any_text_iff := ⟨fun h => ⟨d.text, h⟩, fun ⟨_, hs⟩ => readsBack_of_parse? hs⟩
  refused_iff := by
    rw [parse?_text]
    exact ite_eq_right_iff.trans (by simp)
  cut back h := by
    rw [parse?_text] at h
    split at h
    · cases h
      exact d.inNanoseconds_truncated
    · cases h
  nothing_iff := by
    have hzero : (ofSeconds 0).inNanoseconds = 0 := rfl
    rw [parse?_text]
    constructor
    · intro h
      split at h
      · have hlength := d.inNanoseconds_truncated
        rw [Option.some.inj h, hzero] at hlength
        omega
      · cases h
    · intro h
      have hnone : d.inNanoseconds / 1000000 = 0 := Nat.div_eq_of_lt h
      -- no milliseconds at all are a number that fits
      have hlegible : d.IsLegible := .inr (by rw [hnone]; decide)
      rw [if_pos hlegible, Option.some.injEq, ← inNanoseconds_inj,
        inNanoseconds_truncated, hnone, Nat.zero_mul, hzero]

end Duration

/-! ## Settings

Settings have three times, one for the backend service and one for each check.
One of them whose text is refused is enough for all settings to be refused. -/

namespace Gateway.Settings

/-- The times in settings. -/
def times (settings : Settings) : List Duration :=
  [settings.server.backendTimeout, settings.authorization.resources.timeout,
    settings.authorization.rulesets.timeout]

theorem forall_mem_times {settings : Settings} {P : Duration → Prop} :
    (∀ d ∈ settings.times, P d) ↔ P settings.server.backendTimeout ∧
      P settings.authorization.resources.timeout ∧
      P settings.authorization.rulesets.timeout := by
  simp [times]

/-- Settings without what is below a millisecond in their times. -/
def truncated (settings : Settings) : Settings :=
  settings.withTimes settings.server.backendTimeout.truncated
    settings.authorization.resources.timeout.truncated
    settings.authorization.rulesets.timeout.truncated

/-- Settings are read in whole milliseconds, if the numbers of their times fit. -/
theorem ofNode?_toJson_eq_ite (settings : Settings) (format : Format) :
    ofNode? format settings.toJson.node
      = if ∀ d ∈ settings.times, d.IsLegible then some settings.truncated
        else none := by
  rw [ofNode?_toJson]
  simp only [Duration.parse?_text, forall_mem_times]
  -- one time whose number does not fit is enough
  by_cases hbackend : settings.server.backendTimeout.IsLegible
  · by_cases hresources :
        settings.authorization.resources.timeout.IsLegible
    · by_cases hrulesets :
          settings.authorization.rulesets.timeout.IsLegible
      · simp [hbackend, hresources, hrulesets, truncated]
      · simp [hbackend, hresources, hrulesets]
    · simp [hbackend, hresources]
  · simp [hbackend]

theorem truncated_eq_self_iff {settings : Settings} :
    settings.truncated = settings ↔
      ∀ d ∈ settings.times, 1000000 ∣ d.inNanoseconds := by
  rw [forall_mem_times]
  simp only [← Duration.truncated_eq_self_iff]
  constructor
  · intro h
    have hserver := congrArg Settings.server h
    have hchecks := congrArg Settings.authorization h
    exact ⟨congrArg ServerSettings.backendTimeout hserver,
      congrArg (·.resources.timeout) hchecks,
      congrArg (·.rulesets.timeout) hchecks⟩
  · rintro ⟨hbackend, hresources, hrulesets⟩
    unfold truncated
    rw [hbackend, hresources, hrulesets]
    rfl

/-- **What settings come back as** from their text. -/
structure ComesBack (settings : Settings) (loaded : Except Failure Settings) :
    Prop where
  /-- They come back as they were exactly if all their times do. -/
  same_iff : loaded = .ok settings ↔
    ∀ d ∈ settings.times, d.IsLegible ∧ 1000000 ∣ d.inNanoseconds
  /-- They come back at all exactly if the number of each time fits a word. -/
  loaded_iff : (∃ back, loaded = .ok back) ↔
    ∀ d ∈ settings.times, d.IsLegible
  /-- Then nothing is lost but what is below a millisecond. -/
  cut : ∀ back, loaded = .ok back → back = settings.truncated

/-- **Which times survive.** Every duration comes back from its text, and all
settings from theirs, as `Duration.ComesBack` and `ComesBack` say. -/
theorem times_survive_iff {path : String}
    (hending : Record.ending path = "json") :
    (∀ d : Duration, d.ComesBack) ∧
      ∀ settings : Settings, settings.ComesBack
        (load path (.bytes (Text.Utf8.bytes settings.toJson.toText))) := by
  refine ⟨Duration.comesBack, fun settings => ?_⟩
  rw [load_toText settings hending, ofNode?_toJson_eq_ite]
  by_cases hlegible : ∀ d ∈ settings.times, d.IsLegible
  · rw [if_pos hlegible]
    refine ⟨?_, iff_of_true ⟨_, rfl⟩ hlegible, fun back h => ?_⟩
    · rw [Except.ok.injEq, truncated_eq_self_iff]
      exact forall₂_congr fun d hd => (and_iff_right (hlegible d hd)).symm
    · cases h
      rfl
  · rw [if_neg hlegible]
    dsimp only
    generalize Failure.settings _ = failure
    have hrefused : ∀ back, (Except.error failure : Except Failure Settings)
        ≠ .ok back := fun _ h => by cases h
    exact ⟨iff_of_false (hrefused _) fun h => hlegible fun d hd => (h d hd).1,
      iff_of_false (fun ⟨back, hback⟩ => hrefused back hback) hlegible,
      fun back hback => absurd hback (hrefused back)⟩

/-- Settings that wait for the backend service as long as can be said. -/
def patientSettings : Settings where
  server :=
    { backendTimeout :=
        { seconds := Duration.greatestSeconds
          nanoseconds := 999999999
          seconds_lt := by decide
          nanoseconds_lt := by decide } }

/-- Settings that wait for it half a millisecond. -/
def hastySettings : Settings where
  server :=
    { backendTimeout :=
        { seconds := 0
          nanoseconds := 500000
          seconds_lt := by decide
          nanoseconds_lt := by decide } }

/-- The first are refused once they are saved, and the second come back without any
time to wait. -/
theorem patient_refused :
    patientSettings.server.backendTimeout.text = "18446744073709551615999ms" ∧
      (∀ back, load "saved.json" (.bytes (Text.Utf8.bytes
        patientSettings.toJson.toText)) ≠ .ok back) ∧
      hastySettings.server.backendTimeout ≠ .ofSeconds 0 ∧
      ∃ back, load "saved.json" (.bytes (Text.Utf8.bytes
          hastySettings.toJson.toText)) = .ok back ∧
        back.server.backendTimeout = .ofSeconds 0 := by
  obtain ⟨-, hsettings⟩ :=
    @times_survive_iff "saved.json" (by decide +kernel)
  have hpatient := (hsettings patientSettings).loaded_iff
  have hhasty := (hsettings hastySettings).loaded_iff
  have hbeyond : ¬ ∀ d ∈ patientSettings.times, d.IsLegible := by
    decide +kernel
  obtain ⟨back, hback⟩ := hhasty.2 (by decide +kernel)
  have hcut := (hsettings hastySettings).cut back hback
  refine ⟨by decide +kernel, fun other hother => hbeyond (hpatient.1 ⟨other, hother⟩),
    by decide +kernel, back, hback, ?_⟩
  rw [hcut]
  decide +kernel

end Gateway.Settings

end PolicyGateway
