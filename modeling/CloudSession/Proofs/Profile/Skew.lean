/-
When the skew of a profile breaks a check down. Moving an instant by whole
seconds changes its second by as many, up to the end of a leap second
(`second_shift`), and fails exactly if that leaves the range of instants. No
other part of a profile matters: what is wrong with it is reported before its
skew is looked at (`config_of_sound`, `config_eq_error`). So a check breaks down
exactly if the profile is in order but for its skew, and the skew is either no
span of time at all or takes the clock out of range when an expiry is looked at
(`verdict_breaks_iff`).
-/
import CloudSession.Profile.Config
import CloudSession.Proofs.Microversion
import CloudSession.Proofs.Session.Handshakes
import CloudSession.Proofs.Time.RoundTrip

namespace CloudSession

-- ================================================================== instants

namespace Instant

/-- The second in which an instant lies that is moved by whole seconds. Out of a
leap second one moves back from the second after it. -/
def movedSecond (i : Instant) (seconds : Int) : Int :=
  i.second + seconds + if nanosPerSecond ≤ i.nano ∧ seconds < 0 then 1 else 0

theorem second_shift {i : Instant} (h : i.nano < 2 * nanosPerSecond) (seconds : Int) :
    (i.shift (seconds * nanosPerSecond)).second = i.movedSecond seconds := by
  have hwhole : (seconds * (nanosPerSecond : Int)).tdiv nanosPerSecond = seconds :=
    Int.mul_tdiv_cancel _ (by decide)
  have hnone : (seconds * (nanosPerSecond : Int)).tmod nanosPerSecond = 0 :=
    Int.mul_tmod_left _ _
  simp only [shift, hwhole, hnone, movedSecond]
  rcases Nat.lt_or_ge i.nano nanosPerSecond with hplain | hleap
  · rw [if_pos hplain, if_neg (by omega)]
    simp only [nanosPerSecond] at hplain ⊢
    omega
  · rw [if_neg (by omega)]
    rcases Int.lt_trichotomy seconds 0 with hback | hstill | hforth
    · rw [if_neg (by simp; omega), if_pos hback, if_pos ⟨hleap, hback⟩]
      simp only [nanosPerSecond] at h hleap ⊢
      omega
    · rw [if_neg (by simp [hstill]), if_neg (by omega), if_neg (by omega)]
      simp only
      omega
    · rw [if_pos (by simp [hforth]), if_neg (by omega)]
      simp only [nanosPerSecond] at h hleap ⊢
      omega

/-- Moving by whole seconds fails exactly out of range. -/
theorem add?_eq_none_iff {i : Instant} (h : i.nano < 2 * nanosPerSecond) (seconds : Int) :
    i.add? (seconds * nanosPerSecond) = none ↔
      i.movedSecond seconds < minSecond ∨ maxSecond < i.movedSecond seconds := by
  have hrange : (i.shift (seconds * nanosPerSecond)).inRange = true ↔
      minSecond ≤ i.movedSecond seconds ∧ i.movedSecond seconds ≤ maxSecond := by
    rw [inRange, second_shift h, Bool.and_eq_true, decide_eq_true_eq, decide_eq_true_eq]
  simp only [add?, hrange, ite_eq_right_iff, reduceCtorEq, imp_false, not_and_or, Int.not_le]

end Instant

/-- The clock matters only to a token that expires. -/
theorem Context.isValid_eq_none_iff {x : Context} {now : Instant} {skew : Int} :
    x.isValid now skew = none ↔
      x.token.isEmpty = false ∧ x.expires.isSome ∧ now.add? skew = none := by
  unfold Context.isValid
  cases x.token.isEmpty <;> cases x.expires <;> simp

namespace Client

variable {c : Client}

/-- A check fails only for the clock. -/
theorem outcome_isValid_eq (x : Context) (s : Scene) :
    ((c.isValid x).outcome s).1 = match x.isValid s.outside.now c.skew with
      | some valid => .ok valid
      | none => .error .clockRange := by
  rw [isValid, Action.outcome_bind_ok (Action.outcome_now s)]
  cases x.isValid s.outside.now c.skew <;> rfl

end Client

-- ============================================================= configurations

/-- What is wrong with a selector is wrong with the configuration. -/
theorem Selector.validate_eq_error {s : Selector} {e : SessionError}
    (h : s.validate = .error e) : ∃ fault, e = .configuration fault := by
  unfold Selector.validate Selector.microversion? at h
  split at h
  · exact ⟨_, (Except.error.inj h).symm⟩
  · split at h
    · exact nomatch h
    · next text _ =>
      cases hparse : Microversion.parse text with
      | ok m => exact nomatch (hparse ▸ h)
      | error fault =>
        obtain ⟨-, rfl⟩ := Microversion.parse_eq_error_iff.mp hparse
        rw [hparse] at h
        exact ⟨_, (Except.error.inj h).symm⟩

theorem Handshake.validate_eq_error {i : Identity} {e : SessionError}
    (h : validate i = .error e) : ∃ fault, e = .configuration fault := by
  unfold validate at h
  split_ifs at h
  · exact ⟨_, (Except.error.inj h).symm⟩
  · exact ⟨_, (Except.error.inj h).symm⟩

theorem Protocol.named_eq_error {text : String} {e : SessionError}
    (h : named text = .error e) : ∃ fault, e = .configuration fault := by
  unfold named at h
  split at h
  · exact nomatch h
  · exact ⟨_, (Except.error.inj h).symm⟩

-- ==================================================================== profiles

namespace Profile

variable {p : Profile} {name : String} {environment : String → Option String}
  {protocol : Protocol} {secret : String}

/-- A profile that is in order but, perhaps, for its skew: its protocol is known,
there is a secret, and what it fixes can be. -/
structure Sound (p : Profile) (name : String) (environment : String → Option String)
    (protocol : Protocol) (secret : String) : Prop where
  protocol : Protocol.named p.protocol = .ok protocol
  secret : p.findSecret name environment = .ok secret
  selector : ∃ microversion, p.selector.validate = .ok microversion

/-- The configuration of a profile that is in order. -/
def soundConfig (p : Profile) (protocol : Protocol) (secret : String) : Config where
  identity := ⟨protocol, p.authUrl, ⟨p.userId, secret⟩, p.scope⟩
  selector := p.selector
  defaults := p.service
  skew := p.skewSeconds * 1000000000
  evictsForced := p.evictsForced
  sharesStore := false

theorem config_of_sound (h : p.Sound name environment protocol secret) :
    p.config name environment =
      if maxSkewSeconds < p.skewSeconds.natAbs then .error .skewRange
      else .ok (p.soundConfig protocol secret) := by
  obtain ⟨microversion, hselector⟩ := h.selector
  simp only [config, h.protocol, h.secret, hselector, Except.mapError]
  split_ifs <;> rfl

/-- Whether a failure is a breakdown: a time that lies out of range. -/
def isBreakdown : ProfileError ⊕ SessionError → Bool
  | .inl .skewRange => true
  | .inl (.invalid _ .clockRange) => true
  | .inr .clockRange => true
  | _ => false

/-- Of a profile that is not in order something else is reported. -/
theorem config_eq_error (h : ¬∃ protocol secret, p.Sound name environment protocol secret) :
    ∃ e, p.config name environment = .error e ∧ isBreakdown (.inl e) = false := by
  cases hprotocol : Protocol.named p.protocol with
  | error e =>
    obtain ⟨fault, rfl⟩ := Protocol.named_eq_error hprotocol
    exact ⟨.invalid name (.configuration fault), by simp only [config, hprotocol]; rfl, rfl⟩
  | ok protocol =>
    cases hsecret : p.findSecret name environment with
    | error e =>
      have he : e = .noSecret name p.secretVariable := by
        unfold findSecret at hsecret
        split at hsecret
        · exact nomatch hsecret
        · exact nomatch hsecret
        · exact nomatch hsecret
        · exact (Except.error.inj hsecret).symm
      subst he
      exact ⟨_, by simp only [config, hprotocol, hsecret]; rfl, rfl⟩
    | ok secret =>
      cases hselector : p.selector.validate with
      | error e =>
        obtain ⟨fault, rfl⟩ := Selector.validate_eq_error hselector
        exact ⟨.invalid name (.configuration fault),
          by simp only [config, hprotocol, hsecret, hselector]; rfl, rfl⟩
      | ok microversion => exact absurd ⟨protocol, secret, hprotocol, hsecret, _, hselector⟩ h

-- ====================================================================== checks

/-- Makes the client of a profile and has it check a context at the time of a
scene. -/
def verdict (p : Profile) (name : String) (environment : String → Option String) (x : Context)
    (s : Scene) : Except (ProfileError ⊕ SessionError) Bool :=
  match p.config name environment with
  | .error e => .error (.inl e)
  | .ok config =>
    match Client.ofConfig config with
    | .error e => .error (.inr e)
    | .ok c => ((c.isValid x).outcome s).1.mapError .inr

variable {x : Context} {s : Scene}

/-- A client breaks a check down only by moving the clock out of range. -/
theorem verdict_of_client {config : Config} {c : Client}
    (hconfig : p.config name environment = .ok config) (hclient : Client.ofConfig config = .ok c) :
    (∃ e, p.verdict name environment x s = .error e ∧ isBreakdown e = true) ↔
      x.isValid s.outside.now c.skew = none := by
  simp only [verdict, hconfig, hclient, Client.outcome_isValid_eq]
  cases x.isValid s.outside.now c.skew with
  | none => exact iff_of_true ⟨.inr .clockRange, rfl, rfl⟩ rfl
  | some valid => simp [Except.mapError]

/-- The skew of a profile is no span of time, or its client has a token that
expires and moves the clock out of range to check it. -/
def Strays (p : Profile) (protocol : Protocol) (secret : String) (x : Context) (now : Instant) :
    Prop :=
  maxSkewSeconds < p.skewSeconds.natAbs ∨
    Handshake.validate (p.soundConfig protocol secret).identity = .ok () ∧
      x.token.isEmpty = false ∧ x.expires.isSome ∧
      (now.movedSecond p.skewSeconds < Instant.minSecond ∨
        Instant.maxSecond < now.movedSecond p.skewSeconds)

theorem verdict_of_sound (hsound : p.Sound name environment protocol secret)
    (hnow : s.outside.now.nano < 2 * Instant.nanosPerSecond) :
    (∃ e, p.verdict name environment x s = .error e ∧ isBreakdown e = true) ↔
      p.Strays protocol secret x s.outside.now := by
  have hconfig := config_of_sound hsound
  split_ifs at hconfig with hskew
  · exact iff_of_true ⟨.inl .skewRange, by rw [verdict, hconfig], rfl⟩ (.inl hskew)
  obtain ⟨microversion, hselector⟩ := hsound.selector
  cases hidentity : Handshake.validate (p.soundConfig protocol secret).identity with
  | error e =>
    obtain ⟨fault, rfl⟩ := Handshake.validate_eq_error hidentity
    have hverdict : p.verdict name environment x s = .error (.inr (.configuration fault)) := by
      simp only [verdict, hconfig, Client.ofConfig, hidentity]
    simp [hverdict, isBreakdown, Strays, hskew, hidentity]
  | ok _ =>
    have hclient : Client.ofConfig (p.soundConfig protocol secret) = .ok
        ⟨(p.soundConfig protocol secret).identity, p.selector, microversion, p.service,
          p.skewSeconds * 1000000000, p.evictsForced⟩ := by
      have hselector : (p.soundConfig protocol secret).selector.validate = .ok microversion :=
        hselector
      simp only [Client.ofConfig, hidentity, hselector]
      rfl
    rw [verdict_of_client hconfig hclient, Context.isValid_eq_none_iff]
    have hadd : s.outside.now.add? (p.skewSeconds * 1000000000) = none ↔ _ :=
      Instant.add?_eq_none_iff hnow p.skewSeconds
    simp only [hadd, Strays, hskew, hidentity, false_or, true_and]

/-- Putting a profile to use breaks down exactly if it is in order but for its
skew, and its skew strays from what time can be computed. -/
theorem verdict_breaks_iff (hnow : s.outside.now.WellFormed) :
    (∃ e, p.verdict name environment x s = .error e ∧ isBreakdown e = true) ↔
      ∃ protocol secret, p.Sound name environment protocol secret ∧
        p.Strays protocol secret x s.outside.now := by
  have hnano : s.outside.now.nano < 2 * Instant.nanosPerSecond := by
    rcases hnow.nano with h | h
    · exact Nat.lt_of_lt_of_le h (by decide)
    · exact h.1
  constructor
  · intro hbreaks
    by_cases hsound : ∃ protocol secret, p.Sound name environment protocol secret
    · obtain ⟨protocol, secret, hsound⟩ := hsound
      exact ⟨protocol, secret, hsound, (verdict_of_sound hsound hnano).mp hbreaks⟩
    · obtain ⟨e, hconfig, he⟩ := config_eq_error hsound
      obtain ⟨e', hverdict, he'⟩ := hbreaks
      simp only [verdict, hconfig, Except.error.injEq] at hverdict
      rw [← hverdict, he] at he'
      exact absurd he' (by decide)
  · intro hstrays
    obtain ⟨protocol, secret, hsound, hstrays⟩ := hstrays
    exact (verdict_of_sound hsound hnano).mpr hstrays

end Profile

namespace Sample

/-- A profile with a skew. -/
def profile (skewSeconds : Int) : Profile where
  protocol := "2.0"
  authUrl := "https://id.example.com"
  userId := "alice"
  secret := some "secret"
  secretEnv := none
  tokenScope := .project
  domainName := none
  tenantName := none
  tenantDomainId := none
  service := .compute
  interface := none
  baseUrl := none
  token := none
  microversion := none
  skewSeconds := skewSeconds
  evictsForced := false

/-- A context that expires with the year 2030. -/
def lasting : Context := ⟨"T", some ⟨1924991999, 0⟩, none, .arr []⟩

/-- Nothing done yet, at the beginning of that year. -/
def newYear : Scene := ⟨.initial, ⟨⟨1893456000, 0⟩, ⟨[], []⟩, none, []⟩⟩

end Sample

/-- The longest skew there is takes the clock out of range. -/
theorem verdict_breaks_longest :
    Sample.newYear.outside.now.WellFormed ∧
      ∃ e, (Sample.profile 9223372036854775).verdict "default" (fun _ => none) Sample.lasting
        Sample.newYear = .error e ∧ Profile.isBreakdown e = true := by
  have hnow : Sample.newYear.outside.now.WellFormed :=
    ⟨by decide, .inl (by decide)⟩
  refine ⟨hnow, (Profile.verdict_breaks_iff hnow).mpr ?_⟩
  refine ⟨.keystone .v2Password, "secret", ⟨rfl, rfl, none, rfl⟩, .inr ⟨rfl, rfl, rfl, .inr ?_⟩⟩
  decide

/-- A check breaks down for a skew that is no span of time, and for one that the
clock cannot be moved by. -/
theorem verdict_breaks_down :
    (Sample.profile 9223372036854775807).verdict "default" (fun _ => none) Sample.lasting
        Sample.newYear = .error (.inl .skewRange) ∧
      (Sample.profile 9223372036854775).verdict "default" (fun _ => none) Sample.lasting
        Sample.newYear = .error (.inr .clockRange) :=
  ⟨by rfl, by rfl⟩

end CloudSession
