/-
What is asked of a profile before there is a client of it. A profile has a
configuration if it meets four demands, and else the first one that it does not
meet is reported (`config_of_firstUnmet`). The client of the configuration asks
for some of it again, but finds nothing wrong that was asked for before: it fails
only for what the handshake needs of the identity (`ofConfig_error_iff`).
-/
import CloudSession.Proofs.Profile.Skew

namespace CloudSession

-- =================================================================== protocols

namespace Protocol

theorem mem_all (p : Protocol) : p ∈ all := by
  cases p with
  | keystone k => cases k <;> decide
  | vcloud v => cases v <;> decide

theorem ofName?_eq_none_iff {text : String} :
    ofName? text = none ↔
      ¬∃ p : Protocol, p.id = Text.trim text ∨ p.alias? = some (Text.trim text) := by
  rw [ofName?, List.find?_eq_none]
  simp [mem_all]

end Protocol

namespace Profile

-- ===================================================================== demands

/-- What is asked of a profile, in this order. -/
inductive Demand
  | protocol
  | secret
  | baseUrl
  | microversion
deriving DecidableEq

/-- The demands that come before one. -/
def Demand.before : Demand → List Demand
  | .protocol => []
  | .secret => [.protocol]
  | .baseUrl => [.protocol, .secret]
  | .microversion => [.protocol, .secret, .baseUrl]

/-- Whether a profile meets a demand in an environment: its protocol is known; it
has a secret or a forced token, or the environment has the secret; a forced token
comes with a base URL; a microversion has one word or two. -/
def Meets (p : Profile) (environment : String → Option String) : Demand → Prop
  | .protocol =>
    ∃ q : Protocol, q.id = Text.trim p.protocol ∨ q.alias? = some (Text.trim p.protocol)
  | .secret =>
    p.secret.isSome ∨ (environment (p.secretEnv.getD "NIMBUS_SECRET")).isSome ∨ p.token.isSome
  | .baseUrl => p.token.isSome → p.baseUrl.isSome
  | .microversion =>
    ∀ text, p.microversion = some text → (Text.words text.toList).length ∈ [1, 2]

/-- What is reported of a profile that does not meet a demand. -/
def unmet (p : Profile) (name : String) : Demand → ProfileError
  | .protocol => .invalid name (.configuration (.unknownProtocol (Text.trim p.protocol)))
  | .secret => .noSecret name (p.secretEnv.getD "NIMBUS_SECRET")
  | .baseUrl => .invalid name (.configuration .tokenWithoutBaseUrl)
  | .microversion => .invalid name (.configuration (.microversion (p.microversion.getD "")))

/-- The first demand that a profile does not meet. -/
structure FirstUnmet (p : Profile) (environment : String → Option String) (d : Demand) :
    Prop where
  before : ∀ d' ∈ d.before, p.Meets environment d'
  unmet : ¬p.Meets environment d

section Checks

variable {p : Profile} {name : String} {environment : String → Option String}

theorem exists_firstUnmet (h : ¬∀ d, p.Meets environment d) :
    ∃ d, p.FirstUnmet environment d := by
  by_cases hprotocol : p.Meets environment .protocol
  · by_cases hsecret : p.Meets environment .secret
    · by_cases hbaseUrl : p.Meets environment .baseUrl
      · refine ⟨.microversion, by simp [Demand.before, hprotocol, hsecret, hbaseUrl], ?_⟩
        exact fun hmicroversion => h fun d => by cases d <;> assumption
      · exact ⟨.baseUrl, by simp [Demand.before, hprotocol, hsecret], hbaseUrl⟩
    · exact ⟨.secret, by simp [Demand.before, hprotocol], hsecret⟩
  · exact ⟨.protocol, by simp [Demand.before], hprotocol⟩

-- ====================================================================== checks

theorem named_of_meets (h : p.Meets environment .protocol) :
    ∃ q, Protocol.named p.protocol = .ok q := by
  unfold Protocol.named
  cases hname : Protocol.ofName? p.protocol with
  | none => exact absurd h (Protocol.ofName?_eq_none_iff.mp hname)
  | some q => exact ⟨q, rfl⟩

theorem named_of_unmet (h : ¬p.Meets environment .protocol) :
    Protocol.named p.protocol
      = .error (.configuration (.unknownProtocol (Text.trim p.protocol))) := by
  rw [Protocol.named, Protocol.ofName?_eq_none_iff.mpr h]

theorem findSecret_of_meets (name : String) (h : p.Meets environment .secret) :
    ∃ secret, p.findSecret name environment = .ok secret := by
  unfold findSecret
  split
  · exact ⟨_, rfl⟩
  · exact ⟨_, rfl⟩
  · exact ⟨_, rfl⟩
  · next hsecret hvariable htoken =>
    rw [secretVariable] at hvariable
    exact absurd h (by simp [Meets, hsecret, hvariable, htoken])

theorem findSecret_of_unmet (h : ¬p.Meets environment .secret) :
    p.findSecret name environment = .error (p.unmet name .secret) := by
  simp only [Meets, not_or, Bool.not_eq_true, Option.isSome_eq_false_iff, Option.isNone_iff_eq_none]
    at h
  obtain ⟨hsecret, hvariable, htoken⟩ := h
  rw [findSecret, hsecret, secretVariable, hvariable, htoken]
  rfl

theorem validate_of_unmet (h : ¬p.Meets environment .baseUrl) :
    p.selector.validate = .error (.configuration .tokenWithoutBaseUrl) := by
  have hforced : (p.selector.token.isSome && p.selector.baseUrl.isNone) = true := by
    simpa [Meets, selector] using h
  rw [Selector.validate, if_pos hforced]

/-- A selector in which a forced token has a base URL is as good as its microversion. -/
theorem validate_of_meets (h : p.Meets environment .baseUrl) :
    p.selector.validate = p.selector.microversion? := by
  have hforced : (p.selector.token.isSome && p.selector.baseUrl.isNone) = false := by
    simpa [Meets, selector] using h
  rw [Selector.validate, if_neg (by simp [hforced])]

theorem microversion?_of_meets (h : p.Meets environment .microversion) :
    ∃ microversion, p.selector.microversion? = .ok microversion := by
  unfold Selector.microversion?
  split
  · exact ⟨_, rfl⟩
  · next text htext =>
    obtain ⟨m, hparse⟩ := Microversion.exists_parse_iff.mpr (h text htext)
    exact ⟨some m, by rw [hparse, Except.map]⟩

theorem microversion?_of_unmet (h : ¬p.Meets environment .microversion) :
    p.selector.microversion?
      = .error (.configuration (.microversion (p.microversion.getD ""))) := by
  obtain ⟨text, htext, hlength⟩ : ∃ text, p.microversion = some text ∧
      (Text.words text.toList).length ∉ [1, 2] := by
    simpa only [Meets, not_forall, exists_prop] using h
  have htext' : p.selector.microversion = some text := htext
  rw [Selector.microversion?, htext', htext]
  exact congrArg (Except.map some) (Microversion.parse_eq_error_iff.mpr ⟨hlength, rfl⟩)

-- ============================================================= configurations

/-- A profile that meets all demands is in order. -/
theorem sound_of_meets (name : String) (h : ∀ d, p.Meets environment d) :
    ∃ protocol secret, p.Sound name environment protocol secret := by
  obtain ⟨protocol, hprotocol⟩ := named_of_meets (h .protocol)
  obtain ⟨secret, hsecret⟩ := findSecret_of_meets name (h .secret)
  exact ⟨protocol, secret, hprotocol, hsecret,
    validate_of_meets (h .baseUrl) ▸ microversion?_of_meets (h .microversion)⟩

/-- The first demand that is not met is reported. -/
theorem config_of_firstUnmet {d : Demand} (h : p.FirstUnmet environment d) :
    p.config name environment = .error (p.unmet name d) := by
  cases d with
  | protocol =>
    simp only [config, named_of_unmet h.unmet]
    rfl
  | secret =>
    obtain ⟨protocol, hprotocol⟩ := named_of_meets (h.before .protocol (by decide))
    simp only [config, hprotocol, findSecret_of_unmet h.unmet]
    rfl
  | baseUrl =>
    obtain ⟨protocol, hprotocol⟩ := named_of_meets (h.before .protocol (by decide))
    obtain ⟨secret, hsecret⟩ := findSecret_of_meets name (h.before .secret (by decide))
    simp only [config, hprotocol, hsecret, validate_of_unmet h.unmet]
    rfl
  | microversion =>
    obtain ⟨protocol, hprotocol⟩ := named_of_meets (h.before .protocol (by decide))
    obtain ⟨secret, hsecret⟩ := findSecret_of_meets name (h.before .secret (by decide))
    have hbaseUrl := validate_of_meets (h.before .baseUrl (by decide))
    simp only [config, hprotocol, hsecret, hbaseUrl, microversion?_of_unmet h.unmet]
    rfl

/-- A profile has the configuration that it describes, if it has one. -/
theorem config_eq_ok {config : Config} (h : p.config name environment = .ok config) :
    ∃ protocol secret, p.Sound name environment protocol secret ∧
      config = p.soundConfig protocol secret := by
  by_cases hsound : ∃ protocol secret, p.Sound name environment protocol secret
  · obtain ⟨protocol, secret, hsound⟩ := hsound
    have hconfig := (config_of_sound hsound).symm.trans h
    split_ifs at hconfig
    exact ⟨protocol, secret, hsound, (Except.ok.inj hconfig).symm⟩
  · obtain ⟨e, he, -⟩ := config_eq_error hsound
    exact nomatch he.symm.trans h

/-- Within the spans of time, nothing but the demands is asked for. -/
theorem config_iff (hskew : p.skewSeconds.natAbs ≤ maxSkewSeconds) :
    ((∃ config, p.config name environment = .ok config) ↔ ∀ d, p.Meets environment d) ∧
      ∀ e, p.config name environment = .error e ↔
        ∃ d, p.FirstUnmet environment d ∧ e = p.unmet name d := by
  by_cases hmeets : ∀ d, p.Meets environment d
  · obtain ⟨protocol, secret, hsound⟩ := sound_of_meets name hmeets
    have hconfig := config_of_sound hsound
    rw [if_neg (Nat.not_lt.mpr hskew)] at hconfig
    refine ⟨iff_of_true ⟨_, hconfig⟩ hmeets, fun e => iff_of_false (fun he => ?_) ?_⟩
    · exact nomatch hconfig.symm.trans he
    · exact fun ⟨d, hd, _⟩ => hd.unmet (hmeets d)
  · obtain ⟨d, hd⟩ := exists_firstUnmet hmeets
    have hconfig : p.config name environment = _ := config_of_firstUnmet hd
    refine ⟨iff_of_false (fun ⟨config, hok⟩ => nomatch hconfig.symm.trans hok) hmeets,
      fun e => ⟨fun he => ⟨d, hd, Except.error.inj (he.symm.trans hconfig)⟩, ?_⟩⟩
    rintro ⟨d', hd', rfl⟩
    exact config_of_firstUnmet hd'

-- =================================================================== clients

/-- A profile that asks for the scope of a project and names none, by a protocol that
must name one to the identity service. -/
structure LacksTenant (p : Profile) : Prop where
  protocol : Protocol.ofName? p.protocol = some (.keystone .v3Password) ∨
    Protocol.ofName? p.protocol = some (.keystone .v3Token)
  scope : p.tokenScope = .project
  tenant : ∀ name, p.tenantName = some name → name = ""

theorem lacksTenant_iff {protocol : Protocol} (h : Protocol.named p.protocol = .ok protocol) :
    (Handshake.needsTenant protocol && p.scope.lacksTenant) = true ↔ p.LacksTenant := by
  have hname : Protocol.ofName? p.protocol = some protocol := by
    unfold Protocol.named at h
    split at h
    · next q hq => rw [hq, Except.ok.inj h]
    · exact nomatch h
  have hneeds : Handshake.needsTenant protocol = true ↔
      protocol = .keystone .v3Password ∨ protocol = .keystone .v3Token := by
    rcases protocol with (_ | _ | _ | _ | _ | _) | _ <;> simp [Handshake.needsTenant]
  have hlacks : p.scope.lacksTenant = true ↔
      p.tokenScope = .project ∧ ∀ name, p.tenantName = some name → name = "" := by
    cases htenant : p.tenantName <;> simp [Scope.lacksTenant, Profile.scope, htenant]
  rw [Bool.and_eq_true, hneeds, hlacks]
  constructor
  · rintro ⟨hprotocol, hscope, htenant⟩
    exact ⟨hprotocol.imp (hname.trans <| congrArg some ·) (hname.trans <| congrArg some ·),
      hscope, htenant⟩
  · rintro ⟨hprotocol, hscope, htenant⟩
    rw [hname, Option.some.injEq, Option.some.injEq] at hprotocol
    exact ⟨hprotocol, hscope, htenant⟩

/-- A client of a configured profile fails only for the auth URL or for the tenant. -/
theorem ofConfig_error_iff {config : Config} (h : p.config name environment = .ok config)
    (e : SessionError) :
    Client.ofConfig config = .error e ↔
      (Text.trim p.authUrl = "" ∧ e = .configuration .noAuthUrl) ∨
      (Text.trim p.authUrl ≠ "" ∧ p.LacksTenant ∧ e = .configuration .noTenant) := by
  obtain ⟨protocol, secret, hsound, rfl⟩ := config_eq_ok h
  obtain ⟨microversion, hselector⟩ := hsound.selector
  replace hselector : (p.soundConfig protocol secret).selector.validate = .ok microversion :=
    hselector
  have hidentity : Handshake.validate (p.soundConfig protocol secret).identity =
      if (Text.trim p.authUrl).isEmpty then .error (.configuration .noAuthUrl)
      else if Handshake.needsTenant protocol && p.scope.lacksTenant then
        .error (.configuration .noTenant)
      else .ok () := rfl
  simp only [← lacksTenant_iff hsound.protocol]
  unfold Client.ofConfig
  rw [hidentity, hselector]
  split_ifs with hurl htenant
  all_goals rw [String.isEmpty_iff] at hurl
  · simp only [hurl, true_and, ne_eq, not_true, false_and, or_false, Except.error.injEq]
    exact eq_comm
  · simp only [hurl, htenant, false_and, ne_eq, not_false_eq_true, true_and, false_or,
      Except.error.injEq]
    exact eq_comm
  · simp [hurl, htenant]

/-- The two checks agree. Within the spans of time, a profile has a configuration if
and only if it meets all demands, and else the first that it does not meet is
reported. The client of the configuration fails only for a blank auth URL or a
missing tenant, and nothing is done to make it. -/
theorem checks_agree (hskew : p.skewSeconds.natAbs ≤ maxSkewSeconds) :
    ((∃ config, p.config name environment = .ok config) ↔ ∀ d, p.Meets environment d) ∧
    (∀ e, p.config name environment = .error e ↔
      ∃ d, p.FirstUnmet environment d ∧ e = p.unmet name d) ∧
    ∀ config, p.config name environment = .ok config →
      (∀ e, Client.ofConfig config = .error e ↔
        (Text.trim p.authUrl = "" ∧ e = .configuration .noAuthUrl) ∨
        (Text.trim p.authUrl ≠ "" ∧ p.LacksTenant ∧ e = .configuration .noTenant)) ∧
      ∀ s, (Action.attempt (Client.ofConfig config)).outcome s = (Client.ofConfig config, s) :=
  ⟨(config_iff hskew).1, (config_iff hskew).2, fun _ hconfig =>
    ⟨ofConfig_error_iff hconfig, Action.outcome_attempt _⟩⟩

end Checks
end Profile

namespace Sample

/-- A profile of version 3 that leaves its secret to a variable. -/
def tenantless : Profile :=
  { profile 5 with protocol := "3.x", secret := none, secretEnv := some "CLOUD_SECRET" }

/-- An environment in which only that variable is set. -/
def keyring (name : String) : Option String :=
  if name = "CLOUD_SECRET" then some "secret" else none

end Sample

/-- Without the variable there is no configuration, and with it there is no client. -/
theorem checks_agree_tenantless :
    Sample.tenantless.skewSeconds.natAbs ≤ Profile.maxSkewSeconds ∧
      Sample.tenantless.config "default" (fun _ => none)
        = .error (.noSecret "default" "CLOUD_SECRET") ∧
      ∃ config, Sample.tenantless.config "default" Sample.keyring = .ok config ∧
        Client.ofConfig config = .error (.configuration .noTenant) := by
  have hskew : Sample.tenantless.skewSeconds.natAbs ≤ Profile.maxSkewSeconds := by decide
  have hknown : ∃ q : Protocol, q.id = Text.trim "3.x" ∨ q.alias? = some (Text.trim "3.x") :=
    ⟨.keystone .v3Password, .inr (by decide)⟩
  have hlacks : Sample.tenantless.LacksTenant := ⟨.inl (by decide), rfl, fun _ h => nomatch h⟩
  obtain ⟨-, hfailed, -⟩ :=
    @Profile.checks_agree Sample.tenantless "default" (fun _ => none) hskew
  refine ⟨hskew, (hfailed _).mpr ⟨.secret, ⟨?_, ?_⟩, rfl⟩, ?_⟩
  · exact List.forall_mem_singleton.mpr hknown
  · simp [Profile.Meets, Sample.tenantless, Sample.profile]
  obtain ⟨hexists, -, hclient⟩ :=
    @Profile.checks_agree Sample.tenantless "default" Sample.keyring hskew
  obtain ⟨config, hconfig⟩ := hexists.mpr fun
    | .protocol => hknown
    | .secret => .inr (.inl rfl)
    | .baseUrl => nofun
    | .microversion => fun _ h => nomatch h
  exact ⟨config, hconfig, ((hclient config hconfig).1 _).mpr (.inr ⟨by decide, hlacks, rfl⟩)⟩

end CloudSession
