/-
When clients that share a cache key perform the same handshake. What goes into
the key says what goes into the request, with two exceptions. Keystone version
2 tells a tenant that is empty from one that is not named, which the key takes
for the same (`TenantGap`); and a login goes to the origin of its auth URL,
which need not be the same when the URLs differ in the slashes behind them
(`LoginGap`). There is no third (`request_eq_iff`).
-/
import CloudSession.Client
import CloudSession.Proofs.CacheKey
import CloudSession.Proofs.Handshake.Answers
import CloudSession.Proofs.Url.Site

namespace CloudSession

/-- What the cache key of an identity is made from. -/
def Identity.source (i : Identity) : CacheKey.Source :=
  ⟨i.authUrl, i.protocol.id, i.credentials, i.scope⟩

theorem Protocol.id_injective {p q : Protocol} (h : p.id = q.id) : p = q := by
  have hall : ∀ p ∈ Protocol.all, ∀ q ∈ Protocol.all, p.id = q.id → p = q := by decide
  have hmem : ∀ p : Protocol, p ∈ Protocol.all := by
    rintro (k | v)
    · cases k <;> decide
    · cases v <;> decide
  exact hall p (hmem p) q (hmem q) h

namespace Handshake

-- ====================================================================== gaps

/-- Keystone of version 2, asked for the empty tenant by one and for none by the
other. -/
def TenantGap (i j : Identity) : Prop :=
  (i.protocol = .keystone .v2Password ∨ i.protocol = .keystone .v2ApiKey) ∧
    ((i.scope.tenantName = none ∧ j.scope.tenantName = some "") ∨
      (i.scope.tenantName = some "" ∧ j.scope.tenantName = none))

/-- Logins that do not go to one origin, or of which only one can be sent. -/
def LoginGap (i j : Identity) : Prop :=
  (∃ v, i.protocol = .vcloud v) ∧ (loginOrigin i).toOption ≠ (loginOrigin j).toOption

-- ================================================================= documents

/-- The document with a tenant is the longer one. -/
theorem document2_ne {proof : String × Json} (hproof : ¬"tenantName" < proof.1)
    (hname : "tenantName" ≠ proof.1) {scope scope' : Scope} (hnone : scope.tenantName = none)
    {tenant : String} (hsome : scope'.tenantName = some tenant) :
    (Keystone.document2 proof scope).compact ≠ (Keystone.document2 proof scope').compact := by
  intro h
  have hlength := congrArg (·.toList.length) h
  simp only [Keystone.document2, hnone, hsome, Option.toList_none, Option.toList_some,
    List.map_nil, List.map_cons, Json.compact, String.toList_ofList, Json.object,
    Ascending.ofList, List.foldl_cons, List.foldl_nil, Ascending.insert, hproof, hname, if_false,
    Json.compactChars, Json.compactMembers, List.length_append, List.length_cons] at hlength
  omega

section Alike

variable {i j : Identity}

/-- Tenants that one key stands for are equal, or one is empty and the other
not named. -/
theorem tenants_of_alike (h : i.source.Alike j.source) :
    i.scope.tenantName = j.scope.tenantName ∨
      (i.scope.tenantName = none ∧ j.scope.tenantName = some "") ∨
      (i.scope.tenantName = some "" ∧ j.scope.tenantName = none) := by
  have htenant : i.scope.tenantName.getD "" = j.scope.tenantName.getD "" := h.tenantName
  cases hi : i.scope.tenantName with
  | none =>
    cases hj : j.scope.tenantName with
    | none => exact .inl rfl
    | some name =>
      rw [hi, hj] at htenant
      exact .inr (.inl ⟨rfl, congrArg some htenant.symm⟩)
  | some name =>
    cases hj : j.scope.tenantName with
    | none =>
      rw [hi, hj] at htenant
      exact .inr (.inr ⟨congrArg some htenant, rfl⟩)
    | some name' =>
      rw [hi, hj] at htenant
      exact .inl (congrArg some htenant)

theorem protocol_of_alike (h : i.source.Alike j.source) : i.protocol = j.protocol :=
  Protocol.id_injective h.protocol

theorem credentials_of_alike (h : i.source.Alike j.source) : i.credentials = j.credentials := by
  have huser : i.credentials.userId = j.credentials.userId := h.userId
  have hsecret : i.credentials.secret = j.credentials.secret := h.secret
  cases hi : i.credentials
  cases hj : j.credentials
  simp_all

theorem scope_of_alike (h : i.source.Alike j.source)
    (htenant : i.scope.tenantName = j.scope.tenantName) : i.scope = j.scope := by
  have hkind : i.scope.kind = j.scope.kind := h.kind
  have hdomain : i.scope.domainName = j.scope.domainName := h.domainName
  have hid : i.scope.tenantDomainId = j.scope.tenantDomainId := h.tenantDomainId
  cases hi : i.scope
  cases hj : j.scope
  simp_all

/-- The address of the token service takes no notice of slashes. -/
theorem address_of_alike (h : i.source.Alike j.source) (k : Keystone) :
    k.address i.authUrl = k.address j.authUrl := by
  have hurl : Text.trimEndSlashes i.authUrl = Text.trimEndSlashes j.authUrl := h.authUrl
  simp only [Keystone.address, hurl]

/-- A project scope that was validated for version 3 names its tenant. -/
theorem tenant_of_validate (h : validate i = .ok ()) (hneeds : needsTenant i.protocol = true)
    (hkind : i.scope.kind = .project) : ∃ name, i.scope.tenantName = some name ∧ name ≠ "" := by
  unfold validate at h
  split at h
  · exact nomatch h
  · split at h
    · exact nomatch h
    · next hlacks =>
      cases htenant : i.scope.tenantName with
      | none => exact absurd (by simp [Scope.lacksTenant, hneeds, hkind, htenant]) hlacks
      | some name =>
        refine ⟨name, rfl, fun hempty => hlacks ?_⟩
        simp [Scope.lacksTenant, hneeds, hkind, htenant, hempty]

theorem scopeBlock_of_alike (h : i.source.Alike j.source) (hi : validate i = .ok ())
    (hj : validate j = .ok ()) (hneeds : needsTenant i.protocol = true) :
    Keystone.scopeBlock? i.scope = Keystone.scopeBlock? j.scope := by
  have hkind : i.scope.kind = j.scope.kind := h.kind
  have hdomain : i.scope.domainName = j.scope.domainName := h.domainName
  cases hscope : i.scope.kind with
  | project =>
    obtain ⟨name, hname, hne⟩ := tenant_of_validate hi hneeds hscope
    obtain ⟨name', hname', hne'⟩ :=
      tenant_of_validate hj (protocol_of_alike h ▸ hneeds) (hkind ▸ hscope)
    rcases tenants_of_alike h with heq | ⟨hnone, -⟩ | ⟨-, hnone⟩
    · rw [scope_of_alike h heq]
    · exact nomatch hname.symm.trans hnone
    · exact nomatch hname'.symm.trans hnone
  | domain => simp only [Keystone.scopeBlock?, ← hkind, hscope, hdomain]
  | unscoped => simp only [Keystone.scopeBlock?, ← hkind, hscope]

/-- Of the documents of Keystone only those of version 2 show a difference that
the key does not. -/
theorem document_of_alike (h : i.source.Alike j.source) (hi : validate i = .ok ())
    (hj : validate j = .ok ()) {k : Keystone} (hk : i.protocol = .keystone k)
    (hgap : ¬TenantGap i j) :
    k.document i.credentials i.scope = k.document j.credentials j.scope := by
  have hdomain : i.scope.domainName = j.scope.domainName := h.domainName
  have htenant : k = .v2Password ∨ k = .v2ApiKey → i.scope.tenantName = j.scope.tenantName := by
    intro hk2
    refine (tenants_of_alike h).resolve_right fun htenants => hgap ⟨?_, htenants⟩
    rcases hk2 with rfl | rfl
    · exact .inl hk
    · exact .inr hk
  have hblock : needsTenant (.keystone k) = true →
      Keystone.scopeBlock? i.scope = Keystone.scopeBlock? j.scope := fun hneeds =>
    scopeBlock_of_alike h hi hj (hk ▸ hneeds)
  rw [credentials_of_alike h]
  cases k with
  | v1 => rfl
  | v2Password => rw [scope_of_alike h (htenant (.inl rfl))]
  | v2ApiKey => rw [scope_of_alike h (htenant (.inr rfl))]
  | v3Password => simp only [Keystone.document, Keystone.passwordProof3, hdomain, hblock rfl]
  | v3Token => simp only [Keystone.document, hblock rfl]
  | v3ApplicationCredential => rfl

/-- A tenant that only one document of version 2 names tells them apart. -/
theorem document_ne_of_gap (h : i.source.Alike j.source) {k : Keystone}
    (hk : i.protocol = .keystone k) (hgap : TenantGap i j) :
    (k.document i.credentials i.scope).compact ≠ (k.document j.credentials j.scope).compact := by
  obtain ⟨hversion, htenants⟩ := hgap
  obtain ⟨proof, hbehind, hname, hdocument⟩ : ∃ proof : String × Json,
      ¬"tenantName" < proof.1 ∧ "tenantName" ≠ proof.1 ∧
        ∀ scope, k.document j.credentials scope = Keystone.document2 proof scope := by
    rcases hversion with hversion | hversion
    · obtain rfl := Protocol.keystone.inj (hk.symm.trans hversion)
      exact ⟨Keystone.passwordProof2 j.credentials,
        (by decide : ¬"tenantName" < "passwordCredentials"),
        (by decide : "tenantName" ≠ "passwordCredentials"), fun _ => rfl⟩
    · obtain rfl := Protocol.keystone.inj (hk.symm.trans hversion)
      exact ⟨Keystone.apiKeyProof2 j.credentials,
        (by decide : ¬"tenantName" < "RAX-KSKEY:apiKeyCredentials"),
        (by decide : "tenantName" ≠ "RAX-KSKEY:apiKeyCredentials"), fun _ => rfl⟩
  rw [credentials_of_alike h, hdocument, hdocument]
  rcases htenants with ⟨hnone, hsome⟩ | ⟨hsome, hnone⟩
  · exact document2_ne hbehind hname hnone hsome
  · exact (document2_ne hbehind hname hnone hsome).symm

-- ================================================================== requests

/-- A login's request shows the origin that it is sent to. -/
theorem origin_of_request {v : VCloud} {origin origin' : String} {c c' : Credentials}
    (h : v.request origin c = v.request origin' c') : origin = origin' := by
  have hurl : origin ++ v.loginPath = origin' ++ v.loginPath := congrArg Request.url h
  exact String.append_left_inj _ |>.mp hurl

/-- Identities that share a key share a request, or have none both, if and only
if no gap lies between them. -/
theorem request_eq_iff (h : i.source.Alike j.source) (hi : validate i = .ok ())
    (hj : validate j = .ok ()) :
    (request i).toOption = (request j).toOption ↔ ¬TenantGap i j ∧ ¬LoginGap i j := by
  have hprotocol := protocol_of_alike h
  cases hk : i.protocol with
  | keystone k =>
    have hlogin : ¬LoginGap i j := by
      rintro ⟨⟨v, hv⟩, -⟩
      cases hk.symm.trans hv
    simp only [request, ← hprotocol, hk, hlogin, not_false_eq_true, and_true, Except.toOption]
    constructor
    · intro heq hgap
      have hbody := congrArg Request.body (Option.some.inj heq)
      have hbytes := Option.some.inj hbody
      exact document_ne_of_gap h hk hgap
        (Text.Utf8.toUTF8_toList_injective (congrArg (·.data.toList) hbytes))
    · intro hgap
      simp only [Keystone.request, address_of_alike h, document_of_alike h hi hj hk hgap]
  | vcloud v =>
    have htenant : ¬TenantGap i j := by
      rintro ⟨hv | hv, -⟩ <;> cases hk.symm.trans hv
    have hlogin : LoginGap i j ↔ (loginOrigin i).toOption ≠ (loginOrigin j).toOption :=
      ⟨fun hgap => hgap.2, fun hne => ⟨⟨v, hk⟩, hne⟩⟩
    simp only [request, ← hprotocol, hk, htenant, not_false_eq_true, true_and, hlogin, not_not,
      credentials_of_alike h]
    rcases loginOrigin i with e | origin <;> rcases loginOrigin j with e' | origin'
    · exact iff_of_true rfl rfl
    · simp [Except.map, Except.toOption]
    · simp [Except.map, Except.toOption]
    · simp only [Except.map, Except.toOption, Option.some.injEq]
      exact ⟨origin_of_request, fun heq => by rw [heq]⟩

/-- Auth URLs of one key lead to one origin or to none, unless one has slashes
behind it and the other none, and a blank or a control character stands there
once the slashes are taken away. -/
theorem loose_of_loginGap (h : i.source.Alike j.source) (hgap : LoginGap i j) :
    Url.EndsLoosely (Text.trimEndSlashes i.authUrl).toList ∧
      ¬(Text.trimEndSlashes i.authUrl = i.authUrl ↔ Text.trimEndSlashes j.authUrl = j.authUrl) := by
  by_contra hnone
  have hloose := fun hends => Decidable.byContradiction fun hne => hnone ⟨hends, hne⟩
  exact hgap.2 (Connection.origin_of_trimEndSlashes h.authUrl hloose)

end Alike

end Handshake

-- ================================================================= handshakes

/-- Whether the handshakes of two clients do the same outside: in every scene
they send one request, the same, or both send none. -/
def SameHandshake (c d : Client) : Prop :=
  ∀ s, (c.handshake.outcome s).2 = (d.handshake.outcome s).2

theorem sameHandshake_iff {c d : Client} :
    SameHandshake c d ↔
      (Handshake.request c.identity).toOption = (Handshake.request d.identity).toOption := by
  have hsent : ∀ (c : Client) (s : Scene), (c.handshake.outcome s).2
      = match (Handshake.request c.identity).toOption with
        | some r => (s.withNetwork s.outside.network.send.2).noting
            (.exchange .handshake r s.outside.network.send.1)
        | none => s := by
    intro c s
    cases h : Handshake.request c.identity with
    | error e => rw [Client.outcome_handshake_unsent h]; rfl
    | ok r => rw [Client.outcome_handshake h]; rfl
  constructor
  · intro h
    have hlog := congrArg (·.outside.log)
      (h ⟨.initial, ⟨⟨0, 0⟩, ⟨[], []⟩, none, []⟩⟩)
    simp only [hsent] at hlog
    cases hc : (Handshake.request c.identity).toOption <;>
      cases hd : (Handshake.request d.identity).toOption <;>
      simp_all [Scene.noting, Scene.withNetwork]
  · intro h s
    rw [hsent, hsent, h]

/-- Clients whose configurations agree in all that goes into a key perform the
same handshake if and only if no gap lies between them, and a gap between
logins takes a blank or a control character in front of the slashes. -/
theorem handshake_shared_iff {a b : Config} {c d : Client} (hc : Client.ofConfig a = .ok c)
    (hd : Client.ofConfig b = .ok d) (halike : a.identity.source.Alike b.identity.source) :
    (SameHandshake c d ↔
      ¬Handshake.TenantGap c.identity d.identity ∧ ¬Handshake.LoginGap c.identity d.identity) ∧
    (Handshake.LoginGap c.identity d.identity →
      Url.EndsLoosely (Text.trimEndSlashes c.identity.authUrl).toList ∧
        ¬(Text.trimEndSlashes c.identity.authUrl = c.identity.authUrl ↔
          Text.trimEndSlashes d.identity.authUrl = d.identity.authUrl)) := by
  obtain ⟨_, hvalid, -, rfl⟩ := Client.ofConfig_eq_ok hc
  obtain ⟨_, hvalid', -, rfl⟩ := Client.ofConfig_eq_ok hd
  rw [sameHandshake_iff]
  exact ⟨Handshake.request_eq_iff halike hvalid hvalid', Handshake.loose_of_loginGap halike⟩

namespace Sample

/-- The identity of ann in the default domain. -/
def ann (protocol : Protocol) (authUrl : String) (tenant : Option String) : Identity :=
  ⟨protocol, authUrl, ⟨"ann", "pw"⟩, ⟨.project, "Default", tenant, "default"⟩⟩

/-- She logs in at some URL. -/
def login (authUrl : String) : Identity := ann (.vcloud .v55) authUrl none

/-- She asks Keystone of version 2 for some tenant. -/
def tenanted (tenant : Option String) : Identity := ann (.keystone .v2Password) "https://id" tenant

/-- A configuration that adds nothing to an identity. -/
def plain (i : Identity) : Config := ⟨i, .none, .compute, 0, false, false⟩

/-- Its client. -/
def ofPlain (i : Identity) : Client := ⟨i, .none, none, .compute, 0, false⟩

end Sample

/-- Slashes behind a URL that ends in a letter make no difference to a login. -/
theorem handshake_shared_iff_slash :
    SameHandshake (Sample.ofPlain (Sample.login "https://vm.example.com"))
      (Sample.ofPlain (Sample.login "https://vm.example.com/")) := by
  have halike : (Sample.login "https://vm.example.com").source.Alike
      (Sample.login "https://vm.example.com/").source := by
    constructor <;> decide
  obtain ⟨hsame, hloose⟩ := handshake_shared_iff
    (a := Sample.plain (Sample.login "https://vm.example.com"))
    (b := Sample.plain (Sample.login "https://vm.example.com/"))
    (c := Sample.ofPlain (Sample.login "https://vm.example.com"))
    (d := Sample.ofPlain (Sample.login "https://vm.example.com/"))
    (by decide +kernel) (by decide +kernel) halike
  refine hsame.mpr ⟨?_, fun hgap => ?_⟩
  · rintro ⟨hversion, -⟩
    revert hversion
    decide
  · obtain ⟨c, hlast, hends⟩ := (hloose hgap).1
    obtain rfl : 'm' = c := Option.some.inj (Eq.trans (by decide +kernel) hlast)
    revert hends
    decide +kernel

/-- Asked for the empty tenant and for none: one key, two requests. -/
theorem handshake_not_shared :
    Client.ofConfig (Sample.plain (Sample.tenanted none))
        = .ok (Sample.ofPlain (Sample.tenanted none)) ∧
      Client.ofConfig (Sample.plain (Sample.tenanted (some "")))
        = .ok (Sample.ofPlain (Sample.tenanted (some ""))) ∧
      (Sample.tenanted none).source.Alike (Sample.tenanted (some "")).source ∧
      ¬SameHandshake (Sample.ofPlain (Sample.tenanted none))
        (Sample.ofPlain (Sample.tenanted (some ""))) := by
  have halike : (Sample.tenanted none).source.Alike (Sample.tenanted (some "")).source := by
    constructor <;> decide
  refine ⟨by decide +kernel, by decide +kernel, halike, fun hsame => ?_⟩
  have hnone := (Handshake.request_eq_iff halike (by decide +kernel) (by decide +kernel)).mp
    (sameHandshake_iff.mp hsame)
  exact hnone.1 ⟨.inl rfl, .inl ⟨rfl, rfl⟩⟩

/-- A blank behind the host is trimmed away, but not one before a slash: of two
logins that share a key only one can be sent. -/
example :
    (Sample.login "https://vm.example.com ").source.Alike
        (Sample.login "https://vm.example.com /").source ∧
      Handshake.LoginGap (Sample.login "https://vm.example.com ")
        (Sample.login "https://vm.example.com /") :=
  ⟨by constructor <;> decide, ⟨.v55, rfl⟩, by decide +kernel⟩

end CloudSession
