/-
What a handshake does and what it gives. Nothing is sent if the auth URL of a
login cannot be used (`Unusable`); else one request is, and the answer decides
the rest (`Concludes`): a reading that fails blames the response
(`fault_readBody`, `fault_user`), and only a login whose answer brings no token
blames the credentials for what a successful answer lacks. A token that stands
in a header is not empty, but one that stands in a body can be, as nothing is
asked of it there (`conclude_empty_iff`).
-/
import CloudSession.Proofs.Session.Triple
import CloudSession.Session.Cache

namespace CloudSession

namespace Handshake

-- ==================================================================== faults

section Faults

variable {e : SessionError}

theorem fault_readBody {read : Json.Doc → Option Keystone.Grant} {noCatalog : Json}
    {r : Response} (h : Keystone.readBody read noCatalog r = .error e) :
    ∃ fault, e = .response fault := by
  unfold Keystone.readBody at h
  split at h
  · next grant _ =>
    unfold Keystone.Grant.toContext at h
    split at h
    · exact nomatch h
    · split at h
      · exact nomatch h
      · exact ⟨_, (Except.error.inj h).symm⟩
  · exact ⟨_, (Except.error.inj h).symm⟩

theorem fault_user {v : VCloud} {body : ByteArray} (h : v.user body = .error e) :
    ∃ fault, e = .response fault := by
  unfold VCloud.user at h
  split at h
  · exact ⟨_, (Except.error.inj h).symm⟩
  · split at h
    · unfold VCloud.orgListUser at h
      split at h
      · exact ⟨_, (Except.error.inj h).symm⟩
      · exact ⟨_, (Except.error.inj h).symm⟩
      · exact nomatch h
    · unfold VCloud.sessionUser at h
      split at h
      · exact ⟨_, (Except.error.inj h).symm⟩
      · split at h
        · exact nomatch h
        · exact ⟨_, (Except.error.inj h).symm⟩

theorem fault_loginOrigin {i : Identity} (h : loginOrigin i = .error e) :
    ∃ fault, e = .configuration fault := by
  unfold loginOrigin Connection.ofUrl at h
  split at h
  · exact ⟨_, (Except.error.inj h).symm⟩
  · split at h
    · exact ⟨_, (Except.error.inj h).symm⟩
    · split at h
      · exact ⟨_, (Except.error.inj h).symm⟩
      · exact nomatch h

end Faults

-- =================================================================== answers

/-- Whether a login's answer has no token in the header where it belongs. -/
def Tokenless (i : Identity) (r : Response) : Prop :=
  ∃ v, i.protocol = .vcloud v ∧ (r.headers.get? v.grantHeader).all String.isEmpty = true

/-- What an answer to an identity's handshake leads to. -/
inductive Concludes (i : Identity) : Answer → Except SessionError Context → Prop
  | unanswered (message : String) : Concludes i (.error message) (.error (.transport message))
  | refused {r : Response} (hstatus : r.status = 401 ∨ r.status = 403) :
      Concludes i (.ok r) (.error (.credentials (.refused (Body.errorMessage r))))
  | failed {r : Response} (hstatus : ¬(200 ≤ r.status ∧ r.status ≤ 299))
      (h401 : r.status ≠ 401) (h403 : r.status ≠ 403) (fault : ResponseFault) :
      Concludes i (.ok r) (.error (.response fault))
  | tokenless {r : Response} (hstatus : 200 ≤ r.status ∧ r.status ≤ 299) (h : Tokenless i r)
      (header : String) : Concludes i (.ok r) (.error (.credentials (.noToken header)))
  | unreadable {r : Response} (hstatus : 200 ≤ r.status ∧ r.status ≤ 299) (h : ¬Tokenless i r)
      (fault : ResponseFault) : Concludes i (.ok r) (.error (.response fault))
  | granted {r : Response} (hstatus : 200 ≤ r.status ∧ r.status ≤ 299) (h : ¬Tokenless i r)
      (x : Context) : Concludes i (.ok r) (.ok x)

theorem isSuccess_iff (r : Response) :
    r.isSuccess = true ↔ 200 ≤ r.status ∧ r.status ≤ 299 := by
  simp [Response.isSuccess]

/-- An answer without success is refused or has failed, by its status. -/
theorem concludes_of_failure {i : Identity} {r : Response} (h : r.isSuccess = false)
    (fault : ResponseFault) :
    Concludes i (.ok r) (if r.status == 401 || r.status == 403 then
      .error (.credentials (.refused (Body.errorMessage r))) else .error (.response fault)) := by
  have hstatus : ¬(200 ≤ r.status ∧ r.status ≤ 299) := by
    rw [← isSuccess_iff, h]
    exact Bool.false_ne_true
  split
  · next hrefused => exact .refused (by simpa using hrefused)
  · next hrefused =>
    obtain ⟨h401, h403⟩ : r.status ≠ 401 ∧ r.status ≠ 403 := by simpa using hrefused
    exact .failed hstatus h401 h403 fault

/-- A reading of a successful answer that has what it takes of a token gives a
context or blames the response. -/
theorem concludes_of_reading {i : Identity} {r : Response} {result : Except SessionError Context}
    (hstatus : 200 ≤ r.status ∧ r.status ≤ 299) (htoken : ¬Tokenless i r)
    (hfault : ∀ e, result = .error e → ∃ fault, e = .response fault) :
    Concludes i (.ok r) result := by
  cases result with
  | ok x => exact .granted hstatus htoken x
  | error e =>
    obtain ⟨fault, rfl⟩ := hfault e rfl
    exact .unreadable hstatus htoken fault

theorem concludes_keystone {i : Identity} {k : Keystone} (hprotocol : i.protocol = .keystone k)
    (r : Response) : Concludes i (.ok r) (k.read r) := by
  unfold Keystone.read
  split
  · next hsuccess =>
    have htoken : ¬Tokenless i r := fun ⟨_, hv, _⟩ => nomatch hprotocol.symm.trans hv
    refine concludes_of_reading ((isSuccess_iff r).mp hsuccess) htoken fun e he => ?_
    unfold Keystone.readSuccess at he
    split at he
    · exact fault_readBody he
    · exact fault_readBody he
    · exact fault_readBody he
    · split at he
      · exact ⟨_, (Except.error.inj he).symm⟩
      · split at he
        · exact ⟨_, (Except.error.inj he).symm⟩
        · exact fault_readBody he
  · next hfailure => exact concludes_of_failure (by simpa using hfailure) _

theorem concludes_login {i : Identity} {v : VCloud} (hprotocol : i.protocol = .vcloud v)
    (origin : String) (r : Response) : Concludes i (.ok r) (v.read origin r) := by
  have htokenless : Tokenless i r ↔ (r.headers.get? v.grantHeader).all String.isEmpty = true := by
    refine ⟨fun ⟨w, hw, h⟩ => ?_, fun h => ⟨v, hprotocol, h⟩⟩
    obtain rfl := Protocol.vcloud.inj (hprotocol.symm.trans hw)
    exact h
  unfold VCloud.read
  split
  · next hsuccess =>
    have hstatus := (isSuccess_iff r).mp hsuccess
    unfold VCloud.readSuccess
    split
    · next hnone => exact .tokenless hstatus (htokenless.mpr (by simp [hnone])) _
    · next token htoken =>
      split
      · next hempty => exact .tokenless hstatus (htokenless.mpr (by simp [htoken, hempty])) _
      · next hempty =>
        refine concludes_of_reading hstatus (by simp [htokenless, htoken, hempty]) fun e he => ?_
        split at he
        · next huser => exact Except.error.inj he ▸ fault_user huser
        · exact nomatch he
  · next hfailure => exact concludes_of_failure (by simpa using hfailure) _

/-- Whether an identity's request cannot even be addressed. -/
def Unusable (i : Identity) : Prop :=
  ∃ v e, i.protocol = .vcloud v ∧ Connection.ofUrl i.authUrl = .error e

theorem loginOrigin_unusable {i : Identity} (h : Unusable i) :
    ∃ v fault, i.protocol = .vcloud v ∧ loginOrigin i = .error (.configuration fault) := by
  obtain ⟨v, e, hprotocol, hconnection⟩ := h
  have horigin : loginOrigin i = .error e := by rw [loginOrigin, hconnection]; rfl
  obtain ⟨fault, rfl⟩ := fault_loginOrigin horigin
  exact ⟨v, fault, hprotocol, horigin⟩

theorem unusable_of_loginOrigin {i : Identity} {v : VCloud} {e : SessionError}
    (hprotocol : i.protocol = .vcloud v) (h : loginOrigin i = .error e) : Unusable i := by
  unfold loginOrigin at h
  cases hconnection : Connection.ofUrl i.authUrl with
  | error fault => exact ⟨v, fault, hprotocol, hconnection⟩
  | ok connection => rw [hconnection] at h; exact nomatch h

theorem conclude_unusable {i : Identity} (h : Unusable i) (r : Response) :
    ∃ fault, conclude i (.ok r) = .error (.configuration fault) := by
  obtain ⟨v, fault, hprotocol, horigin⟩ := loginOrigin_unusable h
  exact ⟨fault, by rw [conclude, read, hprotocol, horigin]; rfl⟩

/-- Whatever answer comes to a request that could be sent, it decides what the
handshake gives. -/
theorem concludes_conclude {i : Identity} (h : ¬Unusable i) (answer : Answer) :
    Concludes i answer (conclude i answer) := by
  cases answer with
  | error message => exact .unanswered message
  | ok r =>
    rw [conclude, read]
    cases hprotocol : i.protocol with
    | keystone k => exact concludes_keystone hprotocol r
    | vcloud v =>
      cases horigin : loginOrigin i with
      | error e => exact absurd (unusable_of_loginOrigin hprotocol horigin) h
      | ok origin => exact concludes_login hprotocol origin r

-- ============================================================== empty tokens

/-- The grant in the body of an answer where its token stands there too. Later
versions of Keystone and logins have the token in a header. -/
def bodyGrant? (p : Protocol) (r : Response) : Option Keystone.Grant :=
  let document := Json.Doc.read? (Text.Utf8.glyphs r.body)
  match p with
  | .keystone .v1 => document.bind Keystone.readGrant1?
  | .keystone .v2Password => document.bind Keystone.readGrant2?
  | .keystone .v2ApiKey => document.bind Keystone.readGrant2?
  | _ => none

/-- Whether an answer grants the empty token: it reports success, and its body
has a grant of that token with an expiry that can be read, or with none. -/
def GrantsEmpty (i : Identity) : Answer → Prop
  | .error _ => False
  | .ok r => (200 ≤ r.status ∧ r.status ≤ 299) ∧
      ∃ g, bodyGrant? i.protocol r = some g ∧ g.token = "" ∧
        ∀ text, g.expires = some text → ∃ expires, Instant.readExpiry text = .ok expires

theorem token_toContext {g : Keystone.Grant} {noCatalog : Json} {x : Context}
    (h : g.toContext noCatalog = .ok x) : x.token = g.token := by
  unfold Keystone.Grant.toContext at h
  split at h
  · exact Except.ok.inj h ▸ rfl
  · split at h
    · exact Except.ok.inj h ▸ rfl
    · exact nomatch h

theorem exists_toContext_iff {g : Keystone.Grant} (noCatalog : Json) :
    (∃ x, g.toContext noCatalog = .ok x) ↔
      ∀ text, g.expires = some text → ∃ expires, Instant.readExpiry text = .ok expires := by
  unfold Keystone.Grant.toContext
  cases hexpires : g.expires with
  | none => simp
  | some text => cases hread : Instant.readExpiry text <;> simp [hread]

theorem readBody_eq_ok_iff {read : Json.Doc → Option Keystone.Grant} {noCatalog : Json}
    {r : Response} {x : Context} :
    Keystone.readBody read noCatalog r = .ok x ↔
      ∃ g, (Json.Doc.read? (Text.Utf8.glyphs r.body)).bind read = some g ∧
        g.toContext noCatalog = .ok x := by
  unfold Keystone.readBody
  cases (Json.Doc.read? (Text.Utf8.glyphs r.body)).bind read <;> simp

/-- A body yields a context of the empty token if that is what it grants. -/
theorem readBody_empty_iff {read : Json.Doc → Option Keystone.Grant} {noCatalog : Json}
    {r : Response} :
    (∃ x, Keystone.readBody read noCatalog r = .ok x ∧ x.token = "") ↔
      ∃ g, (Json.Doc.read? (Text.Utf8.glyphs r.body)).bind read = some g ∧ g.token = "" ∧
        ∀ text, g.expires = some text → ∃ expires, Instant.readExpiry text = .ok expires := by
  simp only [readBody_eq_ok_iff, ← exists_toContext_iff noCatalog]
  constructor
  · rintro ⟨x, ⟨g, hg, hx⟩, htoken⟩
    exact ⟨g, hg, token_toContext hx ▸ htoken, x, hx⟩
  · rintro ⟨g, hg, htoken, x, hx⟩
    exact ⟨x, ⟨g, hg, hx⟩, (token_toContext hx).trans htoken⟩

/-- A header that is taken for a token is not empty. -/
theorem token_readGrant3? {token : String} {d : Json.Doc} {g : Keystone.Grant}
    (h : Keystone.readGrant3? token d = some g) : g.token = token := by
  unfold Keystone.readGrant3? at h
  obtain ⟨fields, -, h⟩ := Option.bind_eq_some_iff.mp h
  split at h
  · exact Option.some.inj h ▸ rfl
  · exact nomatch h

/-- The token in a later version's answer to a handshake is not empty. -/
theorem token_subject {k : Keystone} (hk : k ≠ .v1 ∧ k ≠ .v2Password ∧ k ≠ .v2ApiKey)
    {r : Response} {x : Context} (h : k.readSuccess r = .ok x) : x.token ≠ "" := by
  unfold Keystone.readSuccess at h
  split at h
  · exact absurd rfl hk.1
  · exact absurd rfl hk.2.1
  · exact absurd rfl hk.2.2
  · split at h
    · exact nomatch h
    · next token _ =>
      split at h
      · exact nomatch h
      · next hempty =>
        obtain ⟨g, hg, hx⟩ := readBody_eq_ok_iff.mp h
        obtain ⟨d, -, hg⟩ := Option.bind_eq_some_iff.mp hg
        rw [token_toContext hx, token_readGrant3? hg]
        simpa using hempty

theorem token_login {v : VCloud} {origin : String} {r : Response} {x : Context}
    (h : v.readSuccess origin r = .ok x) : x.token ≠ "" := by
  unfold VCloud.readSuccess at h
  split at h
  · exact nomatch h
  · split at h
    · exact nomatch h
    · next hempty =>
      split at h
      · exact nomatch h
      · exact Except.ok.inj h ▸ by simpa using hempty

/-- A successful answer of Keystone yields the empty token if that is what its
body grants. -/
theorem readSuccess_empty_iff (k : Keystone) (r : Response) :
    (∃ x, k.readSuccess r = .ok x ∧ x.token = "") ↔
      ∃ g, bodyGrant? (.keystone k) r = some g ∧ g.token = "" ∧
        ∀ text, g.expires = some text → ∃ expires, Instant.readExpiry text = .ok expires := by
  have hlater : (k ≠ .v1 ∧ k ≠ .v2Password ∧ k ≠ .v2ApiKey) →
      ¬∃ x, k.readSuccess r = .ok x ∧ x.token = "" :=
    fun hk ⟨_, hx, htoken⟩ => token_subject hk hx htoken
  cases k with
  | v1 => exact readBody_empty_iff
  | v2Password => exact readBody_empty_iff
  | v2ApiKey => exact readBody_empty_iff
  | v3Password => simpa [bodyGrant?] using hlater (by decide)
  | v3Token => simpa [bodyGrant?] using hlater (by decide)
  | v3ApplicationCredential => simpa [bodyGrant?] using hlater (by decide)

theorem conclude_keystone_iff {i : Identity} {k : Keystone} (hprotocol : i.protocol = .keystone k)
    {r : Response} {x : Context} :
    conclude i (.ok r) = .ok x ↔ r.isSuccess = true ∧ k.readSuccess r = .ok x := by
  simp only [conclude, read, hprotocol, Keystone.read]
  cases r.isSuccess with
  | true => simp
  | false =>
    simp only [Bool.false_eq_true, if_false, false_and, iff_false]
    split <;> exact fun h => nomatch h

/-- A login yields what its answer says of the origin that it was sent to. -/
theorem conclude_login_ok {i : Identity} {v : VCloud} (hprotocol : i.protocol = .vcloud v)
    {r : Response} {x : Context} (h : conclude i (.ok r) = .ok x) :
    ∃ origin, loginOrigin i = .ok origin ∧ v.readSuccess origin r = .ok x := by
  simp only [conclude, read, hprotocol] at h
  cases horigin : loginOrigin i with
  | error e =>
    rw [horigin] at h
    exact nomatch h
  | ok origin =>
    refine ⟨origin, rfl, ?_⟩
    rw [horigin, Except.bind, VCloud.read] at h
    split at h
    · exact h
    · split at h <;> exact nomatch h

/-- A handshake yields the empty token if the answer to it grants that, and
only in the versions of Keystone that write it in the body. -/
theorem conclude_empty_iff {i : Identity} {answer : Answer} :
    (∃ x, conclude i answer = .ok x ∧ x.token = "") ↔ GrantsEmpty i answer := by
  cases answer with
  | error message => simp [conclude, GrantsEmpty]
  | ok r =>
    rw [GrantsEmpty, ← isSuccess_iff]
    cases hprotocol : i.protocol with
    | keystone k =>
      simp only [conclude_keystone_iff hprotocol, and_assoc, exists_and_left,
        readSuccess_empty_iff]
    | vcloud v =>
      have hnone : ¬∃ x, conclude i (.ok r) = .ok x ∧ x.token = "" := by
        rintro ⟨x, hx, htoken⟩
        obtain ⟨origin, -, hx⟩ := conclude_login_ok hprotocol hx
        exact token_login hx htoken
      simp only [hnone, bodyGrant?, reduceCtorEq, false_and, exists_false, and_false]

/-- Of the contexts that handshakes yield, those have an empty token whose
answer granted it. -/
theorem token_empty_iff {i : Identity} {answer : Answer} {x : Context}
    (h : conclude i answer = .ok x) : x.token = "" ↔ GrantsEmpty i answer := by
  rw [← conclude_empty_iff]
  refine ⟨fun htoken => ⟨x, h, htoken⟩, fun ⟨y, hy, htoken⟩ => ?_⟩
  obtain rfl := Except.ok.inj (h.symm.trans hy)
  exact htoken

-- ================================================================== requests

/-- An auth URL that cannot be used is the one reason not to send a request. -/
theorem request_error {i : Identity} (h : Unusable i) :
    ∃ fault, request i = .error (.configuration fault) := by
  obtain ⟨v, fault, hprotocol, horigin⟩ := loginOrigin_unusable h
  exact ⟨fault, by rw [request, hprotocol, horigin]; rfl⟩

theorem request_ok {i : Identity} (h : ¬Unusable i) :
    ∃ r, request i = .ok r ∧ r.method = .post := by
  rw [request]
  cases hprotocol : i.protocol with
  | keystone k => exact ⟨_, rfl, rfl⟩
  | vcloud v =>
    cases horigin : loginOrigin i with
    | error e => exact absurd (unusable_of_loginOrigin hprotocol horigin) h
    | ok origin => exact ⟨_, rfl, rfl⟩

end Handshake

-- =================================================================== exchange

namespace Client

open CloudSession.Action

variable {c : Client}

/-- A request is sent, and the network's answer to it concluded from. -/
theorem outcome_handshake {request : Request} (h : Handshake.request c.identity = .ok request)
    (s : Scene) :
    c.handshake.outcome s
      = (Handshake.conclude c.identity s.outside.network.send.1,
        (s.withNetwork s.outside.network.send.2).noting
          (.exchange .handshake request s.outside.network.send.1)) := by
  rw [handshake, outcome_bind, h, outcome_attempt]
  simp only [outcome_bind, outcome_send, outcome_attempt]

theorem outcome_handshake_unsent {e : SessionError}
    (h : Handshake.request c.identity = .error e) (s : Scene) :
    c.handshake.outcome s = (.error e, s) := by
  rw [handshake, outcome_bind, h, outcome_attempt]

/-- A handshake sends one POST request and gives what the answer to it leads
to. If the auth URL of a login cannot be used it fails, and does nothing. -/
theorem handshake_concludes (c : Client) (s : Scene) :
    (Handshake.Unusable c.identity ∧
      ∃ fault, c.handshake.outcome s = (.error (.configuration fault), s)) ∨
    (¬Handshake.Unusable c.identity ∧ ∃ request result, request.method = .post ∧
      c.handshake.outcome s = (result, (s.withNetwork s.outside.network.send.2).noting
        (.exchange .handshake request s.outside.network.send.1)) ∧
      Handshake.Concludes c.identity s.outside.network.send.1 result) := by
  by_cases h : Handshake.Unusable c.identity
  · obtain ⟨fault, hrequest⟩ := Handshake.request_error h
    exact .inl ⟨h, fault, outcome_handshake_unsent hrequest s⟩
  · obtain ⟨request, hrequest, hpost⟩ := Handshake.request_ok h
    exact .inr ⟨h, request, _, hpost, outcome_handshake hrequest s,
      Handshake.concludes_conclude h _⟩

end Client
end CloudSession
