/-
What the result of a call says of what happened. Until its request is sent a
call can fail only by a cause that lies before any response of the service
(`early_prepare`), and what a response is settled to is decided by its status
alone, whatever becomes of the caches (`outcome_settle`). So a call goes one of
three ways, told by the answers that the service gave in it: none, none that
arrived, or one response (`reports_call`). Each kind of result belongs to one
of them, and none to two (`call_reported`).
-/
import CloudSession.Proofs.Handshake.Answers
import CloudSession.Proofs.Session.OneSession

namespace CloudSession

open CloudSession.Action

-- ============================================================ kinds of errors

/-- Whether an error has its cause before any response of the service. -/
def SessionError.isEarly : SessionError → Bool
  | .configuration _ => true
  | .credentials _ => true
  | .response _ => true
  | .endpointNotFound .. => true
  | .transport _ => true
  | .store _ => true
  | .clockRange => true
  | .unauthorized _ => false
  | .http .. => false
  | .task .. => false
  | .taskCanceled _ => false
  | .taskTimeout .. => false

namespace Event

/-- What the service answered to a request. -/
def serviceAnswer? : Event → Option Answer
  | .exchange .service _ answer => some answer
  | _ => none

theorem isSome_serviceAnswer? (e : Event) : e.serviceAnswer?.isSome = e.isService := by
  cases e with
  | exchange purpose request answer => cases purpose <;> rfl
  | connect connection failure => rfl
  | store call key succeeded => rfl

/-- The service gives no answer where nothing is sent to it. -/
theorem serviceAnswers_eq_nil {log : List Event} (h : ∀ e ∈ log, e.isService = false) :
    log.filterMap serviceAnswer? = [] := by
  rw [List.filterMap_eq_nil_iff]
  intro e he
  rw [← Option.isSome_eq_false_iff.trans Option.isNone_iff_eq_none, isSome_serviceAnswer?]
  exact h e he

end Event

/-- What a response is settled to. -/
def Response.verdict (r : Response) : Except SessionError Response :=
  if r.isSuccess then .ok r
  else if r.status == 401 then .error (.unauthorized (Body.errorMessage r))
  else .error (.http r.status (Body.errorMessage r))

namespace Action

variable {α β : Type}

/-- Whatever error an action gives has its cause before any response of the
service. -/
structure FailsEarly (a : Action α) : Prop where
  early : ∀ {s e}, (a.outcome s).1 = .error e → e.isEarly = true

namespace FailsEarly

/-- An action that does not fail. -/
theorem of_ok {a : Action α} (h : ∀ s, ∃ x, (a.outcome s).1 = .ok x) : FailsEarly a where
  early {s _} ho := by
    obtain ⟨x, hx⟩ := h s
    exact absurd (hx.symm.trans ho) (by simp)

protected theorem pure (x : α) : FailsEarly (pure x) := of_ok fun _ => ⟨x, rfl⟩

protected theorem session : FailsEarly session := of_ok fun s => ⟨s.session, rfl⟩

protected theorem setSession (f : Session → Session) : FailsEarly (setSession f) :=
  of_ok fun _ => ⟨(), rfl⟩

protected theorem send (purpose : Purpose) (request : Request) :
    FailsEarly (send purpose request) :=
  of_ok fun s => ⟨s.outside.network.send.1, rfl⟩

protected theorem ignoringErrors (a : Action Unit) : FailsEarly (ignoringErrors a) := by
  refine of_ok fun s => ⟨(), ?_⟩
  rw [outcome_ignoringErrors]

protected theorem throw {e : SessionError} (h : e.isEarly = true) :
    FailsEarly (throw e : Action α) where
  early ho := Except.error.inj ho ▸ h

protected theorem attempt {r : Except SessionError α}
    (h : ∀ e, r = .error e → e.isEarly = true) : FailsEarly (attempt r) where
  early ho := by
    rw [outcome_attempt] at ho
    exact h _ ho

protected theorem bind {a : Action α} {f : α → Action β} (h : FailsEarly a)
    (hf : ∀ x, FailsEarly (f x)) : FailsEarly (a >>= f) where
  early {s _} ho := by
    rw [outcome_bind] at ho
    rcases ha : a.outcome s with ⟨e | x, s'⟩
    · rw [ha] at ho
      exact Except.error.inj ho ▸ h.early (congrArg Prod.fst ha)
    · rw [ha] at ho
      exact (hf x).early ho

protected theorem openConnection (connection : Connection) :
    FailsEarly (openConnection connection) where
  early ho := by
    rw [outcome_openConnection] at ho
    simp only at ho
    split at ho
    · cases ho
      rfl
    · exact absurd ho (by simp)

protected theorem storeGet (key : String) : FailsEarly (storeGet key) where
  early ho := by
    rw [outcome_storeGet] at ho
    split at ho
    · exact absurd ho (by simp)
    · split at ho
      · exact absurd ho (by simp)
      · cases ho
        rfl

end FailsEarly
end Action

-- =================================================== readings that may fail

section Readings

variable {e : SessionError}

theorem early_ofUrl {url : String} (h : Connection.ofUrl url = .error e) :
    e.isEarly = true := by
  unfold Connection.ofUrl at h
  split at h
  · cases h; rfl
  · split at h
    · cases h; rfl
    · split at h <;> cases h
      rfl

theorem early_request {i : Identity} (h : Handshake.request i = .error e) :
    e.isEarly = true := by
  by_cases hurl : Handshake.Unusable i
  · obtain ⟨fault, hrequest⟩ := Handshake.request_error hurl
    cases hrequest.symm.trans h
    rfl
  · obtain ⟨r, hrequest, -⟩ := Handshake.request_ok hurl
    exact nomatch hrequest.symm.trans h

/-- Whatever is answered to a handshake, its error is none of the service's. -/
theorem early_conclude {i : Identity} {answer : Answer}
    (h : Handshake.conclude i answer = .error e) : e.isEarly = true := by
  by_cases hurl : Handshake.Unusable i
  · cases answer with
    | error message => cases h; rfl
    | ok r =>
      obtain ⟨fault, hread⟩ := Handshake.conclude_unusable hurl r
      cases hread.symm.trans h
      rfl
  · have hconcludes := Handshake.concludes_conclude hurl answer
    rw [h] at hconcludes
    cases hconcludes <;> rfl

theorem early_parse {format : Catalog.Format} {raw : Json}
    (h : Catalog.parse format raw = .error e) : e.isEarly = true := by
  unfold Catalog.parse at h
  cases hread : Catalog.read format raw with
  | ok catalog => rw [hread] at h; exact absurd h (by simp [Except.mapError])
  | error fault => rw [hread] at h; cases h; rfl

theorem early_endpoint {catalog : Catalog} {selector : Selector} {wanted : Wanted}
    (h : catalog.endpoint selector wanted = .error e) : e.isEarly = true := by
  unfold Catalog.endpoint at h
  split at h
  · exact absurd h (by simp)
  · simp only at h
    split at h <;> cases h
    rfl

end Readings

namespace Client

variable {c : Client}

-- =============================================================== preparation

theorem early_isValid (context : Context) : FailsEarly (c.isValid context) := by
  refine .bind (.of_ok fun s => ⟨s.outside.now, rfl⟩) fun now => ?_
  split
  · exact .pure _
  · exact .throw rfl

theorem early_cachedValid : FailsEarly c.cachedValid := by
  have hcached : FailsEarly c.cached := by
    refine .bind (.storeGet _) fun found => ?_
    split
    · exact .bind (.setSession _) fun _ => .pure _
    · exact .bind .session fun _ => .pure _
  refine .bind hcached fun found => ?_
  split
  · exact .pure _
  · exact .bind (early_isValid _) fun _ => .pure _

theorem early_renew : FailsEarly c.renew := by
  have hhandshake : FailsEarly c.handshake :=
    .bind (.attempt fun _ => early_request) fun _ => .bind (.send _ _) fun _ =>
      .attempt fun _ => early_conclude
  exact .bind hhandshake fun _ => .bind (.setSession _) fun _ =>
    .bind (.ignoringErrors _) fun _ => .pure _

theorem early_negotiate (force : Bool) : FailsEarly (c.negotiate force) := by
  unfold negotiate
  split
  · exact early_renew
  · refine .bind early_cachedValid fun found => ?_
    split
    · exact .pure _
    · exact early_renew

theorem early_authenticate (force : Bool) : FailsEarly (c.authenticate force) :=
  .bind (early_negotiate force) fun _ => .bind (.attempt fun _ => early_parse) fun _ =>
    .bind (.setSession _) fun _ => .pure _

theorem early_active : FailsEarly c.active := by
  have hinstalled : FailsEarly c.installedValid := by
    refine .bind .session fun session => ?_
    split
    · exact .pure _
    · exact .bind (early_isValid _) fun _ => .pure _
  refine .bind .session fun session => ?_
  split
  · exact .pure _
  · refine .bind hinstalled fun found => ?_
    split
    · exact .pure _
    · exact .bind (early_authenticate false) fun _ => .pure _

theorem early_resolve : FailsEarly c.resolve := by
  have hcatalog : FailsEarly c.catalog := by
    refine .bind early_active fun active => ?_
    split
    · exact .pure _
    · exact .bind .session fun _ => .pure _
  have hendpoint : FailsEarly (c.endpoint c.defaults) := by
    unfold endpoint
    split
    · exact .pure _
    · exact .bind hcatalog fun _ => .attempt fun _ => early_endpoint
  refine .bind .session fun session => ?_
  split
  · exact .pure _
  · exact .bind hendpoint fun _ => .bind (.attempt fun _ => early_ofUrl) fun _ =>
      .bind (.setSession _) fun _ => .pure _

theorem early_connect (connection : Connection) : FailsEarly (connect connection) := by
  refine .bind .session fun session => ?_
  split
  · exact .pure _
  · exact .bind (.openConnection _) fun _ => .setSession _

/-- Until its request is sent a call fails by an early cause only. -/
theorem early_prepare : FailsEarly c.prepare :=
  .bind early_active fun _ => .bind early_resolve fun connection =>
    .bind (early_connect connection) fun _ => .pure _

-- ================================================================ settlement

theorem outcome_onUnauthorized (forced : Bool) (s : Scene) :
    ((c.onUnauthorized forced).outcome s).1 = .ok () := by
  unfold onUnauthorized
  split
  · rw [outcome_bind_ok (outcome_setSession _ _), outcome_ignoringErrors]
  · split <;> rfl

/-- A response is settled by its status, also where a clearing fails. -/
theorem outcome_settle (forced : Bool) (r : Response) (s : Scene) :
    ((c.settle forced r).outcome s).1 = r.verdict := by
  unfold settle Response.verdict
  split
  · rfl
  · split
    · have hended : (c.onUnauthorized forced).outcome s
          = (.ok (), ((c.onUnauthorized forced).outcome s).2) :=
        Prod.ext (outcome_onUnauthorized forced s) rfl
      rw [outcome_bind_ok hended, outcome_throw]
    · rfl

-- ================================================================ three ways

/-- What a call gives, by what the service answered in it. -/
inductive Reports : List Answer → Except SessionError Response → Prop
  | unsent {e : SessionError} (early : e.isEarly = true) : Reports [] (.error e)
  | lost (message : String) : Reports [.error message] (.error (.transport message))
  | answered (r : Response) : Reports [.ok r] r.verdict

/-- A request that is sent is reported by its answer. -/
theorem reports_submit (a : Active) (request : Request) (s : Scene) :
    ∃ new, ((c.submit a request).outcome s).2.outside.log = s.outside.log ++ new ∧
      Reports (new.filterMap Event.serviceAnswer?) ((c.submit a request).outcome s).1 := by
  rw [submit, outcome_bind, outcome_send]
  cases s.outside.network.send.1 with
  | error message => exact ⟨[_], rfl, .lost message⟩
  | ok response =>
    obtain ⟨after, hafter, hnone⟩ := ((c.grows_settle a.forced response).step
      ((s.withNetwork s.outside.network.send.2).noting
        (.exchange .service request (.ok response)))).log
    refine ⟨.exchange .service request (.ok response) :: after, ?_, ?_⟩
    · rw [← List.singleton_append, ← List.append_assoc]
      exact hafter
    · have hlater : after.filterMap Event.serviceAnswer? = [] :=
        Event.serviceAnswers_eq_nil fun e he => by
          simpa using Event.not_isService_of_not_isRequest e (hnone e he)
      rw [List.filterMap_cons_some (by rfl), hlater]
      simp only
      rw [outcome_settle]
      exact .answered response

/-- Every call goes one of the three ways. -/
theorem reports_call (c : Client) (action : String) (method : Method) (headers : Headers)
    (body : Option ByteArray) (s : Scene) :
    ∃ new, ((c.call action method headers body).outcome s).2.outside.log
        = s.outside.log ++ new ∧
      Reports (new.filterMap Event.serviceAnswer?)
        ((c.call action method headers body).outcome s).1 := by
  -- Whatever is logged before the request, the service has answered nothing.
  obtain ⟨before, hbefore, hquiet⟩ := (c.quiet_prepare.step s).log
  have hunsent : before.filterMap Event.serviceAnswer? = [] :=
    Event.serviceAnswers_eq_nil fun e he => Event.not_isService_of_isQuiet (hquiet e he)
  rw [call_eq, outcome_bind]
  rcases hprepare : c.prepare.outcome s with ⟨e | ⟨a, connection⟩, s'⟩
  · rw [hprepare] at hbefore
    refine ⟨before, hbefore, ?_⟩
    rw [hunsent]
    exact .unsent (early_prepare.early (congrArg Prod.fst hprepare))
  · rw [hprepare] at hbefore
    obtain ⟨new, hnew, hreports⟩ := c.reports_submit a
      (c.requestOf action method headers body a.context.token connection) s'
    refine ⟨before ++ new, ?_, ?_⟩
    · rw [← List.append_assoc, ← hbefore]
      exact hnew
    · rw [List.filterMap_append, hunsent, List.nil_append]
      exact hreports

-- ================================================================ one report

/-- The service answered a request with a response. -/
def Answers (log : List Event) (r : Response) : Prop :=
  ∃ request, .exchange .service request (.ok r) ∈ log

/-- A result reflects what happened: at most one request was sent to the
service, and each kind of result stands for one kind of answer to it. An error
that is not about a status stands for no response at all. -/
structure Reported (log : List Event) (result : Except SessionError Response) : Prop where
  once : log.countP Event.isService ≤ 1
  ok : ∀ r, result = .ok r ↔ Answers log r ∧ r.isSuccess = true
  unauthorized : ∀ message, result = .error (.unauthorized message) ↔
    ∃ r, Answers log r ∧ r.status = 401 ∧ Body.errorMessage r = message
  http : ∀ status message, result = .error (.http status message) ↔
    ∃ r, Answers log r ∧ r.isSuccess = false ∧ r.status ≠ 401 ∧
      r.status = status ∧ Body.errorMessage r = message
  other : ∀ e, result = .error e → (∀ message, e ≠ .unauthorized message) →
    (∀ status message, e ≠ .http status message) →
    e.isEarly = true ∧ ∀ r, ¬Answers log r

theorem answers_iff {log : List Event} {r : Response} :
    Answers log r ↔ .ok r ∈ log.filterMap Event.serviceAnswer? := by
  rw [List.mem_filterMap]
  constructor
  · intro h
    obtain ⟨request, hmem⟩ := h
    exact ⟨_, hmem, rfl⟩
  · intro h
    obtain ⟨e, hmem, he⟩ := h
    unfold Event.serviceAnswer? at he
    split at he
    · next request answer =>
      obtain rfl := Option.some.inj he
      exact ⟨request, hmem⟩
    · exact absurd he (by simp)

theorem services_eq (log : List Event) :
    log.countP Event.isService = (log.filterMap Event.serviceAnswer?).length := by
  simp only [List.length_filterMap_eq_countP, Event.isSome_serviceAnswer?]

theorem verdict_unauthorized {r : Response} (h : r.status = 401) :
    r.verdict = .error (.unauthorized (Body.errorMessage r)) := by
  simp [Response.verdict, Response.isSuccess, h]

/-- A status is a success, 401, or neither. -/
theorem verdict_cases (r : Response) :
    (r.isSuccess = true ∧ r.status ≠ 401 ∧ r.verdict = .ok r) ∨
    (r.isSuccess = false ∧ r.status = 401 ∧
      r.verdict = .error (.unauthorized (Body.errorMessage r))) ∨
    (r.isSuccess = false ∧ r.status ≠ 401 ∧
      r.verdict = .error (.http r.status (Body.errorMessage r))) := by
  unfold Response.verdict
  by_cases hsuccess : r.isSuccess = true
  · refine .inl ⟨hsuccess, fun hstatus => ?_, by rw [if_pos hsuccess]⟩
    simp [Response.isSuccess, hstatus] at hsuccess
  · rw [Bool.not_eq_true] at hsuccess
    by_cases hstatus : r.status = 401
    · exact .inr (.inl ⟨hsuccess, hstatus, verdict_unauthorized hstatus⟩)
    · exact .inr (.inr ⟨hsuccess, hstatus, by simp [hsuccess, hstatus]⟩)

/-- Each of the three ways is told from the others by its result. -/
theorem reported_of_reports {log : List Event} {result : Except SessionError Response}
    (h : Reports (log.filterMap Event.serviceAnswer?) result) : Reported log result := by
  have hanswers : ∀ r, Answers log r ↔ .ok r ∈ log.filterMap Event.serviceAnswer? :=
    fun _ => answers_iff
  have hcount := services_eq log
  -- The answers decide both how many there are and which, so the log can go.
  generalize log.filterMap Event.serviceAnswer? = answers at h hanswers hcount
  cases h with
  | unsent early =>
    have hnone : ∀ r, ¬Answers log r := by simp [hanswers]
    constructor
    · rw [hcount]
      exact Nat.zero_le 1
    · simp [hnone]
    · intro message
      simp only [hnone, false_and, exists_false, iff_false, Except.error.injEq]
      rintro rfl
      exact absurd early (by simp [SessionError.isEarly])
    · intro status message
      simp only [hnone, false_and, exists_false, iff_false, Except.error.injEq]
      rintro rfl
      exact absurd early (by simp [SessionError.isEarly])
    · intro e he _ _
      exact ⟨Except.error.inj he ▸ early, hnone⟩
  | lost message =>
    have hnone : ∀ r, ¬Answers log r := by simp [hanswers]
    constructor
    · rw [hcount]
      exact Nat.le_refl 1
    · simp [hnone]
    · simp [hnone]
    · simp [hnone]
    · intro e he _ _
      exact ⟨Except.error.inj he ▸ rfl, hnone⟩
  | answered response =>
    have hone : ∀ r, Answers log r ↔ response = r := by simp [hanswers, eq_comm]
    have hle : log.countP Event.isService ≤ 1 := by
      rw [hcount]
      exact Nat.le_refl 1
    rcases verdict_cases response with ⟨hs, hstatus, hv⟩ | ⟨hs, hstatus, hv⟩ | ⟨hs, hstatus, hv⟩
    · rw [hv]
      refine ⟨hle, fun r => ?_, ?_, ?_, ?_⟩
      · rw [Except.ok.injEq, hone]
        exact ⟨fun h => ⟨h, h ▸ hs⟩, And.left⟩
      · simp [hone, hstatus]
      · simp [hone, hs]
      · simp
    · rw [hv]
      refine ⟨hle, ?_, ?_, ?_, ?_⟩
      · simp [hone, hs]
      · simp [hone, hstatus]
      · simp [hone, hstatus]
      · simp
    · rw [hv]
      refine ⟨hle, ?_, ?_, ?_, ?_⟩
      · simp [hone, hs]
      · simp [hone, hstatus]
      · simp [hone, hs, hstatus]
      · simp

/-- The result of a call reflects what happened in it, from whatever scene and
whatever the network and the shared store answer. -/
theorem call_reported (c : Client) (action : String) (method : Method) (headers : Headers)
    (body : Option ByteArray) (s : Scene) :
    ∃ new, ((c.call action method headers body).outcome s).2.outside.log
        = s.outside.log ++ new ∧
      Reported new ((c.call action method headers body).outcome s).1 := by
  obtain ⟨new, hnew, hreports⟩ := c.reports_call action method headers body s
  exact ⟨new, hnew, reported_of_reports hreports⟩

end Client
end CloudSession
