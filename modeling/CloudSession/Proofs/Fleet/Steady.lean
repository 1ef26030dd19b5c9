/-
A client whose session stays valid, in a fleet. From turn to turn the context
in use is the same until the client is rejected, whatever else fails and
whatever other clients do. So up to that rejection no turn of the client takes a
handshake or has to do with a store, and all its requests carry one token
(`steady_until_rejected`), except those whose caller names the token's header
(`caller_token_goes_first`).
-/
import CloudSession.Proofs.Fleet.Basic
import CloudSession.Proofs.Session.Steady

namespace CloudSession

open CloudSession.Action

-- ================================================================ operations

/-- Whatever a client with a steady session is asked to do, except to negotiate,
goes the same way with other caches. -/
theorem tandem_run {c : Client} {x : Context} {s₀ : Scene} {operation : Operation}
    (hoperation : operation.isNegotiation = false) :
    Tandem (c.Beside x operation.callerHeaders s₀) (operation.run c) (operation.run c)
      (fun _ => c.Beside x operation.callerHeaders s₀)
      (c.Abreast x operation.callerHeaders s₀) := by
  cases operation with
  | call action method headers body => exact (Client.tandem_call action method body).returning _
  | ensureSession =>
      exact .bind_known (.bind_known Client.tandem_active (.pure fun _ _ hst => ⟨hst, rfl⟩))
        (.pure fun _ _ hst => hst)
  | catalog => exact Client.tandem_catalog.returning _
  | endpoint wanted => exact (Client.tandem_endpoint wanted).returning _
  | resolve => exact Client.tandem_resolve.returning _
  | invalidate => exact .bind Client.tandem_invalidate fun _ => .pure fun _ _ hst => hst
  | poll format ref => exact (Client.tandem_poll format ref).returning _
  | wait format ref timeout interval =>
      exact (Client.tandem_wait format ref timeout interval).returning _
  | isValid context => exact (Client.tandem_isValid context).returning _
  | _ => exact absurd hoperation (by simp [Operation.isNegotiation])

/-- What comes of an operation with a steady session, beside what would come of
it with other caches. -/
theorem abreast_run {c : Client} {x : Context} {s : Scene} {operation : Operation}
    (hoperation : operation.isNegotiation = false)
    (hs : c.Steady x operation.callerHeaders s s) (memory : MemoryStore)
    (store : Option SharedStore) :
    ((operation.run c).outcome (s.withCaches memory store)).1 = ((operation.run c).outcome s).1 ∧
      c.Abreast x operation.callerHeaders s ((operation.run c).outcome s).2
        ((operation.run c).outcome (s.withCaches memory store)).2 := by
  obtain ⟨result, s', t', hrun, hrun', hends⟩ :=
    (tandem_run hoperation).ends (t := s.withCaches memory store) ⟨hs, memory, store, rfl⟩
  rw [hrun, hrun']
  refine ⟨rfl, ?_⟩
  cases result with
  | ok _ => exact hends.abreast
  | error _ => exact hends

theorem concluded_run {c : Client} {x : Context} {s : Scene} {operation : Operation}
    (hoperation : operation.isNegotiation = false)
    (hs : c.Steady x operation.callerHeaders s s) :
    c.Concluded x operation.callerHeaders s ((operation.run c).outcome s).2 :=
  (abreast_run hoperation hs s.session.memory s.outside.store).2.1

theorem steady_ensureSession {c : Client} {x : Context} {caller : Headers} {s₀ s : Scene}
    (hs : c.Steady x caller s₀ s) :
    ((Operation.ensureSession.run c).outcome s).1 = .ok (.context x) := by
  rw [Operation.run, outcome_bind, Client.ensureSession, outcome_bind,
    Client.outcome_active_valid hs.unforced hs.context hs.valid]
  rfl

/-- A session that is steady before anything was done. -/
theorem steady_start {c : Client} {x : Context} {caller : Headers} {s : Scene}
    (hlog : s.outside.log = []) (hunforced : c.forcedToken? s.session = none)
    (hcontext : s.session.context = some x)
    (hvalid : x.isValid s.outside.now c.skew = some true) : c.Steady x caller s s :=
  ⟨hunforced, hcontext, hvalid, rfl, rfl, by simp [hlog]⟩

-- ===================================================================== turns

variable {ι : Type} (members : ι → Member)

/-- The turn as it would be taken with other caches. -/
def Turn.withCaches (t : Turn ι) (memory : MemoryStore) (store : Option SharedStore) : Turn ι :=
  { t with before := t.before.withCaches memory store }

/-- In this turn the client uses the context alone until it is rejected: it
performs no handshake and calls no store, its requests carry the context's
token, and neither what it gives nor what it does depends on the caches. Unless
it is rejected it leaves them as they are. -/
structure Turn.IsSteady (t : Turn ι) (x : Context) : Prop where
  events : ∀ e ∈ untilRejection (t.events members),
    (t.client members).Uses t.operation.callerHeaders x.token e
  session : t.operation = .ensureSession → (t.outcome members).1 = .ok (.context x)
  blind : ∀ memory store,
    ((t.withCaches memory store).outcome members).1 = (t.outcome members).1 ∧
    untilRejection ((t.withCaches memory store).events members)
      = untilRejection (t.events members)
  caches : (∀ e ∈ t.events members, e.isRejection = false) →
    (t.outcome members).2.session.memory = t.before.session.memory ∧
    (t.outcome members).2.outside.store = t.before.outside.store

variable {members} {t : Turn ι} {x : Context}

theorem isSteady_of_steady
    (hs : (t.client members).Steady x t.operation.callerHeaders t.before t.before)
    (hoperation : t.operation.isNegotiation = false) : t.IsSteady members x := by
  have hconcluded := concluded_run hoperation hs
  refine ⟨hconcluded.log, fun hensure => ?_, fun memory store => ?_, fun hnone => ?_⟩
  · rw [Turn.outcome, hensure]
    exact steady_ensureSession hs
  · obtain ⟨hresult, -, hevents⟩ := abreast_run hoperation hs memory store
    exact ⟨hresult, hevents⟩
  · exact ⟨(hconcluded.steady hnone).memory, (hconcluded.steady hnone).store⟩

variable [DecidableEq ι]

-- ====================================================================== runs

/-- A client without a forced token that has a context in use, in a run in which
that context is valid whenever the client has its turn and in which the client
is never asked to negotiate. Up to its first rejection the client takes no
handshake and has to do with no store, gives that context to whoever asks for
the session, and sends that context's token, whatever fails in between. -/
theorem steady_until_rejected {start : Fleet ι} {steps : List (Step ι)}
    {earlier later : List (Turn ι)}
    (hturns : start.turns members steps = earlier ++ t :: later)
    (hunforced : (t.client members).forcedToken? (start.sessions t.who) = none)
    (hcontext : (start.sessions t.who).context = some x)
    (hsteps : ∀ u ∈ earlier ++ [t], u.who = t.who → u.operation.isNegotiation = false ∧
      x.isValid u.before.outside.now (t.client members).skew = some true)
    (hkept : ∀ e ∈ Fleet.history members earlier t.who, e.isRejection = false) :
    t.IsSteady members x := by
  have hrun : ∀ (past : List Event) (operation : Operation) (s : Scene),
      operation.isNegotiation = false ∧
        x.isValid s.outside.now (t.client members).skew = some true → s.outside.log = [] →
      ((∀ e ∈ past, e.isRejection = false) →
        (t.client members).forcedToken? s.session = none ∧ s.session.context = some x) →
      (∀ e ∈ past ++ ((operation.run (t.client members)).outcome s).2.outside.log,
        e.isRejection = false) →
      (t.client members).forcedToken?
          ((operation.run (t.client members)).outcome s).2.session = none ∧
        ((operation.run (t.client members)).outcome s).2.session.context = some x := by
    intro past operation s hallowed hlog hs hpast
    obtain ⟨hoperation, hvalid⟩ := hallowed
    obtain ⟨hunforced, hcontext⟩ := hs fun e he => hpast e (List.mem_append_left _ he)
    have hsteady := (concluded_run hoperation
      (steady_start hlog hunforced hcontext hvalid)).steady
        fun e he => hpast e (List.mem_append_right _ he)
    exact ⟨hsteady.unforced, hsteady.context⟩
  obtain ⟨hsession, hlog⟩ := Fleet.own_split
    (P := fun past session => (∀ e ∈ past, e.isRejection = false) →
      (t.client members).forcedToken? session = none ∧ session.context = some x)
    hrun (fun _ => ⟨hunforced, hcontext⟩) hturns rfl
    fun u hu => hsteps u (List.mem_append_left _ hu)
  obtain ⟨hoperation, hvalid⟩ := hsteps t (by simp) rfl
  obtain ⟨hunforced, hcontext⟩ := hsession hkept
  exact isSteady_of_steady (steady_start hlog hunforced hcontext hvalid) hoperation

namespace Sample

/-- A client that has got a session and has not used it yet. -/
def settled : Fleet Unit :=
  (fleet [grant "T" "2999-01-01T00:00:00Z" (catalog "https://api.example.com"),
    status 200]).after lone (.turn () .ensureSession)

/-- The service refuses a connection, is out of order, and rejects the token. -/
def troubles : Step Unit := .network ⟨[status 503, status 401], [some "refused"]⟩

/-- Some day later, before the session expires. -/
def later : Step Unit := .clock ⟨1924992000, 0⟩

/-- The call that finds no connection. -/
def refusedCall : Turn Unit := (settled.after lone troubles).turn lone () call

/-- The call that meets the outage. -/
def failedCall : Turn Unit :=
  (((settled.after lone troubles).after lone (.turn () call)).after lone later).turn lone () call

/-- The call that is rejected. -/
def rejectedCall : Turn Unit :=
  ((((settled.after lone troubles).after lone (.turn () call)).after lone later).after lone
    (.turn () call)).turn lone () call

/-- A call whose caller names the header of the token. -/
def ownToken : Operation :=
  .call "/servers" .get (Headers.ofList [("X-Auth-Token", "MINE")]) none

/-- The turn of that call, right after the session was got. -/
def ownTokenCall : Turn Unit := settled.turn lone () ownToken

end Sample

/-- A refused connection and an outage leave the session steady, so that the
third call still sends its token, to be rejected. -/
theorem steady_until_rejected_after_troubles :
    Sample.settled.turns Sample.lone [Sample.troubles, .turn () Sample.call, Sample.later,
        .turn () Sample.call, .turn () Sample.call]
        = [Sample.refusedCall, Sample.failedCall, Sample.rejectedCall] ∧
      ∃ x, (Sample.settled.sessions ()).context = some x ∧ x.token = "T" ∧
        Sample.rejectedCall.IsSteady Sample.lone x ∧
        ∃ e ∈ Sample.rejectedCall.events Sample.lone, e.isRejection = true := by
  have hrun : ((Sample.settled.sessions ()).context.any (fun x => x.token == "T" &&
        [Sample.refusedCall, Sample.failedCall, Sample.rejectedCall].all fun u =>
          x.isValid u.before.outside.now (Sample.lone ()).client.skew == some true) &&
      (Fleet.history Sample.lone [Sample.refusedCall, Sample.failedCall] ()).all
        (!·.isRejection) &&
      (Sample.rejectedCall.events Sample.lone).any (·.isRejection)) = true := by
    decide +kernel
  simp only [Bool.and_eq_true] at hrun
  obtain ⟨⟨hcontext, hkept⟩, hrejected⟩ := hrun
  obtain ⟨x, hx, hvalid⟩ := (Option.any_eq_true _ _).mp hcontext
  simp only [Bool.and_eq_true, beq_iff_eq, List.all_eq_true] at hvalid
  obtain ⟨htoken, hvalid⟩ := hvalid
  have hturns : Sample.settled.turns Sample.lone [Sample.troubles, .turn () Sample.call,
      Sample.later, .turn () Sample.call, .turn () Sample.call]
      = [Sample.refusedCall, Sample.failedCall] ++ [Sample.rejectedCall] := rfl
  have hcalls : ∀ u ∈ [Sample.refusedCall, Sample.failedCall, Sample.rejectedCall],
      u.operation.isNegotiation = false := by
    intro u hu
    simp only [List.mem_cons, List.not_mem_nil, or_false] at hu
    rcases hu with rfl | rfl | rfl <;> rfl
  refine ⟨hturns, x, hx, htoken, ?_, List.any_eq_true.mp hrejected⟩
  refine steady_until_rejected hturns (ite_self none) hx
    (fun u hu _ => ⟨hcalls u hu, hvalid u hu⟩) fun e he => ?_
  simpa using List.all_eq_true.mp hkept e he

/-- A caller that names the header of the token goes first: with a valid session
of the client's own, and nothing rejected, its request carries another token. -/
theorem caller_token_goes_first :
    Sample.settled.turns Sample.lone [.turn () Sample.ownToken] = [Sample.ownTokenCall] ∧
      Sample.ownTokenCall.forced? Sample.lone = none ∧
      (∃ x, Sample.ownTokenCall.before.session.context = some x ∧ x.token = "T" ∧
        x.isValid Sample.ownTokenCall.before.outside.now (Sample.lone ()).client.skew
          = some true) ∧
      (∀ e ∈ Sample.ownTokenCall.events Sample.lone, e.isRejection = false) ∧
      ∃ before r answer after, Sample.ownTokenCall.events Sample.lone
          = before ++ .exchange .service r answer :: after ∧
        (r.headers.get? "X-Auth-Token" == some "MINE") = true := by
  have hrun : (Sample.ownTokenCall.before.session.context.any (fun x => x.token == "T" &&
        x.isValid Sample.ownTokenCall.before.outside.now (Sample.lone ()).client.skew
          == some true) &&
      (Sample.ownTokenCall.events Sample.lone).all (!·.isRejection) &&
      (Sample.ownTokenCall.events Sample.lone).any
        (·.serves fun r => r.headers.get? "X-Auth-Token" == some "MINE")) = true := by
    decide +kernel
  simp only [Bool.and_eq_true] at hrun
  obtain ⟨⟨hcontext, hkept⟩, hserves⟩ := hrun
  obtain ⟨x, hx, hvalid⟩ := (Option.any_eq_true _ _).mp hcontext
  simp only [Bool.and_eq_true, beq_iff_eq] at hvalid
  refine ⟨rfl, ite_self none, ⟨x, hx, hvalid.1, hvalid.2⟩, fun e he => ?_,
    Event.exists_serving hserves⟩
  simpa using List.all_eq_true.mp hkept e he

end CloudSession
