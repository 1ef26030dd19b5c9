/-
What one call does. It is to perform at most one handshake and to send at most
one request, with the token of the installed context and to an endpoint from
the same context's catalog (`OneSession`). That is so exactly unless a session
that has expired on arrival is asked for its catalog (`oneSession_iff_lasting`).
-/
import CloudSession.Proofs.Session.Handshakes

namespace CloudSession.Client

open CloudSession.Action

-- =============================================================== preparation

/-- What a call does before it sends its request. -/
def prepare (c : Client) : Action (Active × Connection) := do
  let current ← c.active
  let connection ← c.resolve
  connect connection
  return (current, connection)

/-- The request of a call. -/
def requestOf (c : Client) (action : String) (method : Method) (headers : Headers)
    (body : Option ByteArray) (token : String) (connection : Connection) : Request :=
  ⟨method, connection.urlFor action, c.requestHeaders method token headers, body⟩

/-- What a call does once it is prepared. -/
def submit (c : Client) (current : Active) (request : Request) : Action Response := do
  match ← send .service request with
  | .error message => throw (.transport message)
  | .ok response => c.settle current.forced response

variable {c : Client} {action : String} {method : Method} {headers : Headers}
  {body : Option ByteArray}

theorem call_eq : c.call action method headers body = (do
    let (current, connection) ← c.prepare
    c.submit current
      (c.requestOf action method headers body current.context.token connection)) := by
  unfold call prepare
  rw [bind_assoc]
  refine bind_congr fun current => ?_
  rw [bind_assoc]
  refine bind_congr fun connection => ?_
  rw [bind_assoc]
  refine bind_congr fun _ => ?_
  rw [pure_bind]
  rfl

/-- An endpoint that the installed catalog gives is where a connection leads. -/
def Reaches (c : Client) (i : Installed) (connection : Connection) : Prop :=
  ∃ url, i.catalog.endpoint c.selector c.defaults = .ok url ∧
    Connection.ofUrl url = .ok connection

theorem EndpointOf.endpoint_eq {s : Session} {wanted : Wanted} {url : String} {i : Installed}
    (h : c.EndpointOf s wanted url) (hi : s.installed = some i) :
    i.catalog.endpoint c.selector wanted = .ok url := by
  obtain hbase | ⟨-, entries, hentries, hurl⟩ := h
  · simp only [Catalog.endpoint, hbase]
  · obtain rfl := Option.some.inj ((Session.installed_eq_some.mp hi).2.symm.trans hentries)
    exact hurl

-- ============================================================== one handshake

/-- The session that an operation gets has expired already. -/
def ExpiredOnArrival (c : Client) (s : Scene) : Prop :=
  ∃ x s', c.active.outcome s = (.ok ⟨x, false⟩, s') ∧
    x.isValid s.outside.now c.skew = some false

/-- After a session was got, an endpoint can be found without a handshake, if
no token or a base URL is forced or the session has not expired. -/
theorem settled_of_active {s : Scene} (hfits : c.Fits s) (hcount : s.handshakes = 0)
    (hgood : c.selector.baseUrl ≠ none ∨ ¬c.ExpiredOnArrival s) :
    Triple (· = s) c.active
      (fun a s' => ∃ o, (c.Settled 1 o s' ∧ c.Fits s') ∧
        (c.forcedToken? s.session = none → ∃ i, o = some i ∧ i.context = a.context))
      (·.handshakes ≤ 1) := by
  cases hforced : c.forcedToken? s.session with
  | some token =>
    refine .of_outcome ?_
    intro _ heq
    subst heq
    rw [outcome_active_forced hforced]
    refine ⟨_, ⟨⟨by omega, rfl, Or.inl (by simp [hforced])⟩, hfits⟩, fun h => ?_⟩
    exact absurd h (by simp)
  | none =>
    refine ((held_active.and fits_active).and
      ((Triple.outcome c.active s).frame c.quiet_active (F := fun s' =>
        s'.outside.now = s.outside.now) fun _ _ hquiet hs => hquiet.now.trans hs)).conseq
      ?_ ?_ fun _ hs => hs.1.1
    · intro _ heq
      subst heq
      exact ⟨⟨⟨hcount, hforced⟩, hfits⟩, rfl, rfl⟩
    · intro heq s' hown
      obtain ⟨x, forced⟩ := heq
      obtain ⟨⟨⟨hown, hheld⟩, hfits'⟩, houtcome, hnow⟩ := hown
      obtain rfl : forced = false := hown
      obtain ⟨i, hi, hx⟩ := hfits'.installed hheld.context
      refine ⟨some i, ⟨⟨hheld.handshakes, hi, ?_⟩, hfits'⟩, fun _ => ⟨i, rfl, hx⟩⟩
      refine Or.inr (hgood.imp_right fun hlasting => ⟨i, rfl, fun hinvalid => hlasting ?_⟩)
      rw [hx, hnow] at hinvalid
      exact ⟨x, s', houtcome, hinvalid⟩

/-- A call is prepared with one handshake at most, and with the installed
session throughout. -/
theorem settled_prepare {s : Scene} (hfits : c.Fits s) (hcount : s.handshakes = 0)
    (hgood : c.selector.baseUrl ≠ none ∨ ¬c.ExpiredOnArrival s) :
    Triple (· = s) c.prepare
      (fun prepared s' => s'.handshakes ≤ 1 ∧ (c.forcedToken? s.session = none →
        ∃ i, s'.session.installed = some i ∧ i.context = prepared.1.context ∧
          c.Reaches i prepared.2))
      (·.handshakes ≤ 1) := by
  refine .bind (settled_of_active hfits hcount hgood) fun a => .of_exists fun o => ?_
  have hresolve : Triple (fun s' => (c.Settled 1 o s' ∧ c.Fits s') ∧
        (c.forcedToken? s.session = none → ∃ i, o = some i ∧ i.context = a.context))
      c.resolve
      (fun connection s' => c.Settled 1 o s' ∧ (c.forcedToken? s.session = none →
        ∃ i, o = some i ∧ i.context = a.context ∧ c.Reaches i connection))
      (·.handshakes ≤ 1) := by
    refine ((settled_resolve.and fits_resolve).frame c.quiet_resolve
      (F := fun _ => c.forcedToken? s.session = none → ∃ i, o = some i ∧ i.context = a.context)
      fun _ _ _ h => h).conseq (fun _ hs => hs) ?_ fun _ hs => hs.1.1.handshakes
    intro connection s' hs
    obtain ⟨⟨hs, -, url, hurl, hof⟩, hown⟩ := hs
    refine ⟨hs, fun hforced => ?_⟩
    obtain ⟨i, rfl, hi⟩ := hown hforced
    exact ⟨i, rfl, hi, url, hurl.endpoint_eq hs.installed, hof⟩
  refine .bind hresolve fun connection => ?_
  refine .bind (((settled_connect connection).frame (quiet_connect connection)
    (F := fun _ => c.forcedToken? s.session = none →
      ∃ i, o = some i ∧ i.context = a.context ∧ c.Reaches i connection)
    fun _ _ _ h => h).conseq (fun _ hs => hs) (fun _ _ hs => hs) fun _ hs => hs.1.handshakes)
    fun _ => .pure ?_
  intro s' hs
  obtain ⟨hs, hown⟩ := hs
  refine ⟨hs.handshakes, fun hforced => ?_⟩
  obtain ⟨i, rfl, hi⟩ := hown hforced
  exact ⟨i, hs.installed, hi⟩

-- ============================================================= two handshakes

/-- A session that has expired on arrival is outworn, whoever asked for it. -/
theorem outworn_of_expired {s s' : Scene} {x : Context} (hcount : s.handshakes = 0)
    (houtcome : c.active.outcome s = (.ok ⟨x, false⟩, s'))
    (hinvalid : x.isValid s.outside.now c.skew = some false) :
    c.Outworn 1 s' ∧ ∃ request, Handshake.request c.identity = .ok request := by
  have hforced : c.forcedToken? s.session = none := by
    cases hforced : c.forcedToken? s.session with
    | none => rfl
    | some token =>
      rw [outcome_active_forced hforced] at houtcome
      exact absurd houtcome (by simp)
  have hquiet := c.quiet_active.of_outcome houtcome
  obtain ⟨-, hheld⟩ := held_active.ok ⟨hcount, hforced⟩ houtcome
  rw [← hquiet.now] at hinvalid
  obtain ⟨honce, hstale, hrequest⟩ := hheld.expired hinvalid
  exact ⟨⟨honce, hstale, (forcedToken?_quiet hquiet).trans hforced, ⟨x, hheld.context, hinvalid⟩,
    hheld.unresolved hinvalid⟩, hrequest⟩

/-- Where no base URL is forced, a call with a session that has expired on
arrival performs a second handshake. -/
theorem repeated_call {s : Scene} (hcount : s.handshakes = 0)
    (hbase : c.selector.baseUrl = none) (hexpired : c.ExpiredOnArrival s) :
    2 ≤ ((c.call action method headers body).outcome s).2.handshakes := by
  obtain ⟨x, s', houtcome, hinvalid⟩ := hexpired
  obtain ⟨houtworn, hrequest⟩ := outworn_of_expired hcount houtcome hinvalid
  rw [call, outcome_bind, houtcome]
  refine Triple.leaves (P := c.Outworn 1) (I := (2 ≤ ·.handshakes)) ?_ houtworn
  refine .bind (repeated_resolve hrequest hbase) fun connection => ?_
  refine .bind (counted_quiet (quiet_connect connection)) fun _ => ?_
  refine .bind (.send (Q := fun _ => (2 ≤ ·.handshakes)) fun s _ _ hs _ => ?_) fun answer => ?_
  · exact Nat.le_trans hs (Grows.noting _ rfl rfl).handshakes_le
  · split
    · exact .throw fun _ hs => hs
    · exact counted_grows (c.grows_settle _ _)

-- =================================================================== one call

/-- One call performs at most one handshake and sends at most one request.
With a session of the client's own it sends the token of the context that is
installed by then, to an endpoint from the catalog of that context. -/
structure OneSession (c : Client) (action : String) (method : Method) (headers : Headers)
    (body : Option ByteArray) (s : Scene) : Prop where
  handshakes : ((c.call action method headers body).outcome s).2.handshakes ≤ 1
  services : ((c.call action method headers body).outcome s).2.outside.log.countP
    Event.isService ≤ 1
  session : c.forcedToken? s.session = none → ∀ r answer, .exchange .service r answer ∈
      ((c.call action method headers body).outcome s).2.outside.log →
    ∃ i connection, (c.prepare.outcome s).2.session.installed = some i ∧
      c.Reaches i connection ∧
      r = c.requestOf action method headers body i.context.token connection

/-- Besides its one request a call that is prepared sends nothing. -/
theorem submit_log (a : Active) (r : Request) (s : Scene) :
    ∃ answer new, ((c.submit a r).outcome s).2.outside.log
        = s.outside.log ++ .exchange .service r answer :: new ∧
      ∀ e ∈ new, e.isRequest = false := by
  rw [submit, outcome_bind, outcome_send]
  cases hanswer : s.outside.network.send.1 with
  | error message => exact ⟨.error message, [], rfl, by simp⟩
  | ok response =>
    obtain ⟨new, hnew, hall⟩ := ((c.grows_settle a.forced response).step
      ((s.withNetwork s.outside.network.send.2).noting
        (.exchange .service r (.ok response)))).log
    refine ⟨.ok response, new, ?_, fun e he => by simpa using hall e he⟩
    rw [← List.singleton_append, ← List.append_assoc]
    exact hnew

/-- Nothing is sent to the service while a call is prepared. -/
theorem quiet_prepare (c : Client) : Steps Quiet c.prepare :=
  .bind c.quiet_active fun _ => .bind c.quiet_resolve fun connection =>
    .bind (quiet_connect connection) fun _ => .pure _

theorem noService_prepare {s : Scene} (hlog : s.outside.log = []) :
    ∀ e ∈ (c.prepare.outcome s).2.outside.log, e.isService = false := by
  obtain ⟨new, hnew, hall⟩ := (c.quiet_prepare.step s).log
  rw [hnew, hlog, List.nil_append]
  exact fun e he => Event.not_isService_of_isQuiet (hall e he)

/-- A call that cannot be prepared ends there. -/
theorem call_unprepared {s s' : Scene} {e : SessionError}
    (hprepare : c.prepare.outcome s = (.error e, s')) :
    ((c.call action method headers body).outcome s).2 = s' := by
  rw [call_eq, outcome_bind, hprepare]

/-- A call that is prepared goes on with its one request. -/
theorem call_prepared {s s' : Scene} {a : Active} {connection : Connection}
    (hprepare : c.prepare.outcome s = (.ok (a, connection), s')) :
    ∃ answer new, ((c.call action method headers body).outcome s).2.outside.log
        = s'.outside.log ++ .exchange .service
          (c.requestOf action method headers body a.context.token connection) answer :: new ∧
      ∀ e ∈ new, e.isService = false ∧ e.isHandshake = false := by
  obtain ⟨answer, new, hsubmit, hnew⟩ := c.submit_log a
    (c.requestOf action method headers body a.context.token connection) s'
  refine ⟨answer, new, ?_, fun e he => by simpa [Event.isRequest] using hnew e he⟩
  rw [call_eq, outcome_bind, hprepare]
  exact hsubmit

/-- Without a session that has expired on arrival, or with a forced base URL, a
call is as it is to be. -/
theorem oneSession_of_lasting {s : Scene} (hfits : c.Fits s) (hlog : s.outside.log = [])
    (hgood : c.selector.baseUrl ≠ none ∨ ¬c.ExpiredOnArrival s) :
    c.OneSession action method headers body s := by
  have hcount : s.handshakes = 0 := by rw [Scene.handshakes, hlog, List.countP_nil]
  have hsettled := settled_prepare hfits hcount hgood
  have hnoService := c.noService_prepare hlog
  rcases hp : c.prepare.outcome s with ⟨e | ⟨a, connection⟩, s'⟩
  · rw [hp] at hnoService
    refine ⟨?_, ?_, fun _ r answer hsent => ?_⟩
    · rw [call_unprepared hp]
      exact hsettled.error rfl hp
    · rw [call_unprepared hp, List.countP_eq_zero.mpr fun e he => by simp [hnoService e he]]
      exact Nat.zero_le 1
    · rw [call_unprepared hp] at hsent
      exact absurd (hnoService _ hsent) (by simp [Event.isService])
  · obtain ⟨honce, hown⟩ := hsettled.ok rfl hp
    obtain ⟨answer, new, hafter, hnone⟩ := call_prepared hp
    rw [hp] at hnoService
    refine ⟨?_, ?_, fun hforced r answer' hsent => ?_⟩
    · have hlater : new.countP Event.isHandshake = 0 :=
        List.countP_eq_zero.mpr fun e he => by simp [(hnone e he).2]
      rw [Scene.handshakes, hafter, List.countP_append, List.countP_cons, hlater]
      exact honce
    · have hearlier : s'.outside.log.countP Event.isService = 0 :=
        List.countP_eq_zero.mpr fun e he => by simp [hnoService e he]
      have hlater : new.countP Event.isService = 0 :=
        List.countP_eq_zero.mpr fun e he => by simp [(hnone e he).1]
      rw [hafter, List.countP_append, List.countP_cons, hearlier, hlater]
      exact Nat.le_refl 1
    · obtain ⟨i, hi, hx, hreaches⟩ := hown hforced
      refine ⟨i, connection, by rw [hp]; exact hi, hreaches, ?_⟩
      rw [hafter] at hsent
      rcases List.mem_append.mp hsent with hsent | hsent
      · exact absurd (hnoService _ hsent) (by simp [Event.isService])
      rcases List.mem_cons.mp hsent with hsent | hsent
      · obtain ⟨-, rfl, -⟩ := Event.exchange.inj hsent
        rw [hx]
      · exact absurd (hnone _ hsent).1 (by simp [Event.isService])

/-- A call is as it is to be unless the session that it gets has expired on
arrival and its catalog is needed. -/
theorem oneSession_iff_lasting {s : Scene} (hfits : c.Fits s) (hlog : s.outside.log = []) :
    c.OneSession action method headers body s ↔
      c.selector.baseUrl ≠ none ∨ ¬c.ExpiredOnArrival s := by
  have hcount : s.handshakes = 0 := by rw [Scene.handshakes, hlog, List.countP_nil]
  constructor
  · intro hone
    by_cases hbase : c.selector.baseUrl = none
    · refine Or.inr fun hexpired => ?_
      have htwo := Nat.le_trans (repeated_call hcount hbase hexpired) hone.handshakes
      exact absurd htwo (by decide)
    · exact Or.inl hbase
  · exact oneSession_of_lasting hfits hlog

end CloudSession.Client
