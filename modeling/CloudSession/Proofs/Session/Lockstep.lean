/-
Two clients side by side. Two actions go in lockstep under a relation between
scenes if from related scenes they give the same and leave related scenes
(`Lockstep`). A relation that the basic actions go along with, under which two
sessions may differ in the connection they remember (`Mirrors`), is gone along
with by all that does not look at that connection, by calls once it is so by the
way they get their connection (`Mirrors.callBy`), and by polls and waits once it
is so by their calls (`lockstep_pollBy`, `lockstep_waitBy`).
-/
import CloudSession.Proofs.Session.Upkeep

namespace CloudSession

namespace Action

-- ================================================================== lockstep

/-- From related scenes two actions give the same and leave related scenes. -/
structure Lockstep {α : Type} (R : Scene → Scene → Prop) (a b : Action α) : Prop where
  value : ∀ {s t}, R s t → (a.outcome s).1 = (b.outcome t).1
  scene : ∀ {s t}, R s t → R (a.outcome s).2 (b.outcome t).2

namespace Lockstep

variable {α β : Type} {R : Scene → Scene → Prop} {a b : Action α}

/-- What comes of both, by what came of the one. -/
theorem of_outcome (h : ∀ s t, R s t →
    ∃ t', b.outcome t = ((a.outcome s).1, t') ∧ R (a.outcome s).2 t') : Lockstep R a b := by
  refine ⟨fun {s t} hst => ?_, fun {s t} hst => ?_⟩
  · obtain ⟨t', ht', -⟩ := h s t hst
    rw [ht']
  · obtain ⟨t', ht', hR⟩ := h s t hst
    rw [ht']
    exact hR

theorem outcome (h : Lockstep R a b) {s t : Scene} (hst : R s t) :
    ∃ t', b.outcome t = ((a.outcome s).1, t') ∧ R (a.outcome s).2 t' :=
  ⟨(b.outcome t).2, by rw [h.value hst], h.scene hst⟩

protected theorem pure (x : α) : Lockstep R (pure x) (pure x) := ⟨fun _ => rfl, fun hst => hst⟩

protected theorem throw (e : SessionError) : Lockstep R (throw e : Action α) (throw e) :=
  ⟨fun _ => rfl, fun hst => hst⟩

protected theorem attempt (r : Except SessionError α) : Lockstep R (attempt r) (attempt r) := by
  refine of_outcome fun s t hst => ⟨t, ?_, ?_⟩
  · rw [outcome_attempt, outcome_attempt]
  · rw [outcome_attempt]
    exact hst

protected theorem bind {f g : α → Action β} (h : Lockstep R a b)
    (hf : ∀ x, Lockstep R (f x) (g x)) : Lockstep R (a >>= f) (b >>= g) := by
  refine of_outcome fun s t hst => ?_
  obtain ⟨t', ht', hst'⟩ := h.outcome hst
  rw [outcome_bind, outcome_bind, ht']
  rcases ho : a.outcome s with ⟨e | x, s'⟩
  · rw [ho] at hst'
    exact ⟨t', rfl, hst'⟩
  · rw [ho] at hst'
    exact (hf x).outcome hst'

/-- The value is passed on. -/
protected theorem returning (h : Lockstep R a b) (f : α → β) :
    Lockstep R (do return f (← a)) (do return f (← b)) :=
  .bind h fun _ => .pure _

protected theorem ignoringErrors {a b : Action Unit} (h : Lockstep R a b) :
    Lockstep R (ignoringErrors a) (ignoringErrors b) := by
  refine of_outcome fun s t hst => ⟨(b.outcome t).2, ?_, ?_⟩
  · rw [outcome_ignoringErrors, outcome_ignoringErrors]
  · rw [outcome_ignoringErrors]
    exact h.scene hst

/-- What either scene holds is passed on. -/
theorem get_bind {f g : Scene → Action β} (hf : ∀ s t, R s t → Lockstep R (f s) (g t)) :
    Lockstep R (get >>= f) (get >>= g) := by
  refine of_outcome fun s t hst => ?_
  rw [outcome_bind, outcome_bind, outcome_get, outcome_get]
  exact (hf s t hst).outcome hst

/-- Two actions stay in lockstep where something else holds of either that its
own action keeps. -/
theorem and {P Q : Scene → Prop} (h : Lockstep R a b) (ha : Triple P a (fun _ => P) P)
    (hb : Triple Q b (fun _ => Q) Q) :
    Lockstep (fun s t => R s t ∧ P s ∧ Q t) a b where
  value hst := h.value hst.1
  scene hst := ⟨h.scene hst.1, ha.leaves hst.2.1, hb.leaves hst.2.2⟩

end Lockstep
end Action

namespace Client

open CloudSession.Action

-- =================================================================== mirrors

/-- A change of the session that goes the same way whichever connection is
remembered. -/
def Blind (f : Session → Session) : Prop :=
  ∀ x r, ∃ r', f { x with resolved := r } = { f x with resolved := r' }

/-- A relation between scenes that the basic actions of a client go along with.
The sessions are the same but for the connection that they remember. -/
structure Mirrors (c : Client) (R : Scene → Scene → Prop) : Prop where
  session : ∀ {s t}, R s t → ∃ r, t.session = { s.session with resolved := r }
  time : ∀ {s t}, R s t → t.outside.now = s.outside.now
  network : ∀ {s t}, R s t → t.outside.network = s.outside.network
  setSession : ∀ {f}, Blind f → Lockstep R (setSession f) (setSession f)
  send : ∀ purpose request, Lockstep R (send purpose request) (send purpose request)
  connection : ∀ connection, Lockstep R (openConnection connection) (openConnection connection)
  get : Lockstep R (storeGet c.key) (storeGet c.key)
  put : ∀ x, Lockstep R (storePut c.key x) (storePut c.key x)
  clear : Lockstep R (storeClear c.key) (storeClear c.key)

/-- Finds the connection for the client's requests, whether or not one is
remembered. -/
def resolveAfresh (c : Client) : Action Connection := do
  let connection ← attempt (Connection.ofUrl (← c.endpoint c.defaults))
  Action.setSession fun s => { s with resolved := some connection }
  return connection

/-- What is remembered is not looked for. -/
theorem outcome_resolve (c : Client) (s : Scene) :
    c.resolve.outcome s = match s.session.resolved with
      | some connection => (.ok connection, s)
      | none => c.resolveAfresh.outcome s := by
  rw [resolve, outcome_bind, outcome_session]
  show (match s.session.resolved with
    | some connection => pure connection
    | none => c.resolveAfresh).outcome s = _
  cases s.session.resolved with
  | some connection => rfl
  | none => rfl

/-- What a call does, by the way it gets its connection. -/
def callBy (c : Client) (resolve : Action Connection) (action : String) (method : Method)
    (headers : Headers) (body : Option ByteArray) : Action Response := do
  let current ← c.active
  let connection ← resolve
  connect connection
  let request : Request :=
    ⟨method, connection.urlFor action,
      c.requestHeaders method current.context.token headers, body⟩
  match ← Action.send .service request with
  | .error message => throw (.transport message)
  | .ok response => c.settle current.forced response

namespace Mirrors

variable {c : Client} {R : Scene → Scene → Prop} (h : c.Mirrors R)

include h

/-- All of the session but the connection is the same to both. -/
theorem session_bind {β : Type} {f g : Session → Action β}
    (hf : ∀ x r, Lockstep R (f x) (g { x with resolved := r })) :
    Lockstep R (Action.session >>= f) (Action.session >>= g) := by
  refine .of_outcome fun s t hst => ?_
  obtain ⟨r, hr⟩ := h.session hst
  rw [outcome_bind, outcome_bind, outcome_session, outcome_session, hr]
  exact (hf s.session r).outcome hst

-- =============================================================== negotiation

theorem isValid (context : Context) : Lockstep R (c.isValid context) (c.isValid context) := by
  have hnow : Lockstep R now now := by
    refine .of_outcome fun s t hst => ⟨t, ?_, hst⟩
    rw [outcome_now, outcome_now, h.time hst]
  refine .bind hnow fun now => ?_
  split
  · exact .pure _
  · exact .throw _

theorem remember (context : Context) : Lockstep R (c.remember context) (c.remember context) :=
  h.setSession fun _ r => ⟨r, rfl⟩

theorem cached : Lockstep R c.cached c.cached := by
  refine .bind h.get fun found => ?_
  cases found with
  | some context => exact .bind (h.remember context) fun _ => .pure _
  | none => exact h.session_bind fun _ _ => .pure _

theorem cachedValid : Lockstep R c.cachedValid c.cachedValid := by
  refine .bind h.cached fun found => ?_
  cases found with
  | none => exact .pure _
  | some context => exact .bind (h.isValid context) fun _ => .pure _

theorem renew : Lockstep R c.renew c.renew := by
  have hhandshake : Lockstep R c.handshake c.handshake :=
    .bind (.attempt _) fun _ => .bind (h.send _ _) fun _ => .attempt _
  refine .bind hhandshake fun context => ?_
  refine .bind (h.remember context) fun _ => ?_
  exact .bind (.ignoringErrors (h.put context)) fun _ => .pure _

theorem negotiate (force : Bool) : Lockstep R (c.negotiate force) (c.negotiate force) := by
  unfold Client.negotiate
  split
  · exact h.renew
  · refine .bind h.cachedValid fun found => ?_
    cases found with
    | some context => exact .pure _
    | none => exact h.renew

theorem clearCached : Lockstep R c.clearCached c.clearCached :=
  .bind (h.setSession fun _ r => ⟨r, rfl⟩) fun _ => h.clear

-- =================================================================== sessions

theorem authenticate (force : Bool) :
    Lockstep R (c.authenticate force) (c.authenticate force) := by
  refine .bind (h.negotiate force) fun context => .bind (.attempt _) fun catalog => ?_
  exact .bind (h.setSession fun _ _ => ⟨none, rfl⟩) fun _ => .pure _

theorem installedValid : Lockstep R c.installedValid c.installedValid := by
  refine h.session_bind fun session r => ?_
  obtain ⟨context, catalog, resolved, revoked⟩ := session
  cases context with
  | none => exact .pure _
  | some context => exact .bind (h.isValid context) fun _ => .pure _

theorem active : Lockstep R c.active c.active := by
  refine h.session_bind fun session r => ?_
  have hforced : c.forcedToken? { session with resolved := r } = c.forcedToken? session := rfl
  simp only [hforced]
  cases c.forcedToken? session with
  | some token => exact .pure _
  | none =>
    refine .bind h.installedValid fun found => ?_
    cases found with
    | some context => exact .pure _
    | none => exact .bind (h.authenticate false) fun _ => .pure _

theorem ensureSession : Lockstep R c.ensureSession c.ensureSession :=
  .bind h.active fun _ => .pure _

-- ================================================================== endpoints

theorem catalog : Lockstep R c.catalog c.catalog := by
  refine .bind h.active fun active => ?_
  split
  · exact .pure _
  · exact h.session_bind fun _ _ => .pure _

theorem endpoint (wanted : Wanted) : Lockstep R (c.endpoint wanted) (c.endpoint wanted) := by
  unfold Client.endpoint
  split
  · exact .pure _
  · exact .bind h.catalog fun _ => .attempt _

theorem resolveAfresh : Lockstep R c.resolveAfresh c.resolveAfresh := by
  refine .bind (h.endpoint c.defaults) fun url => .bind (.attempt _) fun connection => ?_
  exact .bind (h.setSession fun _ _ => ⟨some connection, rfl⟩) fun _ => .pure _

/-- If both remember the same connection, both get the same one. -/
theorem resolve (hresolved : ∀ {s t}, R s t → t.session.resolved = s.session.resolved) :
    Lockstep R c.resolve c.resolve := by
  refine .of_outcome fun s t hst => ?_
  rw [outcome_resolve, outcome_resolve, hresolved hst]
  cases s.session.resolved with
  | some connection => exact ⟨t, rfl, hst⟩
  | none => exact h.resolveAfresh.outcome hst

theorem invalidate : Lockstep R Client.invalidate Client.invalidate :=
  h.setSession fun _ _ => ⟨none, rfl⟩

theorem connect (connection : Connection) :
    Lockstep R (Client.connect connection) (Client.connect connection) := by
  refine h.session_bind fun session r => ?_
  show Lockstep R (if session.connected.any (·.sameConnection connection) then _ else _)
    (if session.connected.any (·.sameConnection connection) then _ else _)
  split
  · exact .pure _
  · exact .bind (h.connection connection) fun _ => h.setSession fun _ r => ⟨r, rfl⟩

-- =================================================================== requests

theorem onUnauthorized (forced : Bool) :
    Lockstep R (c.onUnauthorized forced) (c.onUnauthorized forced) := by
  unfold Client.onUnauthorized
  split
  · exact .bind (h.setSession fun _ _ => ⟨none, rfl⟩) fun _ => .ignoringErrors h.clearCached
  · split
    · exact h.setSession fun _ _ => ⟨none, rfl⟩
    · exact .pure _

theorem settle (forced : Bool) (r : Response) :
    Lockstep R (c.settle forced r) (c.settle forced r) := by
  unfold Client.settle
  split
  · exact .pure _
  · split
    · exact .bind (h.onUnauthorized forced) fun _ => .throw _
    · exact .throw _

/-- Calls go in lockstep if they get their connections so. -/
theorem callBy {resolve resolve' : Action Connection} (hresolve : Lockstep R resolve resolve')
    (action : String) (method : Method) (headers : Headers) (body : Option ByteArray) :
    Lockstep R (c.callBy resolve action method headers body)
      (c.callBy resolve' action method headers body) := by
  refine .bind h.active fun current => .bind hresolve fun connection => ?_
  refine .bind (h.connect connection) fun _ => .bind (h.send _ _) fun answer => ?_
  cases answer with
  | error message => exact .throw _
  | ok response => exact h.settle current.forced response

end Mirrors

-- ====================================================================== waits

/-- A way to make calls. -/
abbrev Calling := String → Method → Headers → Option ByteArray → Action Response

/-- What a poll does, by the way its call is made. -/
def pollBy (call : Calling) (format : Task.Format) (ref : String) : Action Task.Status := do
  let response ← call ref .get Headers.empty none
  attempt (Task.parseStatus format response)

/-- What a wait does, by the way its calls are made. -/
def waitBy (call : Calling) (format : Task.Format) (ref : String) (timeout interval : Nat) :
    Action Task.Watched := do
  let pending := (← get).outside.network.answers.length
  Task.waitFrom (pollBy call format ref) ref timeout interval
    (Task.pollBound timeout interval pending) 0 0

section Waits

variable {R : Scene → Scene → Prop} {call call' : Calling}
  (h : ∀ action method headers body,
    Lockstep R (call action method headers body) (call' action method headers body))

include h

theorem lockstep_pollBy (format : Task.Format) (ref : String) :
    Lockstep R (pollBy call format ref) (pollBy call' format ref) :=
  .bind (h ref .get .empty none) fun _ => .attempt _

theorem lockstep_waitFrom (format : Task.Format) (ref : String)
    (timeout interval bound polls elapsed : Nat) :
    Lockstep R
      (Task.waitFrom (pollBy call format ref) ref timeout interval bound polls elapsed)
      (Task.waitFrom (pollBy call' format ref) ref timeout interval bound polls elapsed) := by
  induction bound generalizing polls elapsed with
  | zero => exact .throw _
  | succ bound ih =>
    refine .bind (lockstep_pollBy h format ref) fun status => ?_
    split
    · exact .pure _
    · exact .throw _
    · split
      · exact .throw _
      · exact ih _ _

/-- Waits go in lockstep if their calls do, in scenes with the same network. -/
theorem lockstep_waitBy (hnetwork : ∀ {s t}, R s t → t.outside.network = s.outside.network)
    (format : Task.Format) (ref : String) (timeout interval : Nat) :
    Lockstep R (waitBy call format ref timeout interval)
      (waitBy call' format ref timeout interval) := by
  refine .get_bind fun s t hst => ?_
  rw [hnetwork hst]
  exact lockstep_waitFrom h format ref timeout interval _ _ _

end Waits

end Client
end CloudSession
