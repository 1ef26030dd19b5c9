/-
A session that stays valid. As long as no rejection comes, the client needs
nothing but the context in use: it performs no handshake and calls no store,
and what it sends carries that context's token (`Steady`). That the caches are
not even looked at is a matter of two scenes, which differ in what is cached
and in nothing else (`Beside`): whatever the client does gives the same in both
and the same events up to a rejection. Both facts are carried through an action
at once (`Tandem`), from getting the session (`tandem_active`) to a call and a
wait (`tandem_call`, `tandem_wait`).
-/
import CloudSession.Proofs.Session.Forced
import CloudSession.Proofs.Session.Memo
import CloudSession.Proofs.Session.Reported

namespace CloudSession

open CloudSession.Action

-- ================================================================ rejections

/-- The events of a log up to its first rejection, that one included. -/
def untilRejection : List Event → List Event
  | [] => []
  | e :: rest => if e.isRejection then [e] else e :: untilRejection rest

theorem untilRejection_eq_self {log : List Event} (h : ∀ e ∈ log, e.isRejection = false) :
    untilRejection log = log := by
  induction log with
  | nil => rfl
  | cons e rest ih =>
    have he : e.isRejection = false := h e List.mem_cons_self
    rw [untilRejection, he, if_neg (by simp), ih fun d hd => h d (List.mem_cons_of_mem e hd)]

theorem untilRejection_append {before after : List Event} {e : Event}
    (hbefore : ∀ d ∈ before, d.isRejection = false) (he : e.isRejection = true) :
    untilRejection (before ++ e :: after) = before ++ [e] := by
  induction before with
  | nil => rw [List.nil_append, untilRejection, if_pos he, List.nil_append]
  | cons d rest ih =>
    have hd : d.isRejection = false := hbefore d List.mem_cons_self
    rw [List.cons_append, untilRejection, hd, if_neg (by simp),
      ih fun d' hd' => hbefore d' (List.mem_cons_of_mem d hd'), List.cons_append]

-- ==================================================================== scenes

/-- The scene with other caches. -/
def Scene.withCaches (s : Scene) (memory : MemoryStore) (store : Option SharedStore) : Scene where
  session := { s.session with memory := memory }
  outside := { s.outside with store := store }

-- ==================================================================== tandem

namespace Action

variable {α β : Type}

/-- From related scenes two actions give the same, be it a value or an error,
and leave scenes that are related as befits it. -/
structure Tandem (R : Scene → Scene → Prop) (a b : Action α) (Q : α → Scene → Scene → Prop)
    (E : Scene → Scene → Prop) : Prop where
  ends : ∀ {s t}, R s t → ∃ result s' t', a.outcome s = (result, s') ∧
    b.outcome t = (result, t') ∧ match result with
      | .ok x => Q x s' t'
      | .error _ => E s' t'

namespace Tandem

variable {R E : Scene → Scene → Prop} {a b : Action α} {Q : α → Scene → Scene → Prop}

/-- In either scene the action gives a value. -/
theorem of_ok (h : ∀ s t, R s t → ∃ x s' t', a.outcome s = (.ok x, s') ∧
    b.outcome t = (.ok x, t') ∧ Q x s' t') : Tandem R a b Q E where
  ends {s t} hst := by
    obtain ⟨x, s', t', hs, ht, hx⟩ := h s t hst
    exact ⟨.ok x, s', t', hs, ht, hx⟩

theorem pre {R' : Scene → Scene → Prop} (h : Tandem R a b Q E) (hR : ∀ s t, R' s t → R s t) :
    Tandem R' a b Q E :=
  ⟨fun hst => h.ends (hR _ _ hst)⟩

protected theorem pure {x : α} (h : ∀ s t, R s t → Q x s t) :
    Tandem R (pure x) (pure x) Q E :=
  of_ok fun s t hst => ⟨x, s, t, rfl, rfl, h s t hst⟩

protected theorem throw {e : SessionError} (h : ∀ s t, R s t → E s t) :
    Tandem R (throw e : Action α) (throw e) Q E :=
  ⟨fun hst => ⟨.error e, _, _, rfl, rfl, h _ _ hst⟩⟩

protected theorem attempt {r : Except SessionError α} (h : ∀ s t, R s t → E s t) :
    Tandem R (attempt r) (attempt r) (fun _ => R) E := by
  cases r with
  | ok x => exact .pure fun _ _ hst => hst
  | error e => exact .throw h

protected theorem bind {f g : α → Action β} {Q' : β → Scene → Scene → Prop}
    (h : Tandem R a b Q E) (hf : ∀ x, Tandem (Q x) (f x) (g x) Q' E) :
    Tandem R (a >>= f) (b >>= g) Q' E where
  ends hst := by
    obtain ⟨result, s', t', hs, ht, hends⟩ := h.ends hst
    rw [outcome_bind, outcome_bind, hs, ht]
    cases result with
    | error e => exact ⟨.error e, s', t', rfl, rfl, hends⟩
    | ok x => exact (hf x).ends hends

/-- A value that is known is gone on with. -/
theorem bind_known {f g : α → Action β} {R' : Scene → Scene → Prop}
    {Q' : β → Scene → Scene → Prop} {x : α} (h : Tandem R a b (fun y s t => R' s t ∧ y = x) E)
    (hf : Tandem R' (f x) (g x) Q' E) : Tandem R (a >>= f) (b >>= g) Q' E := by
  refine h.bind fun y => ⟨fun hst => ?_⟩
  obtain ⟨hst, rfl⟩ := hst
  exact hf.ends hst

/-- The value is passed on. -/
protected theorem returning {R' : Scene → Scene → Prop} (h : Tandem R a b (fun _ => R') E)
    (f : α → β) : Tandem R (do return f (← a)) (do return f (← b)) (fun _ => R') E :=
  .bind h fun _ => .pure fun _ _ hst => hst

/-- What either scene holds is passed on. -/
theorem get_bind {f g : Scene → Action β} {Q : β → Scene → Scene → Prop}
    (hf : ∀ s t, R s t → Tandem R (f s) (g t) Q E) : Tandem R (get >>= f) (get >>= g) Q E where
  ends {s t} hst := by
    rw [outcome_bind, outcome_bind, outcome_get, outcome_get]
    exact (hf s t hst).ends hst

end Tandem
end Action

namespace Client

-- ============================================================ steady sessions

/-- The event is neither a handshake nor a call of the shared store, and if it
is a request to the service it carries the token. -/
def Uses (c : Client) (caller : Headers) (token : String) (e : Event) : Prop :=
  e.isNegotiation = false ∧
    ∀ r answer, e = .exchange .service r answer → c.Carries caller r token

/-- The context is in use and valid, and it is all that was used. No rejection
has come, and both caches are as they were. -/
structure Steady (c : Client) (x : Context) (caller : Headers) (s₀ s : Scene) : Prop where
  unforced : c.forcedToken? s.session = none
  context : s.session.context = some x
  valid : x.isValid s.outside.now c.skew = some true
  memory : s.session.memory = s₀.session.memory
  store : s.outside.store = s₀.outside.store
  log : ∀ e ∈ s.outside.log, e.isRejection = false ∧ c.Uses caller x.token e

/-- The context was all that was used until a rejection came, if one has. -/
structure Concluded (c : Client) (x : Context) (caller : Headers) (s₀ s : Scene) : Prop where
  steady : (∀ e ∈ s.outside.log, e.isRejection = false) → c.Steady x caller s₀ s
  log : ∀ e ∈ untilRejection s.outside.log, c.Uses caller x.token e

/-- A steady session, and the same with other caches. -/
def Beside (c : Client) (x : Context) (caller : Headers) (s₀ s t : Scene) : Prop :=
  c.Steady x caller s₀ s ∧ ∃ memory store, t = s.withCaches memory store

/-- What a steady session has come to, and a log that shows the same. -/
def Abreast (c : Client) (x : Context) (caller : Headers) (s₀ s t : Scene) : Prop :=
  c.Concluded x caller s₀ s ∧ untilRejection t.outside.log = untilRejection s.outside.log

variable {c : Client} {x : Context} {caller : Headers} {s₀ : Scene}

theorem Steady.concluded {s : Scene} (h : c.Steady x caller s₀ s) : c.Concluded x caller s₀ s := by
  refine ⟨fun _ => h, fun e he => ?_⟩
  rw [untilRejection_eq_self fun d hd => (h.log d hd).1] at he
  exact (h.log e he).2

theorem Beside.abreast {s t : Scene} (h : c.Beside x caller s₀ s t) :
    c.Abreast x caller s₀ s t := by
  obtain ⟨hs, memory, store, rfl⟩ := h
  exact ⟨hs.concluded, rfl⟩

/-- Another connection is remembered or open. -/
theorem tandem_setSession {r r' : Session → Option Connection}
    (hr : ∀ session memory, r { session with memory := memory } = r session)
    (hr' : ∀ session memory, r' { session with memory := memory } = r' session)
    {E : Scene → Scene → Prop} :
    Tandem (c.Beside x caller s₀)
      (setSession fun session =>
        { session with resolved := r session, connected := r' session })
      (setSession fun session =>
        { session with resolved := r session, connected := r' session })
      (fun _ => c.Beside x caller s₀) E := by
  refine .of_ok fun s t hst => ⟨(), _, _, rfl, rfl, ?_⟩
  obtain ⟨hs, memory, store, rfl⟩ := hst
  refine ⟨⟨hs.unforced, hs.context, hs.valid, hs.memory, hs.store, hs.log⟩, memory, store, ?_⟩
  show Scene.mk _ _ = Scene.mk _ _
  simp only [Scene.withCaches, hr, hr']

theorem Beside.network {s t : Scene} (h : c.Beside x caller s₀ s t) :
    t.outside.network = s.outside.network := by
  obtain ⟨-, memory, store, rfl⟩ := h
  rfl

theorem Beside.log {s t : Scene} (h : c.Beside x caller s₀ s t) :
    t.outside.log = s.outside.log := by
  obtain ⟨-, memory, store, rfl⟩ := h
  rfl

/-- Something is done that uses the context. -/
theorem Beside.noting {s t : Scene} (h : c.Beside x caller s₀ s t) (network : Network) {e : Event}
    (he : e.isRejection = false ∧ c.Uses caller x.token e) :
    c.Beside x caller s₀ ((s.withNetwork network).noting e)
      ((t.withNetwork network).noting e) := by
  obtain ⟨hs, memory, store, rfl⟩ := h
  refine ⟨⟨hs.unforced, hs.context, hs.valid, hs.memory, hs.store, fun d hd => ?_⟩,
    memory, store, rfl⟩
  rcases List.mem_append.mp hd with hd | hd
  · exact hs.log d hd
  · exact List.mem_singleton.mp hd ▸ he

/-- All of the session but the memory is the same to both. -/
theorem tandem_session_bind {β : Type} {f g : Session → Action β}
    {Q : β → Scene → Scene → Prop} {E : Scene → Scene → Prop}
    (hf : ∀ session memory,
      Tandem (c.Beside x caller s₀) (f session) (g { session with memory := memory }) Q E) :
    Tandem (c.Beside x caller s₀) (session >>= f) (session >>= g) Q E where
  ends {s t} hst := by
    have hrel := hst
    obtain ⟨-, memory, store, rfl⟩ := hst
    rw [outcome_bind, outcome_bind, outcome_session, outcome_session]
    exact (hf s.session memory).ends hrel

-- ================================================================== sessions

/-- The session is the context in use. -/
theorem tandem_active {E : Scene → Scene → Prop} :
    Tandem (c.Beside x caller s₀) c.active c.active
      (fun a s t => c.Beside x caller s₀ s t ∧ a = ⟨x, false⟩) E := by
  refine .of_ok fun s t hst => ?_
  have hrel := hst
  obtain ⟨hs, memory, store, rfl⟩ := hst
  exact ⟨⟨x, false⟩, s, s.withCaches memory store,
    outcome_active_valid hs.unforced hs.context hs.valid,
    outcome_active_valid (s := s.withCaches memory store) hs.unforced hs.context hs.valid,
    hrel, rfl⟩

theorem tandem_catalog {E : Scene → Scene → Prop} :
    Tandem (c.Beside x caller s₀) c.catalog c.catalog (fun _ => c.Beside x caller s₀) E := by
  refine .of_ok fun s t hst => ?_
  have hrel := hst
  obtain ⟨hs, memory, store, rfl⟩ := hst
  exact ⟨s.session.catalog.getD [], s, s.withCaches memory store,
    outcome_catalog_valid hs.unforced hs.context hs.valid,
    outcome_catalog_valid (s := s.withCaches memory store) hs.unforced hs.context hs.valid, hrel⟩

theorem tandem_endpoint (wanted : Wanted) :
    Tandem (c.Beside x caller s₀) (c.endpoint wanted) (c.endpoint wanted)
      (fun _ => c.Beside x caller s₀) (c.Abreast x caller s₀) := by
  unfold endpoint
  split
  · exact .pure fun _ _ hst => hst
  · exact .bind tandem_catalog fun _ => .attempt fun _ _ hst => hst.abreast

theorem tandem_resolve :
    Tandem (c.Beside x caller s₀) c.resolve c.resolve
      (fun _ => c.Beside x caller s₀) (c.Abreast x caller s₀) := by
  refine tandem_session_bind fun session memory => ?_
  obtain ⟨context, entries, resolved, connected, revoked, own⟩ := session
  cases resolved with
  | some connection => exact .pure fun _ _ hst => hst
  | none =>
    refine .bind (tandem_endpoint c.defaults) fun url => ?_
    refine .bind (.attempt fun _ _ hst => hst.abreast) fun connection => ?_
    exact .bind (tandem_setSession (fun _ _ => rfl) fun _ _ => rfl) fun _ =>
      .pure fun _ _ hst => hst

theorem tandem_invalidate {E : Scene → Scene → Prop} :
    Tandem (c.Beside x caller s₀) invalidate invalidate (fun _ => c.Beside x caller s₀) E :=
  tandem_setSession (fun _ _ => rfl) fun _ _ => rfl

-- ================================================================== requests

theorem tandem_openConnection (connection : Connection) :
    Tandem (c.Beside x caller s₀) (openConnection connection) (openConnection connection)
      (fun _ => c.Beside x caller s₀) (c.Abreast x caller s₀) where
  ends {s t} hst := by
    rw [outcome_openConnection, outcome_openConnection, hst.network]
    have hnext := fun failure => hst.noting s.outside.network.connect.2
      (e := .connect connection failure) ⟨rfl, rfl, by simp⟩
    cases s.outside.network.connect.1 with
    | none => exact ⟨.ok (), _, _, rfl, rfl, hnext none⟩
    | some message =>
      exact ⟨.error (.transport message), _, _, rfl, rfl, (hnext (some message)).abreast⟩

theorem tandem_connect (connection : Connection) :
    Tandem (c.Beside x caller s₀) (connect connection) (connect connection)
      (fun _ => c.Beside x caller s₀) (c.Abreast x caller s₀) := by
  refine tandem_session_bind fun session memory => ?_
  show Tandem _ (if session.connected.any (·.sameConnection connection) then _ else _)
    (if session.connected.any (·.sameConnection connection) then _ else _) _ _
  split
  · exact .pure fun _ _ hst => hst
  · exact .bind (tandem_openConnection connection) fun _ =>
      tandem_setSession (fun _ _ => rfl) fun _ _ => rfl

/-- A response that is no rejection is settled without looking at a cache. -/
theorem outcome_settle_of_ne {r : Response} (h : r.status ≠ 401) (forced : Bool) (s : Scene) :
    (c.settle forced r).outcome s = (r.verdict, s) := by
  unfold settle Response.verdict
  split
  · rfl
  · rw [if_neg (by simpa using h), if_neg (by simpa using h)]
    rfl

/-- What is done behind a rejection does not count. -/
theorem untilRejection_settle {before : List Event} {request : Request} {r : Response} {s : Scene}
    (hlog : s.outside.log = before ++ [.exchange .service request (.ok r)])
    (hbefore : ∀ e ∈ before, e.isRejection = false) (hstatus : r.status = 401) :
    untilRejection ((c.settle false r).outcome s).2.outside.log
      = before ++ [.exchange .service request (.ok r)] := by
  obtain ⟨after, hafter, -⟩ := ((c.grows_settle false r).step s).log
  rw [hafter, hlog, List.append_assoc, List.singleton_append]
  exact untilRejection_append hbefore (by simpa [Event.isRejection] using hstatus)

/-- A rejection ends the steady session, whatever the caches hold. -/
theorem Beside.rejected {s t : Scene} (h : c.Beside x caller s₀ s t) (network : Network)
    {request : Request} {r : Response} (hstatus : r.status = 401)
    (huses : c.Uses caller x.token (.exchange .service request (.ok r))) :
    c.Abreast x caller s₀
      ((c.settle false r).outcome
        ((s.withNetwork network).noting (.exchange .service request (.ok r)))).2
      ((c.settle false r).outcome
        ((t.withNetwork network).noting (.exchange .service request (.ok r)))).2 := by
  -- Both logs go on behind the same rejection, with whatever the caches make of it.
  have hlogs : ∀ {u : Scene}, u.outside.log = s.outside.log → untilRejection
      ((c.settle false r).outcome
        ((u.withNetwork network).noting (.exchange .service request (.ok r)))).2.outside.log
      = s.outside.log ++ [.exchange .service request (.ok r)] := fun hu =>
    untilRejection_settle (by rw [← hu]; rfl) (fun e he => (h.1.log e he).1) hstatus
  refine ⟨⟨fun hnone => ?_, fun e he => ?_⟩, (hlogs h.log).trans (hlogs rfl).symm⟩
  · have hall := (untilRejection_eq_self hnone).symm.trans (hlogs rfl)
    have hrejection := hnone (.exchange .service request (.ok r)) (by rw [hall]; simp)
    exact absurd hrejection (by simpa [Event.isRejection] using hstatus)
  · rw [hlogs rfl] at he
    rcases List.mem_append.mp he with he | he
    · exact (h.1.log e he).2
    · exact List.mem_singleton.mp he ▸ huses

/-- A request with the token of the context. -/
theorem tandem_submit (request : Request) (hcarries : c.Carries caller request x.token) :
    Tandem (c.Beside x caller s₀) (c.submit ⟨x, false⟩ request) (c.submit ⟨x, false⟩ request)
      (fun _ => c.Beside x caller s₀) (c.Abreast x caller s₀) where
  ends {s t} hst := by
    have huses : ∀ answer, c.Uses caller x.token (.exchange .service request answer) := by
      refine fun answer => ⟨rfl, fun r answer' heq => ?_⟩
      obtain ⟨-, rfl, -⟩ := Event.exchange.inj heq
      exact hcarries
    rw [submit, outcome_bind, outcome_bind, outcome_send, outcome_send, hst.network]
    cases s.outside.network.send.1 with
    | error message =>
      exact ⟨.error (.transport message), _, _, rfl, rfl, (hst.noting _ ⟨rfl, huses _⟩).abreast⟩
    | ok r =>
      by_cases hstatus : r.status = 401
      · have hfails : ∀ u : Scene, (c.settle false r).outcome u
            = (.error (.unauthorized (Body.errorMessage r)), ((c.settle false r).outcome u).2) :=
          fun u => Prod.ext ((outcome_settle false r u).trans (verdict_unauthorized hstatus)) rfl
        exact ⟨_, _, _, hfails _, hfails _, hst.rejected _ hstatus (huses _)⟩
      · have hnext := hst.noting s.outside.network.send.2
          (e := .exchange .service request (.ok r))
          ⟨by simpa [Event.isRejection] using hstatus, huses _⟩
        refine ⟨r.verdict, _, _, outcome_settle_of_ne hstatus false _,
          outcome_settle_of_ne hstatus false _, ?_⟩
        cases r.verdict with
        | ok _ => exact hnext
        | error _ => exact hnext.abreast

/-- A call sends its request with the token of the context. -/
theorem tandem_call (action : String) (method : Method) (body : Option ByteArray) :
    Tandem (c.Beside x caller s₀) (c.call action method caller body)
      (c.call action method caller body)
      (fun _ => c.Beside x caller s₀) (c.Abreast x caller s₀) := by
  refine .bind_known tandem_active ?_
  refine .bind tandem_resolve fun connection => .bind (tandem_connect connection) fun _ => ?_
  exact tandem_submit (c.requestOf action method caller body x.token connection)
    fun hcaller => c.get?_requestHeaders method _ hcaller

-- ====================================================================== waits

theorem tandem_poll (format : Task.Format) (ref : String) :
    Tandem (c.Beside x .empty s₀) (c.poll format ref) (c.poll format ref)
      (fun _ => c.Beside x .empty s₀) (c.Abreast x .empty s₀) :=
  .bind (tandem_call ref .get none) fun _ => .attempt fun _ _ hst => hst.abreast

theorem tandem_waitFrom (format : Task.Format) (ref : String) (timeout interval bound : Nat) :
    ∀ polls elapsed, Tandem (c.Beside x .empty s₀)
      (Task.waitFrom (c.poll format ref) ref timeout interval bound polls elapsed)
      (Task.waitFrom (c.poll format ref) ref timeout interval bound polls elapsed)
      (fun _ => c.Beside x .empty s₀) (c.Abreast x .empty s₀) := by
  induction bound with
  | zero => exact fun _ _ => .throw fun _ _ hst => hst.abreast
  | succ bound ih =>
    intro polls elapsed
    refine .bind (tandem_poll format ref) fun status => ?_
    split
    · exact .pure fun _ _ hst => hst
    · exact .throw fun _ _ hst => hst.abreast
    · split
      · exact .throw fun _ _ hst => hst.abreast
      · exact ih _ _

theorem tandem_wait (format : Task.Format) (ref : String) (timeout interval : Nat) :
    Tandem (c.Beside x .empty s₀) (c.wait format ref timeout interval)
      (c.wait format ref timeout interval)
      (fun _ => c.Beside x .empty s₀) (c.Abreast x .empty s₀) := by
  refine .get_bind fun s t hst => ?_
  rw [hst.network]
  exact tandem_waitFrom format ref timeout interval _ _ _

theorem tandem_isValid (context : Context) :
    Tandem (c.Beside x caller s₀) (c.isValid context) (c.isValid context)
      (fun _ => c.Beside x caller s₀) (c.Abreast x caller s₀) := by
  have hnow : Tandem (c.Beside x caller s₀) now now (fun _ => c.Beside x caller s₀)
      (c.Abreast x caller s₀) := by
    refine .of_ok fun s t hst => ⟨s.outside.now, s, t, rfl, ?_, hst⟩
    obtain ⟨-, memory, store, rfl⟩ := hst
    rfl
  refine .bind hnow fun now => ?_
  split
  · exact .pure fun _ _ hst => hst
  · exact .throw fun _ _ hst => hst.abreast

end Client
end CloudSession
