/-
What an operation may log. An event is quiet if it neither is a request to
the service nor clears a key of the shared store. All that is done to get a
session and an endpoint is quiet: a call logs one request to the service, and
only what follows a 401 clears anything.
-/
import CloudSession.Proofs.Session.Triple
import CloudSession.Task.Wait

namespace CloudSession

-- ==================================================================== events

namespace Event

/-- Whether an event is a request to the service. -/
def isService : Event → Bool
  | .exchange .service _ _ => true
  | _ => false

/-- Whether an event is a request of the handshake. -/
def isHandshake : Event → Bool
  | .exchange .handshake _ _ => true
  | _ => false

/-- Whether an event is a clearing of the shared store. -/
def isClear : Event → Bool
  | .store .clear _ _ => true
  | _ => false

/-- Whether an event neither is a request to the service nor clears the store. -/
def isQuiet (e : Event) : Bool := !e.isService && !e.isClear

/-- Whether an event is quiet and no request of the handshake either. -/
def isLocal (e : Event) : Bool := e.isQuiet && !e.isHandshake

/-- Whether an event is a request to the service with some property. -/
def serves (p : Request → Bool) : Event → Bool
  | .exchange .service r _ => p r
  | _ => false

/-- Whether an event is a clearing of a key that succeeded. -/
def clears (key : String) : Event → Bool
  | .store .clear other true => other == key
  | _ => false

theorem exists_serving {log : List Event} {p : Request → Bool}
    (h : log.any (·.serves p) = true) :
    ∃ before r answer after, log = before ++ .exchange .service r answer :: after ∧
      p r = true := by
  obtain ⟨e, he, hserves⟩ := List.any_eq_true.mp h
  obtain ⟨before, after, rfl⟩ := List.append_of_mem he
  unfold serves at hserves
  split at hserves
  · next r answer => exact ⟨before, r, answer, after, rfl, hserves⟩
  · exact absurd hserves (by simp)

theorem mem_of_serves {log : List Event} {p : Request → Bool}
    (h : log.any (·.serves p) = true) :
    ∃ r answer, .exchange .service r answer ∈ log ∧ p r = true := by
  obtain ⟨before, r, answer, after, rfl, hr⟩ := exists_serving h
  exact ⟨r, answer, List.mem_append_right _ List.mem_cons_self, hr⟩

theorem mem_of_clears {log : List Event} {key : String} (h : log.any (·.clears key) = true) :
    .store .clear key true ∈ log := by
  obtain ⟨e, he, hclears⟩ := List.any_eq_true.mp h
  unfold clears at hclears
  split at hclears
  · rwa [beq_iff_eq.mp hclears] at he
  · exact absurd hclears (by simp)

theorem not_isService_of_isQuiet {e : Event} (h : e.isQuiet = true) : e.isService = false := by
  simp only [isQuiet, Bool.and_eq_true, Bool.not_eq_true'] at h
  exact h.1

theorem not_isClear_of_isQuiet {e : Event} (h : e.isQuiet = true) : e.isClear = false := by
  simp only [isQuiet, Bool.and_eq_true, Bool.not_eq_true'] at h
  exact h.2

theorem isQuiet_of_isLocal {e : Event} (h : e.isLocal = true) : e.isQuiet = true := by
  simp only [isLocal, Bool.and_eq_true] at h
  exact h.1

theorem not_isHandshake_of_isLocal {e : Event} (h : e.isLocal = true) :
    e.isHandshake = false := by
  simp only [isLocal, Bool.and_eq_true, Bool.not_eq_true'] at h
  exact h.2

/-- Whether an event is a request of either kind. -/
def isRequest (e : Event) : Bool := e.isService || e.isHandshake

theorem not_isService_of_not_isRequest (e : Event) (h : (!e.isRequest) = true) :
    (!e.isService) = true := by
  simp only [isRequest, Bool.not_or, Bool.and_eq_true] at h
  exact h.1

end Event

-- ==================================================================== growth

/-- Time stands still, and the log grows by events with `p`. -/
structure Grows (p : Event → Bool) (s s' : Scene) : Prop where
  log : ∃ new, s'.outside.log = s.outside.log ++ new ∧ ∀ e ∈ new, p e = true
  now : s'.outside.now = s.outside.now

namespace Grows

variable {p : Event → Bool}

theorem of_log_eq {s s' : Scene} (hlog : s'.outside.log = s.outside.log)
    (hnow : s'.outside.now = s.outside.now) : Grows p s s' :=
  ⟨⟨[], by rw [hlog, List.append_nil], by simp⟩, hnow⟩

theorem of_noting {s t : Scene} {e : Event} (he : p e = true)
    (hlog : t.outside.log = s.outside.log) (hnow : t.outside.now = s.outside.now) :
    Grows p s (t.noting e) :=
  ⟨⟨[e], by rw [← hlog]; rfl, by simpa using he⟩, hnow⟩

/-- Whatever is logged, the log grows. -/
theorem noting {s t : Scene} (e : Event) (hlog : t.outside.log = s.outside.log)
    (hnow : t.outside.now = s.outside.now) : Grows (fun _ => true) s (t.noting e) :=
  of_noting rfl hlog hnow

theorem mono {q : Event → Bool} (hpq : ∀ e, p e = true → q e = true) {s s' : Scene}
    (h : Grows p s s') : Grows q s s' := by
  obtain ⟨⟨new, hlog, hnew⟩, hnow⟩ := h
  exact ⟨⟨new, hlog, fun e he => hpq e (hnew e he)⟩, hnow⟩

instance : IsPreorder Scene (Grows p) where
  refl _ := of_log_eq rfl rfl
  trans s t u hst htu := by
    obtain ⟨⟨new, hlog, hnew⟩, hnow⟩ := hst
    obtain ⟨⟨new', hlog', hnew'⟩, hnow'⟩ := htu
    refine ⟨⟨new ++ new', by rw [hlog', hlog, List.append_assoc], ?_⟩, hnow'.trans hnow⟩
    intro e he
    cases List.mem_append.mp he with
    | inl h => exact hnew e h
    | inr h => exact hnew' e h

/-- What has been logged stays in the log. -/
theorem mem {s s' : Scene} (h : Grows p s s') {e : Event} (he : e ∈ s.outside.log) :
    e ∈ s'.outside.log := by
  obtain ⟨new, hlog, -⟩ := h.log
  rw [hlog]
  exact List.mem_append_left _ he

end Grows

/-- Only quiet events are logged, and a forced token stays as it was. -/
structure Quiet (s s' : Scene) : Prop extends Grows Event.isQuiet s s' where
  revoked : s'.session.forcedRevoked = s.session.forcedRevoked

instance : IsPreorder Scene Quiet where
  refl s := ⟨IsPreorder.toRefl.refl s, rfl⟩
  trans s t u hst htu :=
    ⟨IsTrans.trans s t u hst.toGrows htu.toGrows, htu.revoked.trans hst.revoked⟩

theorem Quiet.withSession (s : Scene) {f : Session → Session}
    (hf : (f s.session).forcedRevoked = s.session.forcedRevoked) : Quiet s (s.withSession f) :=
  ⟨Grows.of_log_eq rfl rfl, hf⟩

/-- Of the session nothing but the memory is changed, and the log grows by
events with `p`. -/
structure KeepsSession (p : Event → Bool) (s s' : Scene) : Prop extends Grows p s s' where
  revoked : s'.session.forcedRevoked = s.session.forcedRevoked
  context : s'.session.context = s.session.context
  catalog : s'.session.catalog = s.session.catalog
  resolved : s'.session.resolved = s.session.resolved
  connected : s'.session.connected = s.session.connected

namespace KeepsSession

variable {p : Event → Bool}

instance : IsPreorder Scene (KeepsSession p) where
  refl s := ⟨IsPreorder.toRefl.refl s, rfl, rfl, rfl, rfl, rfl⟩
  trans s t u hst htu :=
    ⟨IsTrans.trans s t u hst.toGrows htu.toGrows, htu.revoked.trans hst.revoked,
      htu.context.trans hst.context, htu.catalog.trans hst.catalog,
      htu.resolved.trans hst.resolved, htu.connected.trans hst.connected⟩

theorem of_noting {s t : Scene} {e : Event} (he : p e = true) (hsession : t.session = s.session)
    (hlog : t.outside.log = s.outside.log) (hnow : t.outside.now = s.outside.now) :
    KeepsSession p s (t.noting e) :=
  ⟨Grows.of_noting he hlog hnow, congrArg _ hsession, congrArg _ hsession,
    congrArg _ hsession, congrArg _ hsession, congrArg _ hsession⟩

theorem mono {q : Event → Bool} (hpq : ∀ e, p e = true → q e = true) {s s' : Scene}
    (h : KeepsSession p s s') : KeepsSession q s s' :=
  ⟨h.toGrows.mono hpq, h.revoked, h.context, h.catalog, h.resolved, h.connected⟩

end KeepsSession

/-- An action that keeps the session and sends nothing at all is one that
sends nothing to the service. -/
theorem Action.Steps.ofLocal {α : Type} {a : Action α}
    (h : Action.Steps (KeepsSession Event.isLocal) a) :
    Action.Steps (KeepsSession Event.isQuiet) a :=
  h.mono fun _ _ h => h.mono fun _ => Event.isQuiet_of_isLocal

theorem Action.Steps.quiet {α : Type} {a : Action α}
    (h : Action.Steps (KeepsSession Event.isQuiet) a) : Action.Steps Quiet a :=
  h.mono fun _ _ h => ⟨h.toGrows, h.revoked⟩

-- ============================================================ basic actions

open CloudSession.Action

theorem keeps_send_handshake (request : Request) :
    Steps (KeepsSession Event.isQuiet) (send .handshake request) :=
  ⟨fun _ => .of_noting rfl rfl rfl rfl⟩

theorem keeps_openConnection (connection : Connection) :
    Steps (KeepsSession Event.isLocal) (openConnection connection) := by
  refine ⟨fun s => ?_⟩
  rw [outcome_openConnection]
  exact .of_noting rfl rfl rfl rfl

theorem keeps_storeGet (key : String) : Steps (KeepsSession Event.isLocal) (storeGet key) := by
  refine ⟨fun s => ?_⟩
  rw [outcome_storeGet]
  split
  · exact IsPreorder.toRefl.refl s
  · split
    · exact .of_noting rfl rfl rfl rfl
    · exact .of_noting rfl rfl rfl rfl

theorem keeps_storePut (key : String) (context : Context) :
    Steps (KeepsSession Event.isLocal) (storePut key context) := by
  refine ⟨fun s => ?_⟩
  rw [storePut, outcome_storeChange]
  split
  · exact IsPreorder.toRefl.refl s
  · split
    · exact .of_noting rfl rfl rfl rfl
    · exact .of_noting rfl rfl rfl rfl

/-- A clearing of the shared store sends nothing. -/
theorem grows_storeClear (key : String) : Steps (Grows (!·.isRequest)) (storeClear key) := by
  refine ⟨fun s => ?_⟩
  rw [storeClear, outcome_storeChange]
  split
  · exact IsPreorder.toRefl.refl s
  · split
    · exact .of_noting rfl rfl rfl
    · exact .of_noting rfl rfl rfl

namespace Client

variable (c : Client)

-- =============================================================== negotiation

theorem keeps_isValid (context : Context) :
    Steps (KeepsSession Event.isLocal) (c.isValid context) := by
  refine .bind .now fun now => ?_
  split
  · exact .pure _
  · exact .throw _

theorem keeps_remember (context : Context) :
    Steps (KeepsSession Event.isLocal) (c.remember context) :=
  .setSession fun _ => ⟨Grows.of_log_eq rfl rfl, rfl, rfl, rfl, rfl, rfl⟩

theorem keeps_cached : Steps (KeepsSession Event.isLocal) c.cached := by
  refine .bind (keeps_storeGet _) fun found => ?_
  split
  · exact .bind (c.keeps_remember _) fun _ => .pure _
  · exact .bind .session fun _ => .pure _

theorem keeps_cachedValid : Steps (KeepsSession Event.isLocal) c.cachedValid := by
  refine .bind c.keeps_cached fun found => ?_
  split
  · exact .pure _
  · exact .bind (c.keeps_isValid _) fun _ => .pure _

theorem keeps_handshake : Steps (KeepsSession Event.isQuiet) c.handshake :=
  .bind (.attempt _) fun _ => .bind (keeps_send_handshake _) fun _ => .attempt _

theorem keeps_renew : Steps (KeepsSession Event.isQuiet) c.renew :=
  .bind c.keeps_handshake fun _ => .bind (c.keeps_remember _).ofLocal fun _ =>
    .bind (.ignoringErrors (keeps_storePut _ _).ofLocal) fun _ => .pure _

/-- A negotiation touches nothing of the session but its memory. -/
theorem keeps_negotiate (force : Bool) :
    Steps (KeepsSession Event.isQuiet) (c.negotiate force) := by
  unfold negotiate
  split
  · exact c.keeps_renew
  · refine .bind c.keeps_cachedValid.ofLocal fun found => ?_
    split
    · exact .pure _
    · exact c.keeps_renew

theorem keeps_installedValid : Steps (KeepsSession Event.isLocal) c.installedValid := by
  refine .bind .session fun session => ?_
  split
  · exact .pure _
  · exact .bind (c.keeps_isValid _) fun _ => .pure _

-- =================================================================== sessions

theorem quiet_install (context : Context) (catalog : Catalog) :
    Steps Quiet (install context catalog) :=
  .setSession fun s => Quiet.withSession s rfl

theorem quiet_authenticate (force : Bool) : Steps Quiet (c.authenticate force) :=
  .bind (c.keeps_negotiate force).quiet fun _ => .bind (.attempt _) fun _ =>
    .bind (quiet_install _ _) fun _ => .pure _

theorem quiet_active : Steps Quiet c.active := by
  refine .bind .session fun session => ?_
  split
  · exact .pure _
  · refine .bind c.keeps_installedValid.ofLocal.quiet fun found => ?_
    split
    · exact .pure _
    · exact .bind (c.quiet_authenticate false) fun _ => .pure _

-- ================================================================== endpoints

theorem quiet_ensureSession : Steps Quiet c.ensureSession :=
  .bind c.quiet_active fun _ => .pure _

theorem quiet_catalog : Steps Quiet c.catalog := by
  refine .bind c.quiet_active fun active => ?_
  split
  · exact .pure _
  · exact .bind .session fun _ => .pure _

theorem quiet_endpoint (wanted : Wanted) : Steps Quiet (c.endpoint wanted) := by
  unfold endpoint
  split
  · exact .pure _
  · exact .bind c.quiet_catalog fun _ => .attempt _

theorem quiet_resolve : Steps Quiet c.resolve := by
  refine .bind .session fun session => ?_
  split
  · exact .pure _
  · exact .bind (c.quiet_endpoint _) fun _ => .bind (.attempt _) fun _ =>
      .bind (.setSession fun s => Quiet.withSession s rfl) fun _ => .pure _

theorem quiet_invalidate : Steps Quiet invalidate :=
  .setSession fun s => Quiet.withSession s rfl

theorem quiet_connect (connection : Connection) : Steps Quiet (connect connection) := by
  refine .bind .session fun session => ?_
  split
  · exact .pure _
  · exact .bind (keeps_openConnection _).ofLocal.quiet fun _ =>
      .setSession fun s => Quiet.withSession s rfl

-- =================================================================== requests

/-- Clearing the caches sends nothing. -/
theorem grows_clearCached : Steps (Grows (!·.isRequest)) c.clearCached :=
  .bind (.setSession fun _ => Grows.of_log_eq rfl rfl) fun _ => grows_storeClear _

theorem grows_onUnauthorized (forced : Bool) :
    Steps (Grows (!·.isRequest)) (c.onUnauthorized forced) := by
  unfold onUnauthorized
  split
  · exact .bind (.setSession fun s => Grows.of_log_eq rfl rfl) fun _ =>
      .ignoringErrors c.grows_clearCached
  · split
    · exact .setSession fun s => Grows.of_log_eq rfl rfl
    · exact .pure _

/-- Settling a response sends nothing. -/
theorem grows_settle (forced : Bool) (r : Response) :
    Steps (Grows (!·.isRequest)) (c.settle forced r) := by
  unfold settle
  split
  · exact .pure _
  · split
    · exact .bind (c.grows_onUnauthorized forced) fun _ => .throw _
    · exact .throw _

end Client
end CloudSession
