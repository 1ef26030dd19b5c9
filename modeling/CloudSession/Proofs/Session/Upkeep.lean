/-
What outlives a client's work. A relation that the basic actions keep to holds
across a whole negotiation (`steps_negotiate`), and if it does not matter to it
what becomes of the session, across all else as well (`Pervades`). A property
of scenes that getting a session keeps, whatever connection is remembered, is
kept by all that prepares a request (`Upkeep.resolve`), and one that a call
keeps by every wait (`triple_wait`).
-/
import CloudSession.Proofs.Session.Handshakes

namespace CloudSession.Client

open CloudSession.Action

variable {c : Client}

-- =============================================================== negotiation

section Steps

variable {R : Scene → Scene → Prop} [IsPreorder Scene R]

theorem steps_storeGet {key : String} (h : ∀ s ok, R s (s.noting (.store .get key ok))) :
    Steps R (storeGet key) := by
  refine ⟨fun s => ?_⟩
  rw [outcome_storeGet]
  split
  · exact refl s
  · split
    · exact h s true
    · exact h s false

theorem steps_storeChange {call : StoreCall} {key : String}
    {change : SharedStore → Except StoreFault SharedStore}
    (hok : ∀ s shared changed, s.outside.store = some shared → change shared = .ok changed →
      R s ((s.withStore changed).noting (.store call key true)))
    (herror : ∀ s, R s (s.noting (.store call key false))) :
    Steps R (storeChange call key change) := by
  refine ⟨fun s => ?_⟩
  rw [outcome_storeChange]
  split
  · exact refl s
  · next shared hstore =>
    split
    · next changed hchange => exact hok s shared changed hstore hchange
    · exact herror s

theorem steps_isValid (context : Context) : Steps R (c.isValid context) := by
  refine .bind .now fun now => ?_
  split
  · exact .pure _
  · exact .throw _

variable (hget : Steps R (storeGet c.key)) (hremember : ∀ x, Steps R (c.remember x))

include hget hremember

theorem steps_cached : Steps R c.cached := by
  refine .bind hget fun found => ?_
  split
  · exact .bind (hremember _) fun _ => .pure _
  · exact .bind .session fun _ => .pure _

variable (hsend : ∀ request, Steps R (send .handshake request))
  (hput : ∀ x, Steps R (storePut c.key x))

include hsend hput

/-- A negotiation reads the shared store, remembers contexts, sends requests
of the handshake and writes the shared store, and does nothing else. -/
theorem steps_negotiate (force : Bool) : Steps R (c.negotiate force) := by
  have hrenew : Steps R c.renew :=
    .bind (.bind (.attempt _) fun _ => .bind (hsend _) fun _ => .attempt _) fun _ =>
      .bind (hremember _) fun _ => .bind (.ignoringErrors (hput _)) fun _ => .pure _
  have hcachedValid : Steps R c.cachedValid := by
    refine .bind (steps_cached hget hremember) fun found => ?_
    split
    · exact .pure _
    · exact .bind (steps_isValid _) fun _ => .pure _
  unfold negotiate
  split
  · exact hrenew
  · refine .bind hcachedValid fun found => ?_
    split
    · exact .pure _
    · exact hrenew

end Steps

-- =================================================================== sessions

section Sessions

variable {I : Scene → Prop}

theorem triple_isValid_same (context : Context) :
    Triple I (c.isValid context) (fun _ => I) I :=
  (triple_isValid context).post fun _ _ hs => hs.1

variable (hset : ∀ s x entries r, I s →
  I (s.withSession fun session => { session with context := x, catalog := entries, resolved := r }))

include hset

/-- What a negotiation and a new session keep outlives an authentication. -/
theorem triple_authenticate {force : Bool}
    (hnegotiate : Triple I (c.negotiate force) (fun _ => I) I) :
    Triple I (c.authenticate force) (fun _ => I) I :=
  .bind hnegotiate fun _ => .bind (.attempt_same _) fun _ =>
    .bind (.setSession (Q := fun _ => I) fun s hs => hset s _ _ _ hs) fun _ => .pure fun _ hs => hs

theorem triple_active (hnegotiate : Triple I (c.negotiate false) (fun _ => I) I) :
    Triple I c.active (fun _ => I) I := by
  have hinstalledValid : Triple I c.installedValid (fun _ => I) I := by
    refine .bind .session_same fun session => ?_
    split
    · exact .pure fun _ hs => hs
    · exact .bind (triple_isValid_same _) fun _ => .pure fun _ hs => hs
  refine .bind .session_same fun session => ?_
  split
  · exact .pure fun _ hs => hs
  · refine .bind hinstalledValid fun found => ?_
    split
    · exact .pure fun _ hs => hs
    · exact .bind (triple_authenticate hset hnegotiate) fun _ => .pure fun _ hs => hs

end Sessions

-- ===================================================================== upkeep

/-- A property that is kept by getting a session, by finding its endpoint and by
forgetting the connection. -/
structure Upkeep (c : Client) (I : Scene → Prop) : Prop where
  active : Triple I c.active (fun _ => I) I
  resolve : Triple I c.resolve (fun _ => I) I
  invalidate : Triple I invalidate (fun _ => I) I

namespace Upkeep

variable {I J : Scene → Prop}

theorem and (h : c.Upkeep I) (h' : c.Upkeep J) : c.Upkeep fun s => I s ∧ J s :=
  ⟨h.active.and h'.active, h.resolve.and h'.resolve, h.invalidate.and h'.invalidate⟩

theorem congr (h : c.Upkeep I) (hiff : ∀ s, I s ↔ J s) : c.Upkeep J where
  active := h.active.conseq (fun s => (hiff s).mpr) (fun _ s => (hiff s).mp) fun s => (hiff s).mp
  resolve := h.resolve.conseq (fun s => (hiff s).mpr) (fun _ s => (hiff s).mp) fun s => (hiff s).mp
  invalidate :=
    h.invalidate.conseq (fun s => (hiff s).mpr) (fun _ s => (hiff s).mp) fun s => (hiff s).mp

/-- All of this is quiet. -/
theorem of_quiet (h : ∀ s s', Quiet s s' → I s → I s') : c.Upkeep I :=
  ⟨c.quiet_active.triple h, c.quiet_resolve.triple h, quiet_invalidate.triple h⟩

/-- What getting a session keeps is kept by all else if it does not matter to it
which connection is remembered. -/
theorem of_active (hactive : Triple I c.active (fun _ => I) I)
    (hset : ∀ s r, I s → I (s.withSession fun session => { session with resolved := r })) :
    c.Upkeep I :=
  ⟨hactive, triple_resolve (fun _ => hactive) (fun _ _ hs => hs) (fun _ hs _ => hs)
      fun s connection hs => hset s (some connection) hs,
    .setSession fun s hs => hset s none hs⟩

/-- What a negotiation keeps is kept by all else if it depends on nothing that a
new session changes. -/
theorem of_negotiate (hnegotiate : Triple I (c.negotiate false) (fun _ => I) I)
    (hset : ∀ s x entries r, I s → I (s.withSession fun session =>
      { session with context := x, catalog := entries, resolved := r })) :
    c.Upkeep I :=
  of_active (triple_active hset hnegotiate) fun s r hs =>
    hset s s.session.context s.session.catalog r hs

variable (h : c.Upkeep I)

include h

theorem ensureSession : Triple I c.ensureSession (fun _ => I) I :=
  .bind h.active fun _ => .pure fun _ hs => hs

theorem catalog : Triple I c.catalog (fun _ => I) I := by
  refine .bind h.active fun active => ?_
  split
  · exact .pure fun _ hs => hs
  · exact .bind .session_same fun _ => .pure fun _ hs => hs

theorem endpoint (wanted : Wanted) : Triple I (c.endpoint wanted) (fun _ => I) I := by
  unfold Client.endpoint
  split
  · exact .pure fun _ hs => hs
  · exact .bind h.catalog fun _ => .attempt_same _

end Upkeep

section Sound

variable {past : String → Context → Prop} {own : Prop}

theorem upkeep_traced : c.Upkeep (c.Traced past own) :=
  ⟨traced_active.post fun _ _ hs => hs.1, traced_resolve,
    traced_setSession (fun _ => rfl) fun _ => .inl rfl⟩

variable {forced : Option String} {now : Instant} {caller : Headers}

/-- Nothing is sent to the service, so nothing has to be vouched for. -/
theorem upkeep_sound : c.Upkeep (c.Sound past own forced now caller) := by
  have hvouching : c.Upkeep fun s =>
      c.Vouching past own forced now caller s ∧ c.forcedToken? s.session = forced :=
    .of_quiet fun _ _ hquiet hs =>
      ⟨hs.1.quiet hquiet, (forcedToken?_quiet hquiet).trans hs.2⟩
  exact (upkeep_traced.and hvouching).congr fun _ =>
    ⟨fun hs => ⟨hs.1, hs.2.1, hs.2.2⟩, fun hs => ⟨hs.traced, hs.vouching, hs.forced⟩⟩

end Sound

theorem upkeep_fits : c.Upkeep c.Fits :=
  ⟨fits_active, fits_resolve.post fun _ _ hs => hs.1, fits_invalidate⟩

-- ================================================================ everything

/-- A relation that the basic actions of a client keep to, whatever becomes of
its session. -/
structure Pervades (c : Client) (R : Scene → Scene → Prop) : Prop where
  session : ∀ f, Steps R (setSession f)
  send : ∀ purpose request, Steps R (send purpose request)
  connection : ∀ connection, Steps R (openConnection connection)
  get : Steps R (storeGet c.key)
  put : ∀ x, Steps R (storePut c.key x)
  clear : Steps R (storeClear c.key)

namespace Pervades

variable {R : Scene → Scene → Prop} [IsPreorder Scene R] (h : c.Pervades R)

include h

theorem cached : Steps R c.cached := steps_cached h.get fun _ => h.session _

theorem negotiate (force : Bool) : Steps R (c.negotiate force) :=
  steps_negotiate h.get (fun _ => h.session _) (fun _ => h.send _ _) h.put force

theorem clearCached : Steps R c.clearCached := .bind (h.session _) fun _ => h.clear

theorem authenticate (force : Bool) : Steps R (c.authenticate force) :=
  .bind (h.negotiate force) fun _ => .bind (.attempt _) fun _ => .bind (h.session _) fun _ =>
    .pure _

theorem upkeep (s₀ : Scene) : c.Upkeep (R s₀) :=
  .of_negotiate ((h.negotiate false).triple fun s s' hR hs => IsTrans.trans s₀ s s' hs hR)
    fun s x entries r hs => IsTrans.trans s₀ s _ hs ((h.session fun session =>
      { session with context := x, catalog := entries, resolved := r }).step s)

theorem settle (forced : Bool) (r : Response) : Steps R (c.settle forced r) := by
  have hunauthorized : Steps R (c.onUnauthorized forced) := by
    unfold onUnauthorized
    split
    · exact .bind (h.session _) fun _ => .ignoringErrors h.clearCached
    · split
      · exact h.session _
      · exact .pure _
  unfold Client.settle
  split
  · exact .pure _
  · split
    · exact .bind hunauthorized fun _ => .throw _
    · exact .throw _

theorem call (s₀ : Scene) (action : String) (method : Method) (headers : Headers)
    (body : Option ByteArray) :
    Triple (R s₀) (c.call action method headers body) (fun _ => R s₀) (R s₀) := by
  have hkeeps : ∀ {α : Type} {a : Action α}, Steps R a → Triple (R s₀) a (fun _ => R s₀) (R s₀) :=
    fun ha => ha.triple fun s s' hR hs => IsTrans.trans s₀ s s' hs hR
  have hconnect : ∀ connection, Steps R (connect connection) := by
    intro connection
    refine .bind .session fun session => ?_
    split
    · exact .pure _
    · exact .bind (h.connection connection) fun _ => h.session _
  refine .bind (h.upkeep s₀).active fun current => .bind (h.upkeep s₀).resolve fun connection =>
    .bind (hkeeps (hconnect connection)) fun _ => .bind (hkeeps (h.send _ _)) fun answer => ?_
  split
  · exact .throw fun _ hs => hs
  · exact hkeeps (h.settle _ _)

end Pervades

-- ====================================================================== waits

section Waits

/-- What every poll keeps holds after a wait. -/
theorem triple_waitFrom {poll : Action Task.Status} {I E : Scene → Prop}
    (hpoll : Triple I poll (fun _ => I) E) (hE : ∀ s, I s → E s) (ref : String)
    (timeout interval bound : Nat) : ∀ polls elapsed,
      Triple I (Task.waitFrom poll ref timeout interval bound polls elapsed) (fun _ => I) E := by
  induction bound with
  | zero => exact fun polls elapsed => .throw hE
  | succ bound ih =>
    intro polls elapsed
    refine .bind hpoll fun status => ?_
    split
    · exact .pure fun s hs => hs
    · exact .throw hE
    · split
      · exact .throw hE
      · exact ih _ _

variable {P I E : Scene → Prop} {ref : String}

theorem triple_poll (hcall : Triple P (c.call ref .get .empty none) (fun _ => I) E)
    (hE : ∀ s, I s → E s) (format : Task.Format) :
    Triple P (c.poll format ref) (fun _ => I) E :=
  .bind hcall fun _ => (Triple.attempt_same _).fail hE

/-- A wait is a run of polls, and each of these is a call. -/
theorem triple_wait (hcall : Triple I (c.call ref .get .empty none) (fun _ => I) E)
    (hE : ∀ s, I s → E s) (format : Task.Format) (timeout interval : Nat) :
    Triple I (c.wait format ref timeout interval) (fun _ => I) E :=
  .bind (.get (Q := fun _ => I) fun _ hs => hs) fun _ =>
    triple_waitFrom (triple_poll hcall hE format) hE ref timeout interval _ _ _

end Waits

end CloudSession.Client
