/-
Whether a context that was negotiated is given out again. While a client's
memory has it, and the shared store nothing else under the client's key, every
negotiation that is not forced gives it and sends nothing
(`retained_negotiate`). A negotiation leaves its context in memory and, unless
the shared store cannot be written, a copy of it there (`stored_negotiate`).
What the shared store has instead is found before what is in memory
(`displaced_negotiate`).
-/
import CloudSession.Proofs.Session.Upkeep

namespace CloudSession

open CloudSession.Action

-- =================================================================== entries

/-- Whether an event changes what the shared store has under a key. -/
def Event.changes (key : String) : Event → Bool
  | .store (.put _) other true => other == key
  | .store .clear other true => other == key
  | _ => false

theorem Event.not_isRequest_of_isLocal {e : Event} (h : e.isLocal = true) :
    e.isRequest = false := by
  rw [isRequest, not_isService_of_isQuiet (isQuiet_of_isLocal h), not_isHandshake_of_isLocal h]
  rfl

/-- A shared store does not come or go, and unless the log shows a change of it
has under a key what it had there before. -/
structure KeepsEntry (key : String) (s s' : Scene) : Prop where
  present : s'.outside.store.isSome = s.outside.store.isSome
  entry : ∃ new, s'.outside.log = s.outside.log ++ new ∧ ((∀ e ∈ new, e.changes key = false) →
    ∀ shared shared', s.outside.store = some shared → s'.outside.store = some shared' →
      shared'.store.get key = shared.store.get key)

namespace KeepsEntry

variable {key : String}

theorem of_same {s s' : Scene} (hlog : ∃ new, s'.outside.log = s.outside.log ++ new)
    (hstore : s'.outside.store = s.outside.store) : KeepsEntry key s s' := by
  obtain ⟨new, hnew⟩ := hlog
  refine ⟨by rw [hstore], new, hnew, fun _ shared shared' hshared hshared' => ?_⟩
  obtain rfl := Option.some.inj (hshared.symm.trans (hstore.symm.trans hshared'))
  rfl

theorem of_noting {s t : Scene} (e : Event) (hlog : t.outside.log = s.outside.log)
    (hstore : t.outside.store = s.outside.store) : KeepsEntry key s (t.noting e) :=
  of_same ⟨[e], by rw [← hlog]; rfl⟩ hstore

/-- A change is logged, or it is one of another key. -/
theorem of_change {s : Scene} {shared changed : SharedStore} {e : Event}
    (hshared : s.outside.store = some shared)
    (hchange : e.changes key = false → changed.store.get key = shared.store.get key) :
    KeepsEntry key s ((s.withStore changed).noting e) := by
  refine ⟨by rw [hshared]; rfl, [e], rfl, fun hnone shared' changed' hshared' hchanged' => ?_⟩
  obtain rfl := Option.some.inj (hshared.symm.trans hshared')
  obtain rfl := Option.some.inj hchanged'
  exact hchange (hnone e (List.mem_singleton_self e))

instance : IsPreorder Scene (KeepsEntry key) where
  refl _ := of_same ⟨[], (List.append_nil _).symm⟩ rfl
  trans s t u hst htu := by
    obtain ⟨hpresent, new, hnew, hkept⟩ := hst
    obtain ⟨hpresent', new', hnew', hkept'⟩ := htu
    refine ⟨hpresent'.trans hpresent, new ++ new', by rw [hnew', hnew, List.append_assoc], ?_⟩
    intro hnone shared shared'' hshared hshared''
    obtain ⟨shared', hshared'⟩ : ∃ shared', t.outside.store = some shared' :=
      Option.isSome_iff_exists.mp (hpresent.trans (by rw [hshared]; rfl))
    exact (hkept' (fun e he => hnone e (List.mem_append_right _ he)) _ _ hshared' hshared'').trans
      (hkept (fun e he => hnone e (List.mem_append_left _ he)) _ _ hshared hshared')

end KeepsEntry

namespace Client

variable {c : Client}

/-- Whatever a client does, its changes of the shared store are logged. -/
theorem pervades_keepsEntry (c : Client) (key : String) : c.Pervades (KeepsEntry key) where
  session _ := ⟨fun _ => .of_same ⟨[], (List.append_nil _).symm⟩ rfl⟩
  send _ _ := ⟨fun _ => .of_noting _ rfl rfl⟩
  connection _ := by
    refine ⟨fun s => ?_⟩
    rw [outcome_openConnection]
    exact .of_noting _ rfl rfl
  get := steps_storeGet fun _ _ => .of_noting _ rfl rfl
  put x := by
    refine steps_storeChange (fun s shared changed hshared hput => ?_) fun _ => .of_noting _ rfl rfl
    refine .of_change hshared fun hother => Store.get_put_of_ne ?_ (SharedStore.put_ok hput)
    exact Ne.symm (by simpa [Event.changes] using hother)
  clear := by
    refine steps_storeChange (fun s shared changed hshared hclear => ?_)
      fun _ => .of_noting _ rfl rfl
    refine .of_change hshared fun hother => Store.get_clear_of_ne ?_ (SharedStore.clear_ok hclear)
    exact Ne.symm (by simpa [Event.changes] using hother)

-- ==================================================================== reuse

/-- The client's memory has a valid context, and the shared store has nothing
else under the client's key. -/
structure Retained (c : Client) (x : Context) (s : Scene) : Prop where
  memory : s.session.memory.get? c.key = some x
  store : ∀ shared, s.outside.store = some shared → ∀ y,
    shared.store.get c.key = .ok (some y) → y = x
  valid : x.isValid s.outside.now c.skew = some true

variable {x : Context}

theorem Retained.congr {s s' : Scene} (h : c.Retained x s)
    (hmemory : s'.session.memory = s.session.memory)
    (hstore : s'.outside.store = s.outside.store) (hnow : s'.outside.now = s.outside.now) :
    c.Retained x s' :=
  ⟨hmemory ▸ h.memory, hstore ▸ h.store, hnow ▸ h.valid⟩

/-- Whichever cache answers, its answer is the context. -/
theorem retained_cached :
    Triple (c.Retained x) c.cached (fun found s => c.Retained x s ∧ found = some x)
      (fun s => c.Retained x s ∧ .store .get c.key false ∈ s.outside.log) := by
  refine .bind (.storeGet (Q := fun found s => c.Retained x s ∧ ∀ y, found = some y → y = x)
    (fun _ hs _ => ⟨hs, by simp⟩) ?_ ?_) fun found => ?_
  · intro s shared found hs hshared hget
    refine ⟨hs.congr rfl rfl rfl, fun y hy => hs.store shared hshared y ?_⟩
    rw [SharedStore.get_ok hget, hy]
  · intro s shared fault hs _ _
    exact ⟨hs.congr rfl rfl rfl, List.mem_append_right _ (List.mem_singleton_self _)⟩
  · cases found with
    | some y =>
      refine .bind (.setSession (Q := fun _ s => c.Retained x s ∧ some y = some x) ?_) fun _ =>
        .pure fun _ hs => hs
      intro s hs
      obtain ⟨hs, hy⟩ := hs
      obtain rfl := hy y rfl
      exact ⟨⟨MemoryStore.get?_put_self _ _ _, hs.store, hs.valid⟩, rfl⟩
    | none =>
      refine .bind (.session (Q := fun session s => c.Retained x s ∧
        session.memory.get? c.key = some x) fun s hs => ⟨hs.1, hs.1.memory⟩) fun session => ?_
      exact .pure fun _ hs => hs

theorem retained_cachedValid :
    Triple (c.Retained x) c.cachedValid (fun found s => c.Retained x s ∧ found = some x)
      (fun s => c.Retained x s ∧ .store .get c.key false ∈ s.outside.log) := by
  refine .bind retained_cached fun found => ?_
  cases found with
  | none => exact .vacuous fun _ hs => absurd hs.2 (by simp)
  | some y =>
    refine .bind (Q := fun valid s => (c.Retained x s ∧ some y = some x) ∧ valid = true)
      ((triple_isValid_known y).pre ?_) fun valid => .pure ?_
    · intro s hs
      obtain rfl := Option.some.inj hs.2
      exact ⟨hs, hs.1.valid⟩
    · intro s hs
      obtain ⟨hs, rfl⟩ := hs
      exact hs

/-- A context that is retained is given out and nothing is sent, unless the
shared store cannot be read. -/
theorem retained_negotiate :
    Triple (fun s => c.Retained x s ∧ ∀ e ∈ s.outside.log, e.isRequest = false)
      (c.negotiate false)
      (fun y s => (c.Retained x s ∧ y = x) ∧ ∀ e ∈ s.outside.log, e.isRequest = false)
      (fun s => c.Retained x s ∧ .store .get c.key false ∈ s.outside.log) := by
  unfold negotiate
  rw [if_neg (by simp)]
  have hunsent : ∀ s s', KeepsSession Event.isLocal s s' →
      (∀ e ∈ s.outside.log, e.isRequest = false) → ∀ e ∈ s'.outside.log, e.isRequest = false := by
    intro s s' hkeeps hs e he
    obtain ⟨new, hnew, hall⟩ := hkeeps.log
    rw [hnew] at he
    rcases List.mem_append.mp he with he | he
    · exact hs e he
    · exact Event.not_isRequest_of_isLocal (hall e he)
  refine .bind ((retained_cachedValid.frame c.keeps_cachedValid hunsent).fail
    fun _ hs => hs.1) fun found => ?_
  cases found with
  | some y => exact .pure fun s hs => ⟨⟨hs.1.1, Option.some.inj hs.1.2⟩, hs.2⟩
  | none => exact .vacuous fun _ hs => absurd hs.1.2 (by simp)

theorem retained_negotiate_same :
    Triple (c.Retained x) (c.negotiate false) (fun _ => c.Retained x) (c.Retained x) := by
  unfold negotiate
  rw [if_neg (by simp)]
  refine .bind (retained_cachedValid.fail fun _ hs => hs.1) fun found => ?_
  cases found with
  | some y => exact .pure fun _ hs => hs.1
  | none => exact .vacuous fun _ hs => absurd hs.2 (by simp)

theorem upkeep_retained : c.Upkeep (c.Retained x) :=
  .of_negotiate retained_negotiate_same fun _ _ _ _ hs => hs.congr rfl rfl rfl

-- ==================================================================== calls

/-- A context is retained, and it is known whether a token is forced. -/
structure Undisturbed (c : Client) (x : Context) (forced : Option String) (s : Scene) : Prop
    extends c.Retained x s where
  forced : c.forcedToken? s.session = forced

/-- A context is retained, unless a session of the client's own was rejected. -/
def RetainedUnlessRejected (c : Client) (x : Context) (forced : Option String) (s : Scene) :
    Prop :=
  c.Retained x s ∨ forced = none ∧ ∃ e ∈ s.outside.log, e.isRejection = true

variable {forced : Option String}

theorem Undisturbed.congr {s s' : Scene} (h : c.Undisturbed x forced s)
    (hmemory : s'.session.memory = s.session.memory)
    (hrevoked : s'.session.forcedRevoked = s.session.forcedRevoked)
    (hstore : s'.outside.store = s.outside.store) (hnow : s'.outside.now = s.outside.now) :
    c.Undisturbed x forced s' := by
  refine ⟨h.toRetained.congr hmemory hstore hnow, ?_⟩
  rw [forcedToken?, hrevoked]
  exact h.forced

theorem upkeep_undisturbed : c.Upkeep (c.Undisturbed x forced) :=
  .congr (upkeep_retained.and (.of_quiet (I := fun s => c.forcedToken? s.session = forced)
      fun _ _ hquiet hs => (forcedToken?_quiet hquiet).trans hs))
    fun _ => ⟨fun h => ⟨h.1, h.2⟩, fun h => ⟨h.toRetained, h.forced⟩⟩

/-- A client with a forced token knows so. -/
theorem undisturbed_active :
    Triple (c.Undisturbed x forced) c.active
      (fun a s => c.Undisturbed x forced s ∧ (a.forced = false → forced = none))
      (c.Undisturbed x forced) := by
  cases forced with
  | none => exact upkeep_undisturbed.active.post fun _ _ hs => ⟨hs, fun _ => rfl⟩
  | some token =>
    refine .of_outcome fun s hs => ?_
    rw [outcome_active_forced hs.forced]
    exact ⟨hs, by simp⟩

theorem undisturbed_connect (connection : Connection) :
    Triple (c.Undisturbed x forced) (connect connection) (fun _ => c.Undisturbed x forced)
      (c.Undisturbed x forced) := by
  refine .bind .session_same fun session => ?_
  split
  · exact .pure fun _ hs => hs
  · exact .bind (.openConnection (Q := fun _ => c.Undisturbed x forced)
      (fun _ _ hs => hs.congr rfl rfl rfl rfl) fun _ _ _ hs => hs.congr rfl rfl rfl rfl) fun _ =>
        .setSession fun _ hs => hs.congr rfl rfl rfl rfl

/-- A rejection of a forced token touches no cache. -/
theorem retained_onUnauthorized {e : Event} (he : e.isRejection = true) {isForced : Bool}
    (hforced : isForced = false → forced = none) :
    Triple (fun s => c.Undisturbed x forced s ∧ e ∈ s.outside.log) (c.onUnauthorized isForced)
      (fun _ => c.RetainedUnlessRejected x forced) (c.RetainedUnlessRejected x forced) := by
  cases isForced with
  | false =>
    exact ((c.grows_onUnauthorized false).triple (P := fun s => e ∈ s.outside.log)
      fun _ _ hgrows => hgrows.mem).conseq (fun _ hs => hs.2)
        (fun _ _ hs => Or.inr ⟨hforced rfl, e, hs, he⟩)
        fun _ hs => Or.inr ⟨hforced rfl, e, hs, he⟩
  | true =>
    unfold onUnauthorized
    rw [if_neg (by simp)]
    split
    · exact .setSession fun _ hs => Or.inl (hs.1.toRetained.congr rfl rfl rfl)
    · exact .pure fun s hs => Or.inl hs.1.toRetained

theorem retained_settle {isForced : Bool} (hforced : isForced = false → forced = none)
    (request : Request) (r : Response) :
    Triple (fun s => c.Undisturbed x forced s ∧
        .exchange .service request (.ok r) ∈ s.outside.log)
      (c.settle isForced r) (fun _ => c.Undisturbed x forced)
      (c.RetainedUnlessRejected x forced) := by
  unfold settle
  split
  · exact .pure fun _ hs => hs.1
  · split
    · next hstatus =>
      exact .bind (retained_onUnauthorized (by simpa [Event.isRejection] using hstatus) hforced)
        fun _ => .throw fun _ hs => hs
    · exact .throw fun _ hs => Or.inl hs.1.toRetained

/-- A call keeps the context, unless it is rejected with a session of the
client's own. -/
theorem retained_call (action : String) (method : Method) (headers : Headers)
    (body : Option ByteArray) :
    Triple (c.Undisturbed x forced) (c.call action method headers body)
      (fun _ => c.Undisturbed x forced) (c.RetainedUnlessRejected x forced) := by
  have hends : ∀ {α : Type} {a : Action α} {Q : α → Scene → Prop},
      Triple (c.Undisturbed x forced) a Q (c.Undisturbed x forced) →
      Triple (c.Undisturbed x forced) a Q (c.RetainedUnlessRejected x forced) :=
    fun h => h.fail fun _ hs => Or.inl hs.toRetained
  refine .bind (hends undisturbed_active) fun current => ?_
  by_cases hcurrent : current.forced = false → forced = none
  · refine .bind ((hends upkeep_undisturbed.resolve).pre fun _ hs => hs.1) fun connection => ?_
    refine .bind (hends (undisturbed_connect connection)) fun _ => ?_
    refine .bind (.send (Q := fun answer s => c.Undisturbed x forced s ∧ .exchange .service
      ⟨method, connection.urlFor action,
        c.requestHeaders method current.context.token headers, body⟩ answer ∈ s.outside.log)
      fun s answer network hs _ => ⟨hs.congr rfl rfl rfl rfl,
        List.mem_append_right _ (List.mem_singleton_self _)⟩) fun answer => ?_
    cases answer with
    | error message => exact .throw fun _ hs => Or.inl hs.1.toRetained
    | ok response => exact retained_settle hcurrent _ response
  · exact .vacuous fun _ hs => hcurrent hs.2

-- ============================================================== negotiations

/-- The client's memory has the context, and unless the shared store could not
be written all that it has under the client's key is a copy. -/
structure Stored (c : Client) (x : Context) (s : Scene) : Prop where
  memory : s.session.memory.get? c.key = some x
  store : (∃ y, .store (.put y) c.key false ∈ s.outside.log) ∨
    ∀ shared, s.outside.store = some shared → ∀ y, shared.store.get c.key = .ok (some y) →
      Context.SameToken x y

theorem stored_cached :
    Triple (fun _ => True) c.cached (fun found s => ∀ x, found = some x → c.Stored x s)
      (fun _ => True) := by
  refine .bind (.storeGet (Q := fun found s => ∀ shared, s.outside.store = some shared →
    shared.store.get c.key = .ok found) ?_ ?_ fun _ _ _ _ _ _ => trivial) fun found => ?_
  · intro s _ hstore shared hshared
    exact absurd (hstore.symm.trans hshared) (by simp)
  · intro s shared found _ hstore hget shared' hshared'
    obtain rfl := Option.some.inj (hstore.symm.trans hshared')
    exact SharedStore.get_ok hget
  · cases found with
    | some x =>
      refine .bind (.setSession (Q := fun _ => c.Stored x) ?_) fun _ => .pure ?_
      · intro s hs
        refine ⟨MemoryStore.get?_put_self _ _ _, Or.inr fun shared hshared y hy => ?_⟩
        obtain rfl := Option.some.inj (Except.ok.inj ((hs shared hshared).symm.trans hy))
        exact .refl x
      · intro s hs _ heq
        obtain rfl := Option.some.inj heq
        exact hs
    | none =>
      refine .bind (.session (Q := fun session s => ∀ x, session.memory.get? c.key = some x →
        c.Stored x s) fun s hs x hx => ⟨hx, Or.inr fun shared hshared y hy => ?_⟩) fun session =>
          .pure fun _ hs => hs
      exact absurd ((hs shared hshared).symm.trans hy) (by simp)

theorem stored_cachedValid :
    Triple (fun _ => True) c.cachedValid (fun found s => ∀ x, found = some x → c.Stored x s)
      (fun _ => True) := by
  refine .bind stored_cached fun found => ?_
  cases found with
  | none => exact .pure fun _ _ _ h => absurd h (by simp)
  | some x =>
    refine .bind ((triple_isValid_same x).fail fun _ _ => trivial) fun valid => .pure ?_
    intro s hs y hy
    cases valid with
    | true => exact hs y hy
    | false => exact absurd hy (by simp)

/-- What a handshake yields can be read back from where it is stored. -/
theorem storable_handshake :
    Triple (fun _ => True) c.handshake (fun x _ => x.Storable) (fun _ => True) :=
  .bind (Triple.attempt_same _) fun _ => .bind (.send (Q := fun _ _ => True) fun _ _ _ h _ => h)
    fun _ => .attempt (fun _ _ hx _ => Handshake.conclude_storable hx) fun _ h => h

theorem stored_renew :
    Triple (fun _ => True) c.renew (fun x => c.Stored x) (fun _ => True) := by
  refine .bind storable_handshake fun x => ?_
  refine .bind (.setSession (Q := fun _ s => x.Storable ∧ s.session.memory.get? c.key = some x)
    fun _ hx => ⟨hx, MemoryStore.get?_put_self _ _ _⟩) fun _ => ?_
  refine .bind (Q := fun _ => c.Stored x) (.ignoringErrors ?_) fun _ => .pure fun _ hs => hs
  refine .storeChange ?_ ?_ ?_
  · intro s hs hstore
    exact ⟨hs.2, Or.inr fun shared hshared => absurd (hstore.symm.trans hshared) (by simp)⟩
  · intro s shared changed hs _ hput
    refine ⟨hs.2, Or.inr fun shared' hshared' y hy => ?_⟩
    obtain rfl := Option.some.inj hshared'
    obtain ⟨found, hfound, hcopy⟩ := Store.get_put hs.1 (SharedStore.put_ok hput)
    exact hcopy y (Except.ok.inj (hfound.symm.trans hy))
  · intro s shared fault hs _ _
    exact ⟨hs.2, Or.inl ⟨x, List.mem_append_right _ (List.mem_singleton_self _)⟩⟩

/-- What a negotiation gives is left in memory, and copied to the shared store if
that can be written. -/
theorem stored_negotiate (force : Bool) :
    Triple (fun _ => True) (c.negotiate force) (fun x => c.Stored x) (fun _ => True) := by
  unfold negotiate
  split
  · exact stored_renew
  · refine .bind stored_cachedValid fun found => ?_
    cases found with
    | some x => exact .pure fun _ hs => hs x rfl
    | none => exact stored_renew.pre fun _ _ => trivial

-- ============================================================== displacement

/-- No reading of the shared store has failed. -/
def Readable (c : Client) (s : Scene) : Prop := .store .get c.key false ∉ s.outside.log

theorem Readable.noting {s t : Scene} {e : Event} (h : c.Readable s)
    (hlog : t.outside.log = s.outside.log) (he : e ≠ .store .get c.key false) :
    c.Readable (t.noting e) := by
  intro hmem
  have hmem : .store .get c.key false ∈ t.outside.log ++ [e] := hmem
  rw [hlog] at hmem
  rcases List.mem_append.mp hmem with hmem | hmem
  · exact h hmem
  · exact he (List.mem_singleton.mp hmem).symm

/-- A request was sent to the service or for a handshake. -/
def Requested (s : Scene) : Prop := ∃ e ∈ s.outside.log, e.isRequest = true

theorem Requested.noting {s t : Scene} (h : Requested s) (e : Event)
    (hlog : t.outside.log = s.outside.log) : Requested (t.noting e) := by
  obtain ⟨d, hd, hrequest⟩ := h
  exact ⟨d, List.mem_append_left _ (hlog ▸ hd), hrequest⟩

/-- The shared store gives a context, and it can be read. -/
structure Displaced (c : Client) (y : Context) (s : Scene) : Prop where
  stored : ∃ shared, s.outside.store = some shared ∧ shared.get c.key = .ok (some y)
  readable : c.Readable s

theorem displaced_handshake :
    Triple c.Readable c.handshake (fun _ s => c.Readable s ∧ Requested s) c.Readable := by
  refine .bind (Triple.attempt_same _) fun request => ?_
  refine .bind (.send (Q := fun _ s => c.Readable s ∧ Requested s) ?_) fun answer =>
    (Triple.attempt_same _).fail fun _ hs => hs.1
  intro s answer network hs _
  refine ⟨hs.noting rfl (by simp), .exchange .handshake request answer, ?_, rfl⟩
  exact List.mem_append_right _ (List.mem_singleton_self _)

theorem displaced_renew :
    Triple c.Readable c.renew (fun _ s => c.Readable s ∧ Requested s) c.Readable := by
  refine .bind displaced_handshake fun x => ?_
  refine .bind (.setSession (Q := fun _ s => c.Readable s ∧ Requested s) fun _ hs => hs)
    fun _ => ?_
  have hput : ∀ (s t : Scene) (ok : Bool), t.outside.log = s.outside.log →
      (c.Readable s ∧ Requested s) →
      c.Readable (t.noting (.store (.put x) c.key ok)) ∧
        Requested (t.noting (.store (.put x) c.key ok)) :=
    fun _ _ _ hlog hs => ⟨hs.1.noting hlog (by simp), hs.2.noting _ hlog⟩
  refine .bind (.ignoringErrors (.storeChange (fun _ hs _ => hs) ?_ ?_)) fun _ =>
    .pure fun _ hs => hs
  · exact fun s shared changed hs _ _ => hput s (s.withStore changed) true rfl hs
  · exact fun s _ _ hs _ _ => hput s s false rfl hs

/-- The shared store is read first. -/
theorem displaced_cached {y : Context} :
    Triple (c.Displaced y) c.cached (fun found s => found = some y ∧ c.Readable s)
      c.Readable := by
  refine .bind (.storeGet (Q := fun found s => found = some y ∧ c.Readable s) ?_ ?_ ?_)
    fun found => ?_
  · intro s hs hstore
    obtain ⟨shared, hshared, -⟩ := hs.stored
    exact absurd (hstore.symm.trans hshared) (by simp)
  · intro s shared found hs hstore hget
    obtain ⟨shared', hshared, hy⟩ := hs.stored
    obtain rfl := Option.some.inj (hstore.symm.trans hshared)
    exact ⟨Except.ok.inj (hget.symm.trans hy), hs.readable.noting rfl (by simp)⟩
  · intro s shared fault hs hstore hget
    obtain ⟨shared', hshared, hy⟩ := hs.stored
    obtain rfl := Option.some.inj (hstore.symm.trans hshared)
    exact absurd (hget.symm.trans hy) (by simp)
  · cases found with
    | some z =>
      exact .bind (.setSession (Q := fun _ s => some z = some y ∧ c.Readable s) fun _ hs => hs)
        fun _ => .pure fun _ hs => hs
    | none => exact .vacuous fun _ hs => absurd hs.1 (by simp)

theorem displaced_cachedValid {y : Context} :
    Triple (c.Displaced y) c.cachedValid
      (fun found s => c.Readable s ∧ ∀ x, found = some x → x = y) c.Readable := by
  refine .bind displaced_cached fun found => ?_
  cases found with
  | none => exact .pure fun _ hs => ⟨hs.2, by simp⟩
  | some z =>
    refine .bind ((triple_isValid_same z).fail fun _ hs => hs.2) fun valid => .pure ?_
    intro s hs
    refine ⟨hs.2, fun x hx => ?_⟩
    cases valid with
    | true => exact Option.some.inj (hx.symm.trans hs.1)
    | false => exact absurd hx (by simp)

/-- Where the shared store gives a context, a negotiation that is not forced
gives that one or sends a request. -/
theorem displaced_negotiate {y : Context} :
    Triple (c.Displaced y) (c.negotiate false)
      (fun x s => c.Readable s ∧ (x = y ∨ Requested s)) c.Readable := by
  unfold negotiate
  rw [if_neg (by simp)]
  refine .bind displaced_cachedValid fun found => ?_
  cases found with
  | some x => exact .pure fun _ hs => ⟨hs.1, Or.inl (hs.2 x rfl)⟩
  | none =>
    exact (displaced_renew.pre fun _ hs => hs.1).post fun _ _ hs => ⟨hs.1, Or.inr hs.2⟩

end Client
end CloudSession
