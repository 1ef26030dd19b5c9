/-
How many handshakes it takes to get a session and an endpoint. A session takes
one at most and is installed (`held_active`). If its context has expired on
arrival nothing valid is cached either, so that asking for the session again
performs another handshake (`repeated_resolve`); if not, an endpoint is found
without one (`settled_resolve`).
-/
import CloudSession.Proofs.Session.Coherence

namespace CloudSession

open CloudSession.Action

-- ==================================================================== counts

/-- The number of handshakes in the log. -/
def Scene.handshakes (s : Scene) : Nat := s.outside.log.countP Event.isHandshake

namespace Grows

variable {p : Event → Bool} {s s' : Scene}

theorem handshakes_le (h : Grows p s s') : s.handshakes ≤ s'.handshakes := by
  obtain ⟨new, hnew, -⟩ := h.log
  rw [Scene.handshakes, Scene.handshakes, hnew, List.countP_append]
  exact Nat.le_add_right _ _

theorem handshakes_eq (h : Grows p s s') (hp : ∀ e, p e = true → e.isHandshake = false) :
    s'.handshakes = s.handshakes := by
  obtain ⟨new, hnew, hall⟩ := h.log
  have hnone : new.countP Event.isHandshake = 0 := by
    rw [List.countP_eq_zero]
    intro e he
    simp [hp e (hall e he)]
  rw [Scene.handshakes, Scene.handshakes, hnew, List.countP_append, hnone, Nat.add_zero]

end Grows

theorem KeepsSession.handshakes_eq {s s' : Scene} (h : KeepsSession Event.isLocal s s') :
    s'.handshakes = s.handshakes :=
  h.toGrows.handshakes_eq fun _ => Event.not_isHandshake_of_isLocal

namespace Client

variable {α : Type} {c : Client} {n : Nat}

theorem counted_local {a : Action α} (h : Steps (KeepsSession Event.isLocal) a) {m : Nat}
    (hm : n ≤ m) :
    Triple (·.handshakes = n) a (fun _ => (·.handshakes = n)) (·.handshakes ≤ m) :=
  (h.triple fun _ _ hkeeps hs => hkeeps.handshakes_eq.trans hs).conseq (fun _ h => h)
    (fun _ _ h => h) fun _ hs => Nat.le_trans (Nat.le_of_eq hs) hm

theorem counted_handshake :
    Triple (·.handshakes = n) c.handshake (fun _ => (·.handshakes = n + 1))
      (·.handshakes ≤ n + 1) := by
  refine .bind (.attempt (Q := fun _ => (·.handshakes = n)) (fun _ _ _ hs => hs)
    fun _ hs => Nat.le_trans (Nat.le_of_eq hs) (Nat.le_succ n)) fun request => ?_
  refine .bind (.send (Q := fun _ => (·.handshakes = n + 1)) ?_) fun answer =>
    .attempt (fun _ _ _ hs => hs) fun _ hs => Nat.le_of_eq hs
  intro s answer network hs _
  show (s.outside.log ++ [_]).countP Event.isHandshake = n + 1
  rw [List.countP_append, ← hs]
  rfl

/-- Renewing a context takes one handshake. -/
theorem counted_renew :
    Triple (·.handshakes = n) c.renew (fun _ => (·.handshakes = n + 1)) (·.handshakes ≤ n + 1) :=
  .bind counted_handshake fun context =>
    .bind (counted_local (c.keeps_remember context) (Nat.le_refl _)) fun _ =>
      .bind (counted_local (.ignoringErrors (keeps_storePut _ _)) (Nat.le_refl _)) fun _ =>
        .pure fun _ hs => hs

-- =============================================================== stale caches

/-- The shared store can be read and gives no valid context. -/
def Lacking (c : Client) (s : Scene) : Prop :=
  ∀ shared, s.outside.store = some shared → ∃ found, shared.get c.key = .ok found ∧
    ∀ y, found = some y → y.isValid s.outside.now c.skew = some false

/-- Nothing that is cached is valid. -/
structure Stale (c : Client) (s : Scene) : Prop where
  store : c.Lacking s
  memory : ∀ y, s.session.memory.get? c.key = some y →
    y.isValid s.outside.now c.skew = some false

theorem Lacking.congr {s s' : Scene} (h : c.Lacking s) (hstore : s'.outside.store = s.outside.store)
    (hnow : s'.outside.now = s.outside.now) : c.Lacking s' := by
  unfold Lacking
  rw [hstore, hnow]
  exact h

/-- If no valid context is found, the shared store gives none. -/
theorem lacking_cached :
    Triple (fun _ => True) c.cached
      (fun found s => (∀ y, found = some y → y.isValid s.outside.now c.skew = some false) →
        c.Lacking s)
      (fun _ => True) := by
  refine .bind (Q := fun found s =>
    (∀ y, found = some y → y.isValid s.outside.now c.skew = some false) → c.Lacking s)
    (.storeGet ?_ ?_ fun _ _ _ _ _ _ => trivial) fun found => ?_
  · intro s _ hstore _ shared hshared
    exact absurd (hstore.symm.trans hshared) (by simp)
  · intro s shared found _ hstore hget hinvalid shared' hshared'
    obtain rfl := Option.some.inj (hstore.symm.trans hshared')
    exact ⟨found, hget, hinvalid⟩
  · cases found with
    | some context =>
      exact .bind (.setSession (Q := fun _ s => (∀ y, some context = some y →
        y.isValid s.outside.now c.skew = some false) → c.Lacking s)
        fun s hs hinvalid => (hs hinvalid).congr rfl rfl) fun _ => .pure fun _ hs => hs
    | none =>
      exact .bind (.session (Q := fun _ => c.Lacking) fun _ hs => hs (by simp)) fun _ =>
        .pure fun _ hs _ => hs

theorem lacking_cachedValid :
    Triple (fun _ => True) c.cachedValid
      (fun found s => match found with
        | some x => x.isValid s.outside.now c.skew = some true
        | none => c.Lacking s)
      (fun _ => True) := by
  refine .bind lacking_cached fun found => ?_
  cases found with
  | none => exact .pure fun _ hs => hs (by simp)
  | some context =>
    refine .bind ((triple_isValid context).conseq (fun _ h => h) (fun _ _ h => h)
      fun _ _ => trivial) fun valid => .pure ?_
    intro s hs
    obtain ⟨hs, hvalid⟩ := hs
    cases valid with
    | true => exact hvalid
    | false =>
      refine hs ?_
      intro _ heq
      obtain ⟨rfl⟩ := heq
      exact hvalid

/-- A renewed context that has expired on arrival is all that is cached. -/
theorem stale_renew :
    Triple c.Lacking c.renew
      (fun x s => x.isValid s.outside.now c.skew = some false →
        c.Stale s ∧ ∃ request, Handshake.request c.identity = .ok request)
      (fun _ => True) := by
  refine .bind (Q := fun x s => (c.Lacking s ∧ x.Storable) ∧
    ∃ request, Handshake.request c.identity = .ok request) ?_ fun context => ?_
  · refine .bind (.attempt (Q := fun request s => c.Lacking s ∧
      Handshake.request c.identity = .ok request) (fun request _ hrequest hs => ⟨hs, hrequest⟩)
      fun _ _ => trivial) fun request => ?_
    refine .bind (.send (Q := fun _ s => c.Lacking s ∧
      Handshake.request c.identity = .ok request)
      fun _ _ _ hs _ => ⟨hs.1.congr rfl rfl, hs.2⟩) fun answer => ?_
    exact .attempt (fun x s hx hs => ⟨⟨hs.1, Handshake.conclude_storable hx⟩, request, hs.2⟩)
      fun _ _ => trivial
  refine .bind (.setSession (Q := fun _ s => ((c.Lacking s ∧ context.Storable) ∧
    s.session.memory.get? c.key = some context) ∧
    ∃ request, Handshake.request c.identity = .ok request) ?_) fun _ => ?_
  · exact fun s hs => ⟨⟨⟨hs.1.1.congr rfl rfl, hs.1.2⟩, MemoryStore.get?_put_self _ _ _⟩, hs.2⟩
  refine .bind (.ignoringErrors (Q := fun _ s =>
    context.isValid s.outside.now c.skew = some false →
      c.Stale s ∧ ∃ request, Handshake.request c.identity = .ok request) ?_)
    fun _ => .pure fun _ hs => hs
  have hmemory : ∀ s : Scene, s.session.memory.get? c.key = some context →
      context.isValid s.outside.now c.skew = some false → ∀ y,
      s.session.memory.get? c.key = some y → y.isValid s.outside.now c.skew = some false := by
    intro s hs hinvalid y hy
    obtain rfl := Option.some.inj (hs.symm.trans hy)
    exact hinvalid
  refine .storeChange ?_ ?_ ?_
  · intro s hs _ hinvalid
    obtain ⟨⟨⟨hs, -⟩, hcontext⟩, hrequest⟩ := hs
    exact ⟨⟨hs, hmemory s hcontext hinvalid⟩, hrequest⟩
  · intro s shared changed hs hstore hput hinvalid
    obtain ⟨⟨⟨hs, hstorable⟩, hcontext⟩, hrequest⟩ := hs
    refine ⟨⟨?_, hmemory s hcontext hinvalid⟩, hrequest⟩
    intro _ heq
    obtain ⟨rfl⟩ := heq
    -- The store gives back the new context or none at all.
    obtain ⟨found, hget, -⟩ := hs shared hstore
    obtain ⟨found', hget', hcopy⟩ := SharedStore.get_put hstorable hget hput
    exact ⟨found', hget', fun y hy => ((hcopy y hy).isValid_eq _ _).symm.trans hinvalid⟩
  · intro s shared fault hs _ _ hinvalid
    obtain ⟨⟨⟨hs, -⟩, hcontext⟩, hrequest⟩ := hs
    exact ⟨⟨hs.congr rfl rfl, hmemory s hcontext hinvalid⟩, hrequest⟩

-- =================================================================== sessions

/-- A context was got with one handshake at most. If it has expired already,
that handshake yielded it and nothing else is cached. -/
structure Supplied (c : Client) (n : Nat) (x : Context) (s : Scene) : Prop where
  handshakes : s.handshakes ≤ n + 1
  expired : x.isValid s.outside.now c.skew = some false → s.handshakes = n + 1 ∧
    c.Stale s ∧ ∃ request, Handshake.request c.identity = .ok request

theorem Supplied.of_valid {x : Context} {s : Scene} (hs : s.handshakes ≤ n + 1)
    (hvalid : x.isValid s.outside.now c.skew = some true) : c.Supplied n x s :=
  ⟨hs, fun hinvalid => absurd (hvalid.symm.trans hinvalid) (by simp)⟩

theorem supplied_negotiate :
    Triple (·.handshakes = n) (c.negotiate false) (c.Supplied n) (·.handshakes ≤ n + 1) := by
  unfold negotiate
  rw [if_neg (by simp)]
  refine .bind (((counted_local c.keeps_cachedValid (Nat.le_succ n)).and lacking_cachedValid).conseq
    (fun _ hs => ⟨hs, trivial⟩) (fun _ _ hs => hs) fun _ hs => hs.1) fun found => ?_
  cases found with
  | some context =>
    refine .pure fun s hs => .of_valid ?_ hs.2
    exact Nat.le_trans (Nat.le_of_eq hs.1) (Nat.le_succ n)
  | none =>
    exact (counted_renew.and stale_renew).conseq (fun _ hs => hs)
      (fun _ _ hs => ⟨Nat.le_of_eq hs.1, fun hinvalid => ⟨hs.1, hs.2 hinvalid⟩⟩) fun _ hs => hs.1

/-- A context that was got and is in use. If it has expired already, no
connection is remembered. -/
structure Held (c : Client) (n : Nat) (x : Context) (s : Scene) : Prop
    extends c.Supplied n x s where
  context : s.session.context = some x
  unresolved : x.isValid s.outside.now c.skew = some false → s.session.resolved = none

theorem held_authenticate :
    Triple (·.handshakes = n) (c.authenticate false) (c.Held n) (·.handshakes ≤ n + 1) := by
  refine .bind supplied_negotiate fun context => ?_
  refine .bind (.attempt (Q := fun _ => c.Supplied n context) (fun _ _ _ hs => hs)
    fun _ hs => hs.handshakes) fun catalog => ?_
  refine .bind (.setSession (Q := fun _ => c.Held n context) fun s hs => ?_)
    fun _ => .pure fun _ hs => hs
  refine ⟨⟨hs.handshakes, fun hinvalid => ?_⟩, rfl, fun _ => rfl⟩
  obtain ⟨hcount, hstale, hrequest⟩ := hs.expired hinvalid
  exact ⟨hcount, ⟨hstale.store.congr rfl rfl, hstale.memory⟩, hrequest⟩

theorem held_installedValid :
    Triple (·.handshakes = n) c.installedValid
      (fun found s => s.handshakes = n ∧ ∀ x, found = some x → c.Held n x s)
      (·.handshakes ≤ n + 1) := by
  refine .bind .session_eq fun session => ?_
  cases hcontext : session.context with
  | none => exact .pure fun _ hs => ⟨hs.1, by simp⟩
  | some context =>
    refine .bind ((triple_isValid context).conseq (fun _ h => h) (fun _ _ h => h)
      fun _ hs => Nat.le_trans (Nat.le_of_eq hs.1) (Nat.le_succ n)) fun valid => .pure ?_
    intro s hs
    obtain ⟨⟨hs, rfl⟩, hvalid⟩ := hs
    refine ⟨hs, fun x hx => ?_⟩
    cases valid with
    | false => exact absurd hx (by simp)
    | true =>
      obtain rfl := Option.some.inj hx
      exact ⟨.of_valid (by omega) hvalid, hcontext,
        fun hinvalid => absurd (hvalid.symm.trans hinvalid) (by simp)⟩

/-- With a forced token there is nothing to do. -/
theorem outcome_active_forced {s : Scene} {token : String}
    (h : c.forcedToken? s.session = some token) :
    c.active.outcome s = (.ok ⟨.ofToken token, true⟩, s) := by
  rw [active, outcome_bind, outcome_session]
  simp only [h]
  rfl

/-- Without a forced token a session is got and is in use. -/
theorem held_active :
    Triple (fun s => s.handshakes = n ∧ c.forcedToken? s.session = none) c.active
      (fun a s => a.forced = false ∧ c.Held n a.context s) (·.handshakes ≤ n + 1) := by
  refine .bind (.session (Q := fun session s => s.handshakes = n ∧
    c.forcedToken? session = none) fun _ hs => hs) fun session => ?_
  split
  · next hforced => exact .vacuous fun s hs => absurd (hs.2.symm.trans hforced) (by simp)
  · refine .bind (held_installedValid.pre fun _ hs => hs.1) fun found => ?_
    cases found with
    | some context => exact .pure fun _ hs => ⟨rfl, hs.2 context rfl⟩
    | none =>
      exact .bind (held_authenticate.pre fun _ hs => hs.1) fun _ => .pure fun _ hs => ⟨rfl, hs⟩

-- ================================================================== endpoints

/-- An endpoint can be found without a handshake. -/
structure Settled (c : Client) (n : Nat) (o : Option Installed) (s : Scene) : Prop where
  handshakes : s.handshakes ≤ n
  installed : s.session.installed = o
  usable : c.forcedToken? s.session ≠ none ∨ c.selector.baseUrl ≠ none ∨
    ∃ i, o = some i ∧ i.context.isValid s.outside.now c.skew ≠ some false

variable {o : Option Installed}

theorem Settled.congr {s s' : Scene} (h : c.Settled n o s) (hcount : s'.handshakes = s.handshakes)
    (hinstalled : s'.session.installed = s.session.installed)
    (hrevoked : s'.session.forcedRevoked = s.session.forcedRevoked)
    (hnow : s'.outside.now = s.outside.now) : c.Settled n o s' := by
  refine ⟨hcount ▸ h.handshakes, hinstalled.trans h.installed, ?_⟩
  rw [hnow, forcedToken?, hrevoked]
  exact h.usable

theorem settled_local {a : Action α} (h : Steps (KeepsSession Event.isLocal) a) :
    Triple (c.Settled n o) a (fun _ => c.Settled n o) (c.Settled n o) :=
  h.triple fun _ _ hkeeps hs =>
    hs.congr hkeeps.handshakes_eq hkeeps.installed hkeeps.revoked hkeeps.now

/-- Where neither a token nor a base URL is forced the installed session is
still good, or its validity cannot be told. -/
theorem settled_installedValid (hbase : c.selector.baseUrl = none) :
    Triple (fun s => c.Settled n o s ∧ c.forcedToken? s.session = none) c.installedValid
      (fun found s => c.Settled n o s ∧ found ≠ none) (c.Settled n o) := by
  have husable : ∀ s, c.Settled n o s ∧ c.forcedToken? s.session = none →
      ∃ x, s.session.context = some x ∧ x.isValid s.outside.now c.skew ≠ some false := by
    intro s hs
    obtain ⟨hs, hforced⟩ := hs
    obtain ⟨i, hi, hvalid⟩ :=
      (hs.usable.resolve_left fun h => h hforced).resolve_left fun h => h hbase
    exact ⟨i.context, (Session.installed_eq_some.mp (hs.installed.trans hi)).1, hvalid⟩
  refine .bind .session_eq fun session => ?_
  cases hcontext : session.context with
  | none =>
    refine .vacuous ?_
    intro s hs
    obtain ⟨hs, rfl⟩ := hs
    obtain ⟨x, hx, -⟩ := husable s hs
    exact absurd (hcontext.symm.trans hx) (by simp)
  | some context =>
    refine .bind ((triple_isValid context).conseq (fun _ h => h) (fun _ _ h => h)
      fun _ hs => hs.1.1) fun valid => .pure ?_
    intro s hs
    obtain ⟨⟨hs, rfl⟩, hvalid⟩ := hs
    refine ⟨hs.1, ?_⟩
    obtain ⟨x, hx, hinvalid⟩ := husable s hs
    obtain rfl := Option.some.inj (hcontext.symm.trans hx)
    cases valid with
    | true => simp
    | false => exact absurd hvalid hinvalid

theorem settled_active (hbase : c.selector.baseUrl = none) :
    Triple (c.Settled n o) c.active (fun _ => c.Settled n o) (c.Settled n o) := by
  refine .bind (.session (Q := fun session s => c.Settled n o s ∧
    c.forcedToken? s.session = c.forcedToken? session) fun _ hs => ⟨hs, rfl⟩) fun session => ?_
  split
  · exact .pure fun _ hs => hs.1
  · next hforced =>
    refine .bind ((settled_installedValid hbase).pre fun _ hs => ⟨hs.1, hs.2.trans hforced⟩)
      fun found => ?_
    cases found with
    | some context => exact .pure fun _ hs => hs.1
    | none => exact .vacuous fun _ hs => hs.2 rfl

/-- Getting an endpoint does what getting a session does, unless a base URL is
forced or a connection is remembered. -/
theorem triple_resolve {P R : Scene → Prop}
    (hactive : c.selector.baseUrl = none → Triple P c.active (fun _ => R) R)
    (hbase : c.selector.baseUrl ≠ none → ∀ s, P s → R s)
    (hresolved : ∀ s, P s → s.session.resolved ≠ none → R s)
    (hset : ∀ s connection, R s →
      R (s.withSession fun session => { session with resolved := some connection })) :
    Triple P c.resolve (fun _ => R) R := by
  have hendpoint : Triple P (c.endpoint c.defaults) (fun _ => R) R := by
    unfold endpoint
    split
    · next url hurl => exact .pure (hbase (by simp [hurl]))
    · next hurl =>
      refine .bind (.bind (hactive hurl) fun active => ?_) fun _ => .attempt_same _
      split
      · exact .pure fun _ hs => hs
      · exact .bind .session_same fun _ => .pure fun _ hs => hs
  refine .bind .session_eq fun session => ?_
  split
  · next connection hconnection =>
    refine .pure ?_
    intro s hs
    obtain ⟨hs, rfl⟩ := hs
    exact hresolved s hs (by simp [hconnection])
  · exact .bind (hendpoint.pre fun _ hs => hs.1) fun _ => .bind (.attempt_same _) fun connection =>
      .bind (.setSession (Q := fun _ => R) fun s hs => hset s connection hs) fun _ =>
        .pure fun _ hs => hs

/-- Finding the endpoint takes no handshake, whatever comes of it. -/
theorem settled_resolve :
    Triple (c.Settled n o) c.resolve (fun _ => c.Settled n o) (c.Settled n o) :=
  triple_resolve settled_active (fun _ _ hs => hs) (fun _ hs _ => hs)
    fun _ _ hs => hs.congr rfl rfl rfl rfl

theorem settled_connect (connection : Connection) :
    Triple (c.Settled n o) (connect connection) (fun _ => c.Settled n o) (c.Settled n o) := by
  refine .bind .session_same fun session => ?_
  split
  · exact .pure fun _ hs => hs
  · exact .bind (settled_local (keeps_openConnection connection)) fun _ =>
      .setSession fun _ hs => hs.congr rfl rfl rfl rfl

-- ================================================================ repetition

/-- A session that has expired on arrival, with nothing else cached. -/
structure Outworn (c : Client) (n : Nat) (s : Scene) : Prop where
  handshakes : s.handshakes = n
  stale : c.Stale s
  unforced : c.forcedToken? s.session = none
  context : ∃ x, s.session.context = some x ∧ x.isValid s.outside.now c.skew = some false
  unresolved : s.session.resolved = none

/-- Handshakes that were performed stay in the log. -/
theorem counted_grows {a : Action α} {p : Event → Bool} (h : Steps (Grows p) a) :
    Triple (n ≤ ·.handshakes) a (fun _ => (n ≤ ·.handshakes)) (n ≤ ·.handshakes) :=
  h.triple fun _ _ hgrows hs => Nat.le_trans hs hgrows.handshakes_le

theorem counted_quiet {a : Action α} (h : Steps Quiet a) :
    Triple (n ≤ ·.handshakes) a (fun _ => (n ≤ ·.handshakes)) (n ≤ ·.handshakes) :=
  counted_grows (h.mono fun _ _ hquiet => hquiet.toGrows)

theorem outcome_isValid {s : Scene} {context : Context} {valid : Bool}
    (h : context.isValid s.outside.now c.skew = some valid) :
    (c.isValid context).outcome s = (.ok valid, s) := by
  rw [isValid, outcome_bind_ok (outcome_now s)]
  simp only [h]
  rfl

theorem triple_isValid_known {P E : Scene → Prop} {valid : Bool} (context : Context) :
    Triple (fun s => P s ∧ context.isValid s.outside.now c.skew = some valid)
      (c.isValid context) (fun v s => P s ∧ v = valid) E := by
  refine .bind (.now (Q := fun now s => P s ∧ context.isValid now c.skew = some valid)
    fun _ hs => hs) fun now => ?_
  split
  · next v hv => exact .pure fun _ hs => ⟨hs.1, Option.some.inj (hv.symm.trans hs.2)⟩
  · next hv => exact .vacuous fun _ hs => absurd (hv.symm.trans hs.2) (by simp)

/-- Nothing valid is found in stale caches. -/
theorem stale_cachedValid {E : Scene → Prop} :
    Triple (fun s => s.handshakes = n ∧ c.Stale s) c.cachedValid
      (fun found s => s.handshakes = n ∧ found = none) E := by
  have hfound : Triple (fun s => s.handshakes = n ∧ c.Stale s) c.cached
      (fun found s => s.handshakes = n ∧
        ∀ y, found = some y → y.isValid s.outside.now c.skew = some false) E := by
    have hnoting : ∀ s : Scene, (s.noting (.store .get c.key true)).handshakes = s.handshakes :=
      fun s => (KeepsSession.of_noting (p := Event.isLocal) (s := s) rfl rfl rfl rfl).handshakes_eq
    refine .bind (.storeGet (Q := fun found s => (s.handshakes = n ∧
      ∀ y, found = some y → y.isValid s.outside.now c.skew = some false) ∧
      ∀ y, s.session.memory.get? c.key = some y → y.isValid s.outside.now c.skew = some false)
      (fun s hs _ => ⟨⟨hs.1, by simp⟩, hs.2.memory⟩) ?_ ?_) fun found => ?_
    · intro s shared found hs hstore hget
      obtain ⟨found', hget', hinvalid⟩ := hs.2.store shared hstore
      obtain rfl := Except.ok.inj (hget.symm.trans hget')
      exact ⟨⟨(hnoting s).trans hs.1, hinvalid⟩, hs.2.memory⟩
    · intro s shared fault hs hstore hget
      obtain ⟨found', hget', -⟩ := hs.2.store shared hstore
      exact absurd (hget.symm.trans hget') (by simp)
    · cases found with
      | some context =>
        exact .bind (.setSession (Q := fun _ s => s.handshakes = n ∧ ∀ y, some context = some y →
          y.isValid s.outside.now c.skew = some false) fun _ hs => hs.1) fun _ =>
            .pure fun _ hs => hs
      | none =>
        refine .bind (.session (Q := fun session s => s.handshakes = n ∧ ∀ y,
          session.memory.get? c.key = some y → y.isValid s.outside.now c.skew = some false)
          fun _ hs => ⟨hs.1.1, hs.2⟩) fun session => .pure fun _ hs => hs
  refine .bind hfound fun found => ?_
  cases found with
  | none => exact .pure fun _ hs => ⟨hs.1, rfl⟩
  | some context =>
    refine .bind ((triple_isValid_known context).pre fun s hs => ⟨hs.1, hs.2 context rfl⟩)
      fun valid => .pure ?_
    intro s hs
    obtain ⟨hs, rfl⟩ := hs
    exact ⟨hs, rfl⟩

/-- The installed session is not valid any more. -/
theorem outworn_installedValid {E : Scene → Prop} :
    Triple (c.Outworn n) c.installedValid
      (fun found s => (s.handshakes = n ∧ c.Stale s) ∧ found = none) E := by
  refine .bind (.session (Q := fun session s => (s.handshakes = n ∧ c.Stale s) ∧
    ∃ x, session.context = some x ∧ x.isValid s.outside.now c.skew = some false)
    fun _ hs => ⟨⟨hs.handshakes, hs.stale⟩, hs.context⟩) fun session => ?_
  cases session.context with
  | none => exact .vacuous fun _ ⟨_, _, hi, _⟩ => absurd hi (by simp)
  | some context =>
    refine .bind (Q := fun valid s => (s.handshakes = n ∧ c.Stale s) ∧ valid = false)
      ((triple_isValid_known context).pre ?_) fun valid => .pure ?_
    · intro s hs
      obtain ⟨hs, _, ⟨rfl⟩, hinvalid⟩ := hs
      exact ⟨hs, hinvalid⟩
    · intro s hs
      obtain ⟨hs, rfl⟩ := hs
      exact ⟨hs, rfl⟩

section Repeated

variable (hrequest : ∃ request, Handshake.request c.identity = .ok request)

include hrequest

theorem repeated_negotiate :
    Triple (fun s => s.handshakes = n ∧ c.Stale s) (c.negotiate false)
      (fun _ => (n + 1 ≤ ·.handshakes)) (n + 1 ≤ ·.handshakes) := by
  obtain ⟨request, hrequest⟩ := hrequest
  have hhandshake : Triple (·.handshakes = n) c.handshake (fun _ => (n + 1 ≤ ·.handshakes))
      (n + 1 ≤ ·.handshakes) := by
    unfold handshake
    rw [hrequest]
    refine .bind (.pure (Q := fun _ => (·.handshakes = n)) fun _ hs => hs) fun request => ?_
    refine .bind (.send (Q := fun _ => (n + 1 ≤ ·.handshakes)) ?_) fun _ => .attempt_same _
    intro s answer network hs _
    show n + 1 ≤ (s.outside.log ++ [_]).countP Event.isHandshake
    rw [List.countP_append, ← hs]
    exact Nat.le_refl _
  have hrenew : Triple (·.handshakes = n) c.renew (fun _ => (n + 1 ≤ ·.handshakes))
      (n + 1 ≤ ·.handshakes) :=
    .bind hhandshake fun context => .bind (counted_quiet (c.keeps_remember context).ofLocal.quiet)
      fun _ => .bind (counted_quiet
        (Steps.ignoringErrors (keeps_storePut _ _)).ofLocal.quiet) fun _ => .pure fun _ hs => hs
  unfold negotiate
  rw [if_neg (by simp)]
  refine .bind stale_cachedValid fun found => ?_
  cases found with
  | some context => exact .vacuous fun _ hs => absurd hs.2 (by simp)
  | none => exact hrenew.pre fun _ hs => hs.1

theorem repeated_active :
    Triple (c.Outworn n) c.active (fun _ => (n + 1 ≤ ·.handshakes)) (n + 1 ≤ ·.handshakes) := by
  refine .bind .session_eq fun session => ?_
  split
  · next hforced =>
    refine .vacuous ?_
    intro s hs
    obtain ⟨hs, rfl⟩ := hs
    exact absurd (hs.unforced.symm.trans hforced) (by simp)
  · refine .bind (outworn_installedValid.pre fun _ hs => hs.1) fun found => ?_
    cases found with
    | some context => exact .vacuous fun _ hs => absurd hs.2 (by simp)
    | none =>
      exact .bind (.bind ((repeated_negotiate hrequest).pre fun _ hs => hs.1) fun context =>
        .bind (.attempt_same _) fun catalog =>
          .bind (counted_quiet (quiet_install context catalog)) fun _ => .pure fun _ hs => hs)
        fun _ => .pure fun _ hs => hs

/-- With a session that has expired on arrival, to find the endpoint takes
another handshake, whatever comes of it. -/
theorem repeated_resolve (hbase : c.selector.baseUrl = none) :
    Triple (c.Outworn n) c.resolve (fun _ => (n + 1 ≤ ·.handshakes)) (n + 1 ≤ ·.handshakes) :=
  triple_resolve (fun _ => repeated_active hrequest) (fun h => absurd hbase h)
    (fun _ hs hresolved => absurd hs.unresolved hresolved) fun _ _ hs => hs

end Repeated
end Client
end CloudSession
