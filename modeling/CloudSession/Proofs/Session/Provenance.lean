/-
Where a session's contexts come from. Every context that an operation finds,
in the shared store, in memory or installed, is a copy of one that a handshake
yielded, either in this operation or among those that are known to have been
yielded before it (`Traced`). A context that a request is made with is besides
valid at the time, or a handshake of the same operation has just yielded it
(`traced_active`).
-/
import CloudSession.Proofs.Http.Headers
import CloudSession.Proofs.Session.Quiet
import CloudSession.Proofs.Store.Laws

namespace CloudSession.Client

open CloudSession.Action

-- ===================================================================== grants

/-- A handshake of the client in the log yielded the context. -/
def Granted (c : Client) (log : List Event) (x : Context) : Prop :=
  ∃ request answer, Event.exchange .handshake request answer ∈ log ∧
    Handshake.conclude c.identity answer = .ok x

/-- A handshake of the client yielded the context, and nothing has been sent
to the service since. -/
def JustGranted (c : Client) (log : List Event) (x : Context) : Prop :=
  ∃ before request answer after,
    log = before ++ .exchange .handshake request answer :: after ∧
      Handshake.conclude c.identity answer = .ok x ∧ ∀ e ∈ after, e.isService = false

variable {c : Client}

theorem JustGranted.granted {log : List Event} {x : Context} (h : c.JustGranted log x) :
    c.Granted log x := by
  obtain ⟨before, request, answer, after, rfl, hx, -⟩ := h
  exact ⟨request, answer, by simp, hx⟩

theorem Granted.storable {log : List Event} {x : Context} (h : c.Granted log x) :
    x.Storable := by
  obtain ⟨_, _, _, hx⟩ := h
  exact Handshake.conclude_storable hx

theorem Granted.grows {p : Event → Bool} {s s' : Scene} (hgrows : Grows p s s') {x : Context}
    (h : c.Granted s.outside.log x) : c.Granted s'.outside.log x := by
  obtain ⟨request, answer, hmem, hx⟩ := h
  exact ⟨request, answer, hgrows.mem hmem, hx⟩

theorem JustGranted.quiet {s s' : Scene} (hquiet : Quiet s s') {x : Context}
    (h : c.JustGranted s.outside.log x) : c.JustGranted s'.outside.log x := by
  obtain ⟨before, request, answer, after, hlog, hx, hafter⟩ := h
  obtain ⟨new, hnew, hall⟩ := hquiet.log
  refine ⟨before, request, answer, after ++ new, ?_, hx, ?_⟩
  · rw [hnew, hlog, List.append_assoc, List.cons_append]
  · intro e he
    cases List.mem_append.mp he with
    | inl h => exact hafter e h
    | inr h => exact Event.not_isService_of_isQuiet (hall e h)

-- ==================================================================== sources

-- The contexts that are known to have been yielded before, by key, and whether
-- the client's own session is known to hold none but such.
variable (c) (past : String → Context → Prop) (own : Prop)

/-- A copy of a context under a key that a handshake yielded. -/
def Sourced (log : List Event) (key : String) (x : Context) : Prop :=
  ∃ y, Context.SameToken y x ∧ (past key y ∨ key = c.key ∧ c.Granted log y)

/-- A copy of a context of the client's that is valid or just granted. -/
def Usable (s : Scene) (x : Context) : Prop :=
  ∃ y, Context.SameToken y x ∧ (past c.key y ∨ c.Granted s.outside.log y) ∧
    (y.isValid s.outside.now c.skew = some true ∨ c.JustGranted s.outside.log y)

/-- The contexts within reach come from handshakes. -/
structure Traced (s : Scene) : Prop where
  store : ∀ shared, s.outside.store = some shared → ∀ key x,
    shared.store.get key = .ok (some x) → c.Sourced past s.outside.log key x
  memory : own → ∀ x, s.session.memory.get? c.key = some x →
    c.Sourced past s.outside.log c.key x
  context : own → ∀ x, s.session.context = some x → c.Sourced past s.outside.log c.key x

variable {c} {past} {own}

theorem Sourced.grows {p : Event → Bool} {s s' : Scene} (hgrows : Grows p s s') {key : String}
    {x : Context} (h : c.Sourced past s.outside.log key x) :
    c.Sourced past s'.outside.log key x := by
  obtain ⟨y, hcopy, hpast | ⟨hkey, hgranted⟩⟩ := h
  · exact ⟨y, hcopy, Or.inl hpast⟩
  · exact ⟨y, hcopy, Or.inr ⟨hkey, hgranted.grows hgrows⟩⟩

theorem Usable.quiet {s s' : Scene} (hquiet : Quiet s s') {x : Context}
    (h : c.Usable past s x) : c.Usable past s' x := by
  obtain ⟨y, hcopy, hsource, huse⟩ := h
  refine ⟨y, hcopy, hsource.imp_right (·.grows hquiet.toGrows), ?_⟩
  rw [hquiet.now]
  exact huse.imp_right (·.quiet hquiet)

theorem Usable.sourced {s : Scene} {x : Context} (h : c.Usable past s x) :
    c.Sourced past s.outside.log c.key x := by
  obtain ⟨y, hcopy, hsource, -⟩ := h
  exact ⟨y, hcopy, hsource.imp_right fun h => ⟨rfl, h⟩⟩

theorem JustGranted.usable {s : Scene} {x : Context} (h : c.JustGranted s.outside.log x) :
    c.Usable past s x :=
  ⟨x, .refl x, Or.inr h.granted, Or.inr h⟩

/-- A context that was found and is valid can be used. -/
theorem Sourced.usable {s : Scene} {x : Context} (h : c.Sourced past s.outside.log c.key x)
    (hvalid : x.isValid s.outside.now c.skew = some true) : c.Usable past s x := by
  obtain ⟨y, hcopy, hsource⟩ := h
  refine ⟨y, hcopy, hsource.imp_right (·.2), Or.inl ?_⟩
  rw [hcopy.isValid_eq, hvalid]

/-- What comes from handshakes still does when the log has grown. -/
theorem Traced.grows {p : Event → Bool} {s s' : Scene} (h : c.Traced past own s)
    (hgrows : Grows p s s') (hstore : s'.outside.store = s.outside.store)
    (hmemory : s'.session.memory = s.session.memory)
    (hcontext : s'.session.context = s.session.context) : c.Traced past own s' where
  store shared hshared key x hx :=
    (h.store shared (hstore ▸ hshared) key x hx).grows hgrows
  memory hown x hx := (h.memory hown x (hmemory ▸ hx)).grows hgrows
  context hown x hx := (h.context hown x (hcontext ▸ hx)).grows hgrows

theorem Traced.noting {s : Scene} (h : c.Traced past own s) (e : Event) :
    c.Traced past own (s.noting e) :=
  h.grows (Grows.noting _ rfl rfl) rfl rfl rfl

-- ==================================================================== caching

theorem triple_isValid {P : Scene → Prop} (context : Context) :
    Triple P (c.isValid context)
      (fun valid s => P s ∧ context.isValid s.outside.now c.skew = some valid) P := by
  refine .bind (.now (Q := fun now s => P s ∧ now = s.outside.now) fun s hs => ⟨hs, rfl⟩)
    fun now => ?_
  split
  · next valid hvalid =>
    refine .pure fun s hs => ⟨hs.1, ?_⟩
    rw [← hs.2, hvalid]
  · exact .throw fun s hs => hs.1

theorem traced_remember (context : Context) :
    Triple (fun s => c.Traced past own s ∧ c.Sourced past s.outside.log c.key context)
      (c.remember context)
      (fun _ s => c.Traced past own s ∧ c.Sourced past s.outside.log c.key context)
      (c.Traced past own) := by
  refine .setSession fun s ⟨hs, hsourced⟩ => ?_
  refine ⟨⟨hs.store, fun _ x hx => ?_, hs.context⟩, hsourced⟩
  have hx : (s.session.memory.put c.key context).get? c.key = some x := hx
  rw [MemoryStore.get?_put_self] at hx
  obtain rfl := Option.some.inj hx
  exact hsourced

theorem traced_storeGet :
    Triple (c.Traced past own) (storeGet c.key)
      (fun found s => c.Traced past own s ∧
        ∀ x, found = some x → c.Sourced past s.outside.log c.key x)
      (c.Traced past own) := by
  refine .storeGet (fun s hs _ => ⟨hs, by simp⟩) ?_ fun s _ _ hs _ _ => hs.noting _
  intro s shared found hs hstore hget
  refine ⟨hs.noting _, ?_⟩
  intro x heq
  subst heq
  exact (hs.store shared hstore c.key x (SharedStore.get_ok hget)).grows
    (Grows.noting _ rfl rfl)

/-- What is found is a copy of a context that a handshake yielded. -/
theorem traced_cached :
    Triple (c.Traced past own) c.cached
      (fun found s => c.Traced past own s ∧
        (own → ∀ x, found = some x → c.Sourced past s.outside.log c.key x))
      (c.Traced past own) := by
  refine .bind traced_storeGet fun found => ?_
  cases found with
  | some context =>
    refine .bind ((traced_remember context).pre fun s hs => ⟨hs.1, hs.2 context rfl⟩)
      fun _ => .pure fun s hs => ⟨hs.1, ?_⟩
    intro _ x heq
    obtain ⟨rfl⟩ := heq
    exact hs.2
  | none =>
    refine .bind (.session (Q := fun session s => c.Traced past own s ∧ session = s.session)
      fun s hs => ⟨hs.1, rfl⟩) fun session => .pure ?_
    intro s hs
    obtain ⟨hs, rfl⟩ := hs
    exact ⟨hs, fun hown x hx => hs.memory hown x hx⟩

/-- A valid context that is found can be used. -/
theorem traced_cachedValid :
    Triple (c.Traced past own) c.cachedValid
      (fun found s => c.Traced past own s ∧
        (own → ∀ x, found = some x → c.Usable past s x))
      (c.Traced past own) := by
  refine .bind traced_cached fun found => ?_
  cases found with
  | none => exact .pure fun s hs => ⟨hs.1, by simp⟩
  | some context =>
    refine .bind ((triple_isValid context).conseq (fun _ h => h) (fun _ _ h => h) fun s hs => hs.1)
      fun valid => .pure ?_
    intro s hs
    obtain ⟨⟨hs, hfound⟩, hvalid⟩ := hs
    refine ⟨hs, fun hown x hx => ?_⟩
    cases valid with
    | false => exact absurd hx (by simp)
    | true =>
      obtain rfl := Option.some.inj hx
      exact (hfound hown context rfl).usable hvalid

-- ================================================================= handshakes

theorem traced_handshake :
    Triple (c.Traced past own) c.handshake
      (fun x s => c.Traced past own s ∧ c.JustGranted s.outside.log x)
      (c.Traced past own) := by
  refine .bind (.attempt_same _) fun request => ?_
  refine .bind (Q := fun answer s => c.Traced past own s ∧
    ∃ log, s.outside.log = log ++ [.exchange .handshake request answer]) ?_ fun answer => ?_
  · refine .send fun s answer network hs _ => ⟨?_, s.outside.log, rfl⟩
    exact hs.grows (Grows.noting _ rfl rfl) rfl rfl rfl
  · refine .attempt ?_ fun s hs => hs.1
    intro x s hx hs
    obtain ⟨hs, log, hlog⟩ := hs
    exact ⟨hs, log, request, answer, [], hlog, hx, by simp⟩

/-- A context that was granted is put under the client's key, and only there. -/
theorem traced_storePut {context : Context} :
    Triple (fun s => c.Traced past own s ∧ c.Granted s.outside.log context)
      (storePut c.key context) (fun _ => c.Traced past own) (c.Traced past own) := by
  refine .storeChange (fun s hs _ => hs.1) ?_ fun s _ _ hs _ _ => hs.1.noting _
  intro s shared changed hs hstore hput
  obtain ⟨hs, hgranted⟩ := hs
  have hgrows : Grows (fun _ => true) s
      ((s.withStore changed).noting (.store (.put context) c.key true)) :=
    Grows.of_noting rfl rfl rfl
  refine ⟨?_, fun hown x hx => (hs.memory hown x hx).grows hgrows,
    fun hown x hx => (hs.context hown x hx).grows hgrows⟩
  intro shared' hshared' key x hx
  obtain rfl := Option.some.inj hshared'
  have hput := SharedStore.put_ok hput
  by_cases hkey : key = c.key
  · subst hkey
    obtain ⟨found, hfound, hcopy⟩ := Store.get_put hgranted.storable hput
    rw [hfound] at hx
    exact ⟨context, hcopy x (Except.ok.inj hx), Or.inr ⟨rfl, hgranted.grows hgrows⟩⟩
  · rw [Store.get_put_of_ne hkey hput] at hx
    exact (hs.store shared hstore key x hx).grows hgrows

theorem traced_renew :
    Triple (c.Traced past own) c.renew
      (fun x s => c.Traced past own s ∧ c.JustGranted s.outside.log x)
      (c.Traced past own) := by
  refine .bind traced_handshake fun context => ?_
  refine .bind (Q := fun _ s => c.Traced past own s ∧ c.JustGranted s.outside.log context)
    ?_ fun _ => ?_
  · refine ((traced_remember context).frame (c.keeps_remember context).ofLocal.quiet
      (F := fun s => c.JustGranted s.outside.log context) fun s s' h hx => hx.quiet h).conseq
        (fun s hs => ⟨⟨hs.1, hs.2.usable.sourced⟩, hs.2⟩) (fun _ s hs => ⟨hs.1.1, hs.2⟩)
        fun s hs => hs.1
  refine .bind (Q := fun _ s => c.Traced past own s ∧ c.JustGranted s.outside.log context)
    ?_ fun _ => .pure fun s hs => hs
  refine .ignoringErrors ((traced_storePut.frame (keeps_storePut c.key context).ofLocal.quiet
    (F := fun s => c.JustGranted s.outside.log context) fun s s' h hx => hx.quiet h).pre ?_)
  exact fun s hs => ⟨⟨hs.1, hs.2.granted⟩, hs.2⟩

/-- Whatever is negotiated is a context that can be used. -/
theorem traced_negotiate (force : Bool) :
    Triple (c.Traced past own) (c.negotiate force)
      (fun x s => c.Traced past own s ∧ (own → c.Usable past s x))
      (c.Traced past own) := by
  have hrenew : Triple (c.Traced past own) c.renew
      (fun x s => c.Traced past own s ∧ (own → c.Usable past s x)) (c.Traced past own) :=
    traced_renew.post fun x s hs => ⟨hs.1, fun _ => hs.2.usable⟩
  unfold negotiate
  split
  · exact hrenew
  · refine .bind traced_cachedValid fun found => ?_
    cases found with
    | some context => exact .pure fun s hs => ⟨hs.1, fun hown => hs.2 hown context rfl⟩
    | none => exact hrenew.pre fun s hs => hs.1

-- =================================================================== sessions

theorem traced_authenticate (force : Bool) :
    Triple (c.Traced past own) (c.authenticate force)
      (fun x s => c.Traced past own s ∧ (own → c.Usable past s x))
      (c.Traced past own) := by
  refine .bind (traced_negotiate force) fun context => ?_
  refine .bind (.attempt (Q := fun _ s => c.Traced past own s ∧ (own → c.Usable past s context))
    (fun _ _ _ hs => hs) fun s hs => hs.1) fun catalog => ?_
  refine .bind (.setSession
    (Q := fun _ s => c.Traced past own s ∧ (own → c.Usable past s context)) ?_)
    fun _ => .pure fun s hs => hs
  intro s hs
  obtain ⟨hs, huse⟩ := hs
  refine ⟨⟨hs.store, hs.memory, fun hown x hx => ?_⟩, huse⟩
  obtain rfl := Option.some.inj hx
  exact (huse hown).sourced

theorem traced_installedValid :
    Triple (c.Traced past own) c.installedValid
      (fun found s => c.Traced past own s ∧
        (own → ∀ x, found = some x → c.Usable past s x))
      (c.Traced past own) := by
  refine .bind .session_eq fun session => ?_
  cases hcontext : session.context with
  | none => exact .pure fun s hs => ⟨hs.1, by simp⟩
  | some context =>
    refine .bind ((triple_isValid context).conseq (fun _ h => h) (fun _ _ h => h)
      fun s hs => hs.1) fun valid => .pure ?_
    intro s hs
    obtain ⟨⟨hs, rfl⟩, hvalid⟩ := hs
    refine ⟨hs, fun hown x hx => ?_⟩
    cases valid with
    | false => exact absurd hx (by simp)
    | true =>
      obtain rfl := Option.some.inj hx
      exact (hs.context hown context hcontext).usable hvalid

variable (c) (past) (own) in
/-- A forced token if there is one, else a context that can be used. -/
def Ready (s : Scene) (a : Active) : Prop :=
  match c.forcedToken? s.session with
  | some token => a.context = .ofToken token ∧ a.forced = true
  | none => a.forced = false ∧ (own → c.Usable past s a.context)

/-- Whether a token is forced is not changed by what is quiet. -/
theorem forcedToken?_quiet {s s' : Scene} (h : Quiet s s') :
    c.forcedToken? s'.session = c.forcedToken? s.session := by
  rw [forcedToken?, forcedToken?, h.revoked]

theorem Ready.quiet {s s' : Scene} (hquiet : Quiet s s') {a : Active}
    (h : c.Ready past own s a) : c.Ready past own s' a := by
  unfold Ready at *
  rw [forcedToken?_quiet hquiet]
  cases hforced : c.forcedToken? s.session with
  | some token => simpa only [hforced] using h
  | none =>
    simp only [hforced] at h
    exact ⟨h.1, fun hown => (h.2 hown).quiet hquiet⟩

theorem traced_active :
    Triple (c.Traced past own) c.active
      (fun a s => c.Traced past own s ∧ c.Ready past own s a) (c.Traced past own) := by
  refine .bind .session_eq fun session => ?_
  cases hforced : c.forcedToken? session with
  | some token =>
    refine .pure ?_
    intro s hs
    obtain ⟨hs, rfl⟩ := hs
    refine ⟨hs, ?_⟩
    unfold Ready
    rw [hforced]
    exact ⟨rfl, rfl⟩
  | none =>
    have hready : ∀ (context : Context) (s : Scene), c.forcedToken? s.session = none →
        (own → c.Usable past s context) → c.Ready past own s ⟨context, false⟩ := by
      intro context s hs huse
      unfold Ready
      rw [hs]
      exact ⟨rfl, huse⟩
    have hunforced : ∀ s s', Quiet s s' → c.forcedToken? s.session = none →
        c.forcedToken? s'.session = none := by
      intro s s' hquiet hs
      rw [forcedToken?_quiet hquiet, hs]
    refine .bind ((traced_installedValid.frame c.keeps_installedValid.ofLocal.quiet
      hunforced).conseq ?_ (fun _ _ hs => hs) fun s hs => hs.1) fun found => ?_
    · intro s hs
      obtain ⟨hs, rfl⟩ := hs
      exact ⟨hs, hforced⟩
    cases found with
    | some context =>
      refine .pure fun s hs => ⟨hs.1.1, hready context s hs.2 fun hown => hs.1.2 hown context rfl⟩
    | none =>
      refine .bind (((traced_authenticate false).frame (c.quiet_authenticate false)
        hunforced).conseq (fun s hs => ⟨hs.1.1, hs.2⟩) (fun _ _ hs => hs) fun s hs => hs.1)
        fun context => .pure fun s hs => ⟨hs.1.1, hready context s hs.2 hs.1.2⟩

-- ================================================================== endpoints

theorem traced_catalog :
    Triple (c.Traced past own) c.catalog (fun _ => c.Traced past own) (c.Traced past own) := by
  refine .bind traced_active fun active => ?_
  split
  · exact .pure fun s hs => hs.1
  · exact .bind (.session (Q := fun _ => c.Traced past own) fun s hs => hs.1) fun _ =>
      .pure fun s hs => hs

theorem traced_endpoint (wanted : Wanted) :
    Triple (c.Traced past own) (c.endpoint wanted) (fun _ => c.Traced past own)
      (c.Traced past own) := by
  unfold endpoint
  split
  · exact .pure fun s hs => hs
  · exact .bind traced_catalog fun _ => .attempt_same _

theorem traced_setSession {f : Session → Session} (hmemory : ∀ s, (f s).memory = s.memory)
    (hcontext : ∀ s, (f s).context = s.context ∨ (f s).context = none) :
    Triple (c.Traced past own) (setSession f) (fun _ => c.Traced past own)
      (c.Traced past own) := by
  refine .setSession fun s hs => ⟨hs.store, fun hown x hx => hs.memory hown x ?_,
    fun hown x hx => hs.context hown x ?_⟩
  · rw [← hmemory]
    exact hx
  · have hx : (f s.session).context = some x := hx
    cases hcontext s.session with
    | inl h => rw [← h, hx]
    | inr h => exact absurd (h.symm.trans hx) (by simp)

theorem traced_resolve :
    Triple (c.Traced past own) c.resolve (fun _ => c.Traced past own) (c.Traced past own) := by
  refine .bind .session_same fun session => ?_
  split
  · exact .pure fun s hs => hs
  · refine .bind (traced_endpoint c.defaults) fun url => ?_
    refine .bind (.attempt_same (Connection.ofUrl url)) fun connection => ?_
    exact .bind (traced_setSession (fun _ => rfl) fun _ => Or.inl rfl) fun _ => .pure fun s hs => hs

theorem traced_connect (connection : Connection) :
    Triple (c.Traced past own) (connect connection) (fun _ => c.Traced past own)
      (c.Traced past own) := by
  refine .bind .session_same fun session => ?_
  have hopen : ∀ (s : Scene) (network : Network) (e : Event), c.Traced past own s →
      c.Traced past own ((s.withNetwork network).noting e) := fun s network e hs =>
    hs.grows (Grows.noting _ rfl rfl) rfl rfl rfl
  split
  · exact .pure fun s hs => hs
  · refine .bind (.openConnection (Q := fun _ => c.Traced past own)
      (fun s network hs => hopen s network _ hs) fun s network _ hs => hopen s network _ hs)
      fun _ => ?_
    exact traced_setSession (fun _ => rfl) fun _ => Or.inl rfl

-- =================================================================== eviction

theorem traced_clearCached :
    Triple (c.Traced past own) c.clearCached (fun _ => c.Traced past own)
      (c.Traced past own) := by
  refine .bind (.setSession (Q := fun _ => c.Traced past own) ?_) fun _ => ?_
  · refine fun s hs => ⟨hs.store, fun hown x hx => ?_, hs.context⟩
    have hx : (s.session.memory.clear c.key).get? c.key = some x := hx
    rw [MemoryStore.get?_clear_self] at hx
    exact absurd hx (by simp)
  refine .storeChange (fun s hs _ => hs) ?_ fun s _ _ hs _ _ => hs.noting _
  intro s shared changed hs hstore hclear
  have hgrows : Grows (fun _ => true) s
      ((s.withStore changed).noting (.store .clear c.key true)) := Grows.of_noting rfl rfl rfl
  refine ⟨?_, fun hown x hx => (hs.memory hown x hx).grows hgrows,
    fun hown x hx => (hs.context hown x hx).grows hgrows⟩
  intro shared' hshared' key x hx
  obtain rfl := Option.some.inj hshared'
  have hclear := SharedStore.clear_ok hclear
  by_cases hkey : key = c.key
  · subst hkey
    rw [Store.get_clear hclear] at hx
    exact absurd hx (by simp)
  · rw [Store.get_clear_of_ne hkey hclear] at hx
    exact (hs.store shared hstore key x hx).grows hgrows

theorem traced_onUnauthorized (forced : Bool) :
    Triple (c.Traced past own) (c.onUnauthorized forced) (fun _ => c.Traced past own)
      (c.Traced past own) := by
  unfold onUnauthorized
  split
  · exact .bind (traced_setSession (fun _ => rfl) fun _ => Or.inr rfl) fun _ =>
      .ignoringErrors traced_clearCached
  · split
    · exact traced_setSession (fun _ => rfl) fun _ => Or.inr rfl
    · exact .pure fun s hs => hs

end CloudSession.Client
