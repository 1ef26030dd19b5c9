/-
What a client takes from the caches. Getting a session, finding its endpoint
and sending a request only ever put contexts there (`keepsKeys_negotiate`,
`upkeep_spared`). A call on a session of the client's own ends either so, with
nothing taken, or with the one rejection that it met: then nothing is left of
the session, the shared store was asked once to clear the client's key and
nothing else, and the entries under other keys are still there
(`spared_call`).
-/
import CloudSession.Proofs.Session.Upkeep
import CloudSession.Proofs.Store.Entry

namespace CloudSession

open CloudSession.Action

-- =================================================================== presence

/-- Whether there is something under a key. -/
def Entry.isPresent : Entry → Bool
  | .context found => found.isSome
  | .file bytes => bytes.isSome
  | .blocked _ => false

theorem Entry.isPresent_put {e e' : Entry} {x : Context} (h : e.put x = .ok e') :
    e'.isPresent = true := by
  cases e with
  | blocked fault => exact absurd h (by simp [put])
  | context found =>
    obtain rfl := Except.ok.inj h
    rfl
  | file bytes =>
    obtain rfl := Except.ok.inj h
    rfl

/-- What was put into a store is there. -/
theorem Store.isPresent_put {store store' : Store} {key : String} {x : Context}
    (h : store.put key x = .ok store') : (store'.entry key).isPresent = true := by
  have hentry := store.put_map_entry key x
  rw [h] at hentry
  exact Entry.isPresent_put hentry.symm

namespace Scene

/-- Whether the client has a context under a key in its memory. -/
def remembers (s : Scene) (key : String) : Bool := (s.session.memory.get? key).isSome

/-- Whether the shared store has something under a key. -/
def stores (s : Scene) (key : String) : Bool :=
  s.outside.store.any fun shared => (shared.store.entry key).isPresent

end Scene

/-- Nothing is taken from the caches under keys with `p`. -/
structure KeepsKeys (p : String → Prop) (s s' : Scene) : Prop where
  memory : ∀ key, p key → s.remembers key = true → s'.remembers key = true
  store : ∀ key, p key → s.stores key = true → s'.stores key = true
  shares : s'.outside.store.isSome = s.outside.store.isSome

namespace KeepsKeys

variable {p : String → Prop} {s s' : Scene}

instance : IsPreorder Scene (KeepsKeys p) where
  refl _ := ⟨fun _ _ h => h, fun _ _ h => h, rfl⟩
  trans _ _ _ hst htu :=
    ⟨fun key hp h => htu.memory key hp (hst.memory key hp h),
      fun key hp h => htu.store key hp (hst.store key hp h), htu.shares.trans hst.shares⟩

/-- Caches that are as they were. -/
theorem of_eq (hmemory : s'.session.memory = s.session.memory)
    (hstore : s'.outside.store = s.outside.store) : KeepsKeys p s s' := by
  refine ⟨fun key _ h => ?_, fun key _ h => ?_, by rw [hstore]⟩
  · rwa [Scene.remembers, hmemory]
  · rwa [Scene.stores, hstore]

theorem mono {q : String → Prop} (hpq : ∀ key, q key → p key) (h : KeepsKeys p s s') :
    KeepsKeys q s s' :=
  ⟨fun key hq => h.memory key (hpq key hq), fun key hq => h.store key (hpq key hq), h.shares⟩

/-- Another memory with the same contexts, or more of them. -/
theorem of_memory {f : Session → Session}
    (hmemory : ∀ key, p key → (s.session.memory.get? key).isSome = true →
      ((f s.session).memory.get? key).isSome = true) : KeepsKeys p s (s.withSession f) :=
  ⟨hmemory, fun _ _ h => h, rfl⟩

/-- Another store with the same entries, or more of them. -/
theorem of_store {shared changed : SharedStore} (hstore : s.outside.store = some shared)
    (hentry : ∀ key, p key → (shared.store.entry key).isPresent = true →
      (changed.store.entry key).isPresent = true) (e : Event) :
    KeepsKeys p s ((s.withStore changed).noting e) := by
  refine ⟨fun _ _ h => h, fun key hp h => ?_, by rw [hstore]; rfl⟩
  rw [Scene.stores, hstore] at h
  exact hentry key hp h

end KeepsKeys

namespace Client

variable {c : Client} {p : String → Prop}

-- =================================================================== putting

theorem keepsKeys_remember (x : Context) : Steps (KeepsKeys p) (c.remember x) := by
  refine .setSession fun s => .of_memory fun key _ h => ?_
  by_cases hkey : key = c.key
  · rw [hkey, MemoryStore.get?_put_self]
    rfl
  · rwa [MemoryStore.get?_put_of_ne _ hkey]

theorem keepsKeys_storePut (key : String) (x : Context) : Steps (KeepsKeys p) (storePut key x) := by
  refine steps_storeChange (fun s shared changed hstore hput => ?_) fun s => .of_eq rfl rfl
  refine .of_store hstore (fun other _ h => ?_) _
  by_cases hother : other = key
  · rw [hother]
    exact Store.isPresent_put (SharedStore.put_ok hput)
  · rwa [Store.entry_put_of_ne hother (SharedStore.put_ok hput)]

theorem keepsKeys_cached : Steps (KeepsKeys p) c.cached :=
  steps_cached (steps_storeGet fun _ _ => .of_eq rfl rfl) keepsKeys_remember

/-- A negotiation puts contexts into the caches and takes none from them. -/
theorem keepsKeys_negotiate (force : Bool) : Steps (KeepsKeys p) (c.negotiate force) :=
  steps_negotiate (steps_storeGet fun _ _ => .of_eq rfl rfl) keepsKeys_remember
    (fun _ => ⟨fun _ => .of_eq rfl rfl⟩) (keepsKeys_storePut c.key) force

theorem keepsKeys_authenticate (force : Bool) : Steps (KeepsKeys p) (c.authenticate force) :=
  .bind (keepsKeys_negotiate force) fun _ => .bind (.attempt _) fun _ =>
    .bind (.setSession fun _ => .of_eq rfl rfl) fun _ => .pure _

theorem keepsKeys_connect (connection : Connection) : Steps (KeepsKeys p) (connect connection) := by
  refine .bind .session fun session => ?_
  split
  · exact .pure _
  · refine .bind ⟨fun s => ?_⟩ fun _ => .setSession fun _ => .of_eq rfl rfl
    rw [outcome_openConnection]
    exact .of_eq rfl rfl

theorem upkeep_keepsKeys (s₀ : Scene) : c.Upkeep (KeepsKeys p s₀) :=
  .of_negotiate ((keepsKeys_negotiate false).triple fun s s' h hs => IsTrans.trans s₀ s s' hs h)
    fun s _ _ _ hs => IsTrans.trans s₀ s _ hs (.of_eq rfl rfl)

-- ===================================================================== taking

/-- Nothing was taken from a cache, and nothing has come that was to do so. -/
structure Spared (c : Client) (s₀ s : Scene) : Prop where
  unrejected : c.Unrejected s
  keys : KeepsKeys (fun _ => True) s₀ s

/-- What is logged of clearing the caches: one call, if a store is shared. -/
inductive Clearing (c : Client) : Bool → List Event → Prop
  | unshared : c.Clearing false []
  | shared (succeeded : Bool) : c.Clearing true [.store .clear c.key succeeded]

/-- One rejection has come, and then the caches were cleared of the client's
key, once. Other keys were spared, and nothing is left of the session. -/
structure Cleared (c : Client) (s₀ s : Scene) : Prop extends c.Evicted s where
  log : ∃ before rejection clearing, s.outside.log = before ++ rejection :: clearing ∧
    rejection.isRejection = true ∧
    (∀ e ∈ before, e.isRejection = false ∧ e.isClear = false) ∧
    c.Clearing s₀.outside.store.isSome clearing
  others : KeepsKeys (· ≠ c.key) s₀ s

/-- A request has been answered before which nothing was rejected. -/
structure Sent (c : Client) (s₀ : Scene) (answer : Answer) (s : Scene) : Prop where
  unforced : c.forcedToken? s.session = none
  log : ∃ before request, s.outside.log = before ++ [.exchange .service request answer] ∧
    ∀ e ∈ before, e.isRejection = false ∧ e.isClear = false
  keys : KeepsKeys (fun _ => True) s₀ s

variable {s₀ : Scene}

theorem upkeep_spared : c.Upkeep (c.Spared s₀) :=
  ((Upkeep.of_quiet fun _ _ hquiet hs => hs.quiet hquiet).and (upkeep_keepsKeys s₀)).congr
    fun _ => ⟨fun hs => ⟨hs.1, hs.2⟩, fun hs => ⟨hs.unrejected, hs.keys⟩⟩

/-- A quiet action that takes nothing from the caches. -/
theorem spared_quiet {α : Type} {a : Action α} (hquiet : Steps Quiet a)
    (hkeeps : Steps (KeepsKeys fun _ => True) a) :
    Triple (c.Spared s₀) a (fun _ => c.Spared s₀) (c.Spared s₀) :=
  ((unrejected_quiet hquiet).and
    (hkeeps.triple (P := KeepsKeys (fun _ => True) s₀) fun s s' h hs =>
      IsTrans.trans s₀ s s' hs h)).conseq (fun _ hs => ⟨hs.unrejected, hs.keys⟩)
    (fun _ _ hs => ⟨hs.1, hs.2⟩) fun _ hs => ⟨hs.1, hs.2⟩

theorem spared_active :
    Triple (c.Spared s₀) c.active (fun a s => c.Spared s₀ s ∧ a.forced = false)
      (c.Spared s₀) :=
  (unrejected_active.and (upkeep_keepsKeys s₀).active).conseq
    (fun _ hs => ⟨hs.unrejected, hs.keys⟩)
    (fun _ _ hs => ⟨⟨hs.1.1, hs.2⟩, hs.1.2⟩) fun _ hs => ⟨hs.1, hs.2⟩

/-- Unless the answer is 401 the log still shows no rejection. -/
theorem Sent.spared {answer : Answer} {s : Scene} (h : c.Sent s₀ answer s)
    (hanswer : ∀ r, answer = .ok r → r.status ≠ 401) : c.Spared s₀ s := by
  obtain ⟨before, request, hlog, hall⟩ := h.log
  refine ⟨⟨h.unforced, fun e he => ?_⟩, h.keys⟩
  rw [hlog] at he
  rcases List.mem_append.mp he with he | he
  · exact hall e he
  · obtain rfl := List.mem_singleton.mp he
    cases answer with
    | error message => exact ⟨rfl, rfl⟩
    | ok r => exact ⟨by simpa [Event.isRejection] using hanswer r rfl, rfl⟩

/-- One rejection has come, and the client has forgotten its context since. -/
structure Forgotten (c : Client) (s₀ s : Scene) : Prop where
  context : s.session.context = none
  memory : s.session.memory.get? c.key = none
  log : ∃ before rejection, s.outside.log = before ++ [rejection] ∧
    rejection.isRejection = true ∧ ∀ e ∈ before, e.isRejection = false ∧ e.isClear = false
  others : KeepsKeys (· ≠ c.key) s₀ s

theorem Sent.forgotten {r : Response} {s : Scene} (h : c.Sent s₀ (.ok r) s)
    (hstatus : r.status = 401) (hcontext : s.session.context = none) : c.Forgotten s₀
      (s.withSession fun session => { session with memory := session.memory.clear c.key }) := by
  obtain ⟨before, request, hlog, hall⟩ := h.log
  refine ⟨hcontext, MemoryStore.get?_clear_self _ _,
    ⟨before, _, hlog, by simpa [Event.isRejection] using hstatus, hall⟩, ?_⟩
  refine IsTrans.trans s₀ s _ (h.keys.mono fun _ _ => trivial) ?_
  refine .of_memory fun key hkey hmem => ?_
  rwa [MemoryStore.get?_clear_of_ne _ hkey]

/-- What is logged behind the rejection is the clearing, and if that succeeded
the store has nothing under the key. -/
theorem Forgotten.cleared {s s' : Scene} (h : c.Forgotten s₀ s) (clearing : List Event)
    (hlog : s'.outside.log = s.outside.log ++ clearing)
    (hclearing : c.Clearing s.outside.store.isSome clearing)
    (hsession : s'.session = s.session)
    (hstore : .store .clear c.key true ∈ clearing →
      ∃ shared, s'.outside.store = some shared ∧ shared.store.get c.key = .ok none)
    (hothers : KeepsKeys (· ≠ c.key) s s') : c.Cleared s₀ s' := by
  obtain ⟨before, rejection, hbefore, hrejection, hall⟩ := h.log
  have hlog : s'.outside.log = before ++ rejection :: clearing := by
    rw [hlog, hbefore, List.append_assoc, List.singleton_append]
  have hcontext : s'.session.context = none := by rw [hsession, h.context]
  have hmemory : s'.session.memory.get? c.key = none := by rw [hsession, h.memory]
  refine ⟨⟨hcontext, hmemory, fun hmem => hstore ?_⟩,
    ⟨before, rejection, clearing, hlog, hrejection, hall, ?_⟩,
    IsTrans.trans s₀ s s' h.others hothers⟩
  · -- No clearing comes before the rejection, and the rejection is none.
    rw [hlog] at hmem
    rcases List.mem_append.mp hmem with hmem | hmem
    · exact absurd (hall _ hmem).2 (by simp [Event.isClear])
    · rcases List.mem_cons.mp hmem with rfl | hmem
      · exact absurd hrejection (by simp [Event.isRejection])
      · exact hmem
  · rwa [← h.others.shares]

theorem cleared_storeClear :
    Triple (c.Forgotten s₀) (storeClear c.key) (fun _ => c.Cleared s₀) (c.Cleared s₀) := by
  refine .storeChange (fun s hs hstore => ?_) (fun s shared changed hs hstore hclear => ?_)
    fun s shared fault hs hstore _ => ?_
  · refine hs.cleared [] (List.append_nil _).symm ?_ rfl nofun (.of_eq rfl rfl)
    rw [hstore]
    exact .unshared
  · refine hs.cleared [.store .clear c.key true] rfl ?_ rfl
      (fun _ => ⟨changed, rfl, Store.get_clear (SharedStore.clear_ok hclear)⟩)
      (.of_store hstore (fun key hkey h => ?_) _)
    · rw [hstore]
      exact .shared true
    · rwa [Store.entry_clear_of_ne hkey (SharedStore.clear_ok hclear)]
  · refine hs.cleared [.store .clear c.key false] rfl ?_ rfl (by simp) (.of_eq rfl rfl)
    rw [hstore]
    exact .shared false

/-- A rejection clears the caches, whether or not the shared store can do so. -/
theorem cleared_onUnauthorized {r : Response} (hstatus : r.status = 401) {E : Scene → Prop} :
    Triple (c.Sent s₀ (.ok r)) (c.onUnauthorized false) (fun _ => c.Cleared s₀) E := by
  refine .bind (.setSession (Q := fun _ s => c.Sent s₀ (.ok r) s ∧ s.session.context = none)
    fun s hs => ⟨⟨hs.unforced, hs.log, IsTrans.trans s₀ s _ hs.keys (.of_eq rfl rfl)⟩, rfl⟩)
    fun _ => ?_
  exact .ignoringErrors (.bind (.setSession (Q := fun _ => c.Forgotten s₀) fun _ hs =>
    hs.1.forgotten hstatus hs.2) fun _ => cleared_storeClear)

theorem spared_settle (r : Response) :
    Triple (c.Sent s₀ (.ok r)) (c.settle false r) (fun _ => c.Spared s₀)
      (fun s => c.Spared s₀ s ∨ c.Cleared s₀ s) := by
  have hspared : r.status ≠ 401 → ∀ s, c.Sent s₀ (.ok r) s → c.Spared s₀ s :=
    fun hstatus _ hs => hs.spared fun _ heq => Except.ok.inj heq ▸ hstatus
  unfold settle
  split
  · next hsuccess =>
    refine .pure (hspared fun hstatus => ?_)
    simp [Response.isSuccess, hstatus] at hsuccess
  · split
    · next hstatus =>
      exact .bind (cleared_onUnauthorized (by simpa using hstatus)) fun _ =>
        .throw fun _ hs => .inr hs
    · next hstatus => exact .throw fun s hs => .inl (hspared (by simpa using hstatus) s hs)

/-- A call on a session of the client's own takes nothing from the caches,
unless it is rejected. -/
theorem spared_call (action : String) (method : Method) (headers : Headers)
    (body : Option ByteArray) :
    Triple (c.Spared s₀) (c.call action method headers body) (fun _ => c.Spared s₀)
      (fun s => c.Spared s₀ s ∨ c.Cleared s₀ s) := by
  refine .bind (spared_active.fail fun _ hs => .inl hs) fun current => ?_
  -- Without a forced token the session is the client's own.
  cases current.forced with
  | true => exact .vacuous fun _ hs => absurd hs.2 (by simp)
  | false =>
    refine .bind ((upkeep_spared.resolve.pre fun _ hs => hs.1).fail fun _ hs => .inl hs)
      fun connection => ?_
    refine .bind ((spared_quiet (quiet_connect connection) (keepsKeys_connect connection)).fail
      fun _ hs => .inl hs) fun _ => ?_
    refine .bind (.send (Q := fun answer => c.Sent s₀ answer) fun s answer network hs _ =>
      ⟨hs.unrejected.unforced, ⟨s.outside.log, _, rfl, hs.unrejected.log⟩,
        IsTrans.trans s₀ s _ hs.keys (.of_eq rfl rfl)⟩) fun answer => ?_
    cases answer with
    | error message => exact .throw fun _ hs => .inl (hs.spared (by simp))
    | ok response => exact spared_settle response

end Client
end CloudSession
