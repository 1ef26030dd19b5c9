/-
What every context of a client has. A property that its handshakes give to
contexts, and that contexts do not lose in a store (`Stamps`), is one of every
context within reach: in the shared store, in memory and in use (`Marked`).
Whatever a client does keeps this (`marked_negotiate`, `marked_call`), and the
context that it gets for a request has the property too (`marked_active`).
-/
import CloudSession.Proofs.Session.Upkeep

namespace CloudSession.Client

open CloudSession.Action

-- The property may depend on the key that a context is kept under.
variable {c : Client} {P : String → Context → Prop}

/-- The client's handshakes give contexts the property, and a document of a context
keeps it. -/
structure Stamps (c : Client) (P : String → Context → Prop) : Prop where
  granted : ∀ {answer x}, Handshake.conclude c.identity answer = .ok x → P c.key x
  kept : ∀ {x y}, P c.key x → Context.read? x.toJson.pretty = some y → P c.key y

/-- The contexts within the client's reach have the property. -/
structure Marked (c : Client) (P : String → Context → Prop) (s : Scene) : Prop where
  store : ∀ shared, s.outside.store = some shared → ∀ key x,
    shared.store.get key = .ok (some x) → P key x
  memory : ∀ x, s.session.memory.get? c.key = some x → P c.key x
  context : ∀ x, s.session.context = some x → P c.key x

theorem Marked.congr {s s' : Scene} (h : c.Marked P s)
    (hstore : s'.outside.store = s.outside.store)
    (hmemory : s'.session.memory = s.session.memory)
    (hcontext : s'.session.context = s.session.context) : c.Marked P s' :=
  ⟨hstore ▸ h.store, hmemory ▸ h.memory, hcontext ▸ h.context⟩

-- ==================================================================== caching

theorem marked_remember (x : Context) :
    Triple (fun s => c.Marked P s ∧ P c.key x) (c.remember x) (fun _ => c.Marked P)
      (c.Marked P) := by
  refine .setSession fun s ⟨hs, hx⟩ => ⟨hs.store, fun y hy => ?_, hs.context⟩
  have hy : (s.session.memory.put c.key x).get? c.key = some y := hy
  rw [MemoryStore.get?_put_self] at hy
  obtain rfl := Option.some.inj hy
  exact hx

/-- What is found has the property, wherever it is found. -/
theorem marked_cached :
    Triple (c.Marked P) c.cached
      (fun found s => c.Marked P s ∧ ∀ x, found = some x → P c.key x) (c.Marked P) := by
  refine .bind (.storeGet
    (Q := fun found s => c.Marked P s ∧ ∀ x, found = some x → P c.key x)
    (fun s hs _ => ⟨hs, by simp⟩) ?_ fun s _ _ hs _ _ => hs.congr rfl rfl rfl) fun found => ?_
  · intro s shared found hs hstore hget
    refine ⟨hs.congr rfl rfl rfl, fun x hx => hs.store shared hstore c.key x ?_⟩
    rw [SharedStore.get_ok hget, hx]
  · cases found with
    | some x =>
      by_cases hx : P c.key x
      · refine .bind ((marked_remember x).pre fun s hs => ⟨hs.1, hx⟩) fun _ =>
          .pure fun s hs => ⟨hs, fun y hy => ?_⟩
        rwa [← Option.some.inj hy]
      · exact .vacuous fun s hs => hx (hs.2 x rfl)
    | none =>
      refine .bind .session_eq fun session => .pure ?_
      intro s hs
      obtain ⟨⟨hs, -⟩, rfl⟩ := hs
      exact ⟨hs, hs.memory⟩

theorem marked_cachedValid :
    Triple (c.Marked P) c.cachedValid
      (fun found s => c.Marked P s ∧ ∀ x, found = some x → P c.key x) (c.Marked P) := by
  refine .bind marked_cached fun found => ?_
  cases found with
  | none => exact .pure fun s hs => ⟨hs.1, by simp⟩
  | some x =>
    refine .bind ((triple_isValid_same x).fail fun s hs => hs.1) fun valid => .pure ?_
    intro s hs
    refine ⟨hs.1, fun y hy => hs.2 y ?_⟩
    cases valid with
    | true => exact hy
    | false => exact nomatch hy

variable (hstamps : c.Stamps P)
include hstamps

/-- A context with the property is put under the client's key, and only there. -/
theorem marked_storePut (x : Context) :
    Triple (fun s => c.Marked P s ∧ P c.key x) (storePut c.key x) (fun _ => c.Marked P)
      (c.Marked P) := by
  refine .storeChange (fun s hs _ => hs.1) ?_ fun s _ _ hs _ _ => hs.1.congr rfl rfl rfl
  intro s shared changed hs hstore hput
  obtain ⟨hs, hx⟩ := hs
  refine ⟨fun shared' hshared' key y hy => ?_, hs.memory, hs.context⟩
  obtain rfl := Option.some.inj hshared'
  have hput := SharedStore.put_ok hput
  by_cases hkey : key = c.key
  · subst hkey
    rcases Store.get_put_cases hput with hget | hget
    · obtain rfl := Option.some.inj (Except.ok.inj (hget.symm.trans hy))
      exact hx
    · exact hstamps.kept hx (Except.ok.inj (hget.symm.trans hy))
  · rw [Store.get_put_of_ne hkey hput] at hy
    exact hs.store shared hstore key y hy

theorem marked_renew :
    Triple (c.Marked P) c.renew (fun x s => c.Marked P s ∧ P c.key x) (c.Marked P) := by
  have hhandshake : Triple (c.Marked P) c.handshake (fun x s => c.Marked P s ∧ P c.key x)
      (c.Marked P) :=
    .bind (.attempt_same _) fun request =>
      .bind (.send (Q := fun _ => c.Marked P) fun s answer network hs _ => hs.congr rfl rfl rfl)
        fun answer => .attempt (fun x s hx hs => ⟨hs, hstamps.granted hx⟩) fun s hs => hs
  refine .bind hhandshake fun x => ?_
  by_cases hx : P c.key x
  · refine .bind (marked_remember x) fun _ => ?_
    exact .bind (.ignoringErrors ((marked_storePut hstamps x).pre fun s hs => ⟨hs, hx⟩)) fun _ =>
      .pure fun s hs => ⟨hs, hx⟩
  · exact .vacuous fun s hs => hx hs.2

/-- Whatever is negotiated has the property. -/
theorem marked_negotiate (force : Bool) :
    Triple (c.Marked P) (c.negotiate force) (fun x s => c.Marked P s ∧ P c.key x)
      (c.Marked P) := by
  unfold negotiate
  split
  · exact marked_renew hstamps
  · refine .bind marked_cachedValid fun found => ?_
    cases found with
    | some x => exact .pure fun s hs => ⟨hs.1, hs.2 x rfl⟩
    | none => exact (marked_renew hstamps).pre fun s hs => hs.1

-- =================================================================== sessions

theorem marked_authenticate (force : Bool) :
    Triple (c.Marked P) (c.authenticate force)
      (fun x s => c.Marked P s ∧ s.session.context = some x) (c.Marked P) := by
  refine .bind (marked_negotiate hstamps force) fun x => ?_
  refine .bind ((Triple.attempt_same _).fail fun s hs => hs.1) fun catalog => ?_
  refine .bind (.setSession (Q := fun _ s => c.Marked P s ∧ s.session.context = some x) ?_)
    fun _ => .pure fun s hs => hs
  intro s hs
  obtain ⟨hs, hx⟩ := hs
  refine ⟨⟨hs.store, hs.memory, fun y hy => ?_⟩, rfl⟩
  obtain rfl := Option.some.inj hy
  exact hx

/-- A context that is not forced is the one in use. -/
theorem marked_active :
    Triple (c.Marked P) c.active
      (fun a s => c.Marked P s ∧ (a.forced = false → s.session.context = some a.context))
      (c.Marked P) := by
  have hinstalled : Triple (c.Marked P) c.installedValid
      (fun found s => c.Marked P s ∧ ∀ x, found = some x → s.session.context = some x)
      (c.Marked P) := by
    refine .bind .session_eq fun session => ?_
    cases hcontext : session.context with
    | none => exact .pure fun s hs => ⟨hs.1, by simp⟩
    | some x =>
      refine .bind ((triple_isValid_same x).fail fun s hs => hs.1) fun valid => .pure ?_
      intro s hs
      obtain ⟨hs, rfl⟩ := hs
      refine ⟨hs, fun y hy => ?_⟩
      cases valid with
      | true => rw [hcontext, ← hy]; rfl
      | false => exact nomatch hy
  refine .bind .session_same fun session => ?_
  split
  · exact .pure fun s hs => ⟨hs, by simp⟩
  · refine .bind hinstalled fun found => ?_
    cases found with
    | some x => exact .pure fun s hs => ⟨hs.1, fun _ => hs.2 x rfl⟩
    | none =>
      exact .bind ((marked_authenticate hstamps false).pre fun s hs => hs.1) fun x =>
        .pure fun s hs => ⟨hs.1, fun _ => hs.2⟩

theorem upkeep_marked : c.Upkeep (c.Marked P) :=
  .of_active ((marked_active hstamps).post fun _ _ hs => hs.1)
    fun _ _ hs => hs.congr rfl rfl rfl

-- ====================================================================== calls

omit hstamps in
/-- Where nothing is found any more, there is nothing to have the property. -/
theorem marked_clearCached :
    Triple (c.Marked P) c.clearCached (fun _ => c.Marked P) (c.Marked P) := by
  refine .bind (.setSession (Q := fun _ => c.Marked P) ?_) fun _ => ?_
  · intro s hs
    refine ⟨hs.store, fun x hx => ?_, hs.context⟩
    have hx : (s.session.memory.clear c.key).get? c.key = some x := hx
    rw [MemoryStore.get?_clear_self] at hx
    exact nomatch hx
  · refine .storeChange (fun s hs _ => hs) ?_ fun s _ _ hs _ _ => hs.congr rfl rfl rfl
    intro s shared changed hs hstore hclear
    refine ⟨fun shared' hshared' key x hx => ?_, hs.memory, hs.context⟩
    obtain rfl := Option.some.inj hshared'
    have hclear := SharedStore.clear_ok hclear
    by_cases hkey : key = c.key
    · subst hkey
      exact nomatch (Store.get_clear hclear).symm.trans hx
    · rw [Store.get_clear_of_ne hkey hclear] at hx
      exact hs.store shared hstore key x hx

omit hstamps in
theorem marked_connect (connection : Connection) :
    Triple (c.Marked P) (connect connection) (fun _ => c.Marked P) (c.Marked P) := by
  refine .bind .session_same fun session => ?_
  split
  · exact .pure fun s hs => hs
  · exact .bind (.openConnection (Q := fun _ => c.Marked P)
      (fun s network hs => hs.congr rfl rfl rfl)
      fun s network message hs => hs.congr rfl rfl rfl) fun _ =>
        .setSession fun s hs => hs.congr rfl rfl rfl

omit hstamps in
theorem marked_settle (forced : Bool) (r : Response) :
    Triple (c.Marked P) (c.settle forced r) (fun _ => c.Marked P) (c.Marked P) := by
  have hdropped : ∀ (s : Scene) (f : Session → Session), c.Marked P s →
      (f s.session).memory = s.session.memory → (f s.session).context = none →
      c.Marked P (s.withSession f) := by
    intro s f hs hmemory hcontext
    refine ⟨hs.store, fun x hx => hs.memory x (hmemory ▸ hx), fun x hx => ?_⟩
    exact nomatch hcontext.symm.trans hx
  have hunauthorized :
      Triple (c.Marked P) (c.onUnauthorized forced) (fun _ => c.Marked P) (c.Marked P) := by
    unfold onUnauthorized
    split
    · exact .bind (.setSession (Q := fun _ => c.Marked P) fun s hs => hdropped s _ hs rfl rfl)
        fun _ => .ignoringErrors marked_clearCached
    · split
      · exact .setSession fun s hs => hdropped s _ hs rfl rfl
      · exact .pure fun s hs => hs
  unfold settle
  split
  · exact .pure fun s hs => hs
  · split
    · exact .bind hunauthorized fun _ => .throw fun s hs => hs
    · exact .throw fun s hs => hs

theorem marked_call (action : String) (method : Method) (headers : Headers)
    (body : Option ByteArray) :
    Triple (c.Marked P) (c.call action method headers body) (fun _ => c.Marked P)
      (c.Marked P) := by
  refine .bind (upkeep_marked hstamps).active fun current =>
    .bind (upkeep_marked hstamps).resolve fun connection =>
    .bind (marked_connect connection) fun _ =>
    .bind (.send (Q := fun _ => c.Marked P) fun s answer network hs _ => hs.congr rfl rfl rfl)
      fun answer => ?_
  split
  · exact .throw fun s hs => hs
  · exact marked_settle _ _

end CloudSession.Client
