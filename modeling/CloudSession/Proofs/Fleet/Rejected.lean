/-
What a failed authentication leaves behind. Up to its handshake a negotiation
changes nothing that is found in the caches, and the context of a handshake is
cached before its catalog is looked at (`pristine_negotiate`). A failed
authentication therefore leaves everything as it was exactly unless it failed
for the catalog of a context that its own handshake yielded
(`authenticate_untouched_iff`).
-/
import CloudSession.Proofs.Fleet.Basic

namespace CloudSession

open CloudSession.Action

namespace Client

variable {c : Client}

-- ==================================================================== caches

/-- What is found in the caches: what the shared store holds, or else what is
in memory. -/
theorem cached_eq (s : Scene) : (c.cached.outcome s).1 = match s.outside.store with
    | none => .ok (s.session.memory.get? c.key)
    | some shared => match shared.get c.key with
      | .ok (some x) => .ok (some x)
      | .ok none => .ok (s.session.memory.get? c.key)
      | .error fault => .error (.store fault) := by
  rw [cached, outcome_bind, outcome_storeGet]
  cases hstore : s.outside.store with
  | none => rfl
  | some shared => rcases hget : shared.get c.key with fault | _ | x <;> simp [hget] <;> rfl

/-- The shared store is the same, and the same is found in the caches. -/
structure SameCaches (c : Client) (s s' : Scene) : Prop where
  store : s'.outside.store = s.outside.store
  cached : (c.cached.outcome s').1 = (c.cached.outcome s).1

instance : IsPreorder Scene c.SameCaches where
  refl _ := ⟨rfl, rfl⟩
  trans _ _ _ hst htu := ⟨htu.store.trans hst.store, htu.cached.trans hst.cached⟩

theorem SameCaches.of_eq {s s' : Scene} (hstore : s'.outside.store = s.outside.store)
    (hmemory : s'.session.memory = s.session.memory) : c.SameCaches s s' := by
  refine ⟨hstore, ?_⟩
  rw [cached_eq, cached_eq, hstore, hmemory]

/-- A copy in memory of what the shared store holds makes no difference. -/
theorem same_cached : Steps c.SameCaches c.cached := by
  refine ⟨fun s => ?_⟩
  rw [cached, outcome_bind, outcome_storeGet]
  cases hstore : s.outside.store with
  | none => exact .of_eq rfl rfl
  | some shared =>
    rcases hget : shared.get c.key with fault | _ | x <;> simp only [hget]
    · exact .of_eq rfl rfl
    · exact .of_eq rfl rfl
    · -- The shared store still has the context, and it is asked first.
      refine ⟨rfl, ?_⟩
      rw [cached_eq, cached_eq, hstore]
      show (match s.outside.store with | none => _ | some shared => _) = _
      simp only [hstore, hget]

theorem same_cachedValid : Steps c.SameCaches c.cachedValid := by
  refine .bind same_cached fun found => ?_
  split
  · exact .pure _
  · refine .bind (.bind .now fun now => ?_) fun _ => .pure _
    split
    · exact .pure _
    · exact .throw _

-- =============================================================== negotiation

/-- The caches are as they were in an earlier scene, and no handshake in the
log has yielded a context. -/
structure Pristine (c : Client) (s s' : Scene) : Prop extends c.SameCaches s s' where
  granted : ∀ x, ¬c.Granted s'.outside.log x

variable {s₀ : Scene}

theorem pristine_local {α : Type} {a : Action α} (hlocal : Steps (KeepsSession Event.isLocal) a)
    (hsame : Steps c.SameCaches a) :
    Triple (c.Pristine s₀) a (fun _ => c.Pristine s₀) (c.Pristine s₀) := by
  refine (hlocal.triple (P := fun s => ∀ x, ¬c.Granted s.outside.log x) ?_).and (hsame.triple
    (P := c.SameCaches s₀) fun s s' h hs => IsTrans.trans s₀ s s' hs h) |>.conseq
      (fun _ hs => ⟨hs.granted, hs.toSameCaches⟩) (fun _ _ hs => ⟨hs.2, hs.1⟩)
      fun _ hs => ⟨hs.2, hs.1⟩
  intro s s' hkeeps hs x hsent
  obtain ⟨request, answer, hsent, hx⟩ := hsent
  obtain ⟨new, hnew, hall⟩ := hkeeps.log
  rw [hnew] at hsent
  cases List.mem_append.mp hsent with
  | inl hsent => exact hs x ⟨request, answer, hsent, hx⟩
  | inr hsent =>
    have := Event.not_isHandshake_of_isLocal (hall _ hsent)
    exact absurd this (by simp [Event.isHandshake])

/-- A handshake yields a context or leaves the caches as they were. -/
theorem pristine_handshake :
    Triple (c.Pristine s₀) c.handshake (fun x s => c.Granted s.outside.log x)
      (c.Pristine s₀) := by
  refine .bind (.attempt_same _) fun request => ?_
  refine .bind (.send (Q := fun answer s => c.SameCaches s₀ s ∧ ∃ log,
    s.outside.log = log ++ [.exchange .handshake request answer] ∧ ∀ x, ¬c.Granted log x) ?_)
    fun answer => ?_
  · intro s answer network hs _
    exact ⟨IsTrans.trans s₀ s _ hs.toSameCaches (.of_eq rfl rfl), s.outside.log, rfl, hs.granted⟩
  cases hconclude : Handshake.conclude c.identity answer with
  | ok context =>
    refine .pure ?_
    intro s hs
    obtain ⟨-, log, hlog, -⟩ := hs
    exact ⟨request, answer, by simp [hlog], hconclude⟩
  | error e =>
    refine .throw ?_
    intro s hsame
    obtain ⟨hsame, log, hlog, hnone⟩ := hsame
    refine ⟨hsame, ?_⟩
    intro x hsent
    obtain ⟨request', answer', hsent, hx⟩ := hsent
    rw [hlog] at hsent
    cases List.mem_append.mp hsent with
    | inl hsent => exact hnone x ⟨request', answer', hsent, hx⟩
    | inr hsent =>
      obtain ⟨-, -, rfl⟩ := Event.exchange.inj (List.mem_singleton.mp hsent)
      exact absurd (hconclude.symm.trans hx) (by simp)

/-- A context that a handshake yielded is in memory. -/
def Kept (c : Client) (x : Context) (s : Scene) : Prop :=
  c.Granted s.outside.log x ∧ s.session.memory.get? c.key = some x

theorem kept_renew :
    Triple (c.Pristine s₀) c.renew c.Kept (c.Pristine s₀) := by
  refine .bind pristine_handshake fun context => ?_
  refine .bind (.setSession (Q := fun _ => c.Kept context) fun s hs =>
    ⟨hs, MemoryStore.get?_put_self _ _ _⟩) fun _ => ?_
  refine .bind (.ignoringErrors (Q := fun _ => c.Kept context) ?_) fun _ => .pure fun _ hs => hs
  have hnoting : ∀ (s : Scene) (shared : Option SharedStore) (e : Event), c.Kept context s →
      c.Kept context { s with outside :=
        { s.outside with store := shared, log := s.outside.log ++ [e] } } := fun s _ e hs =>
    ⟨Granted.grows (Grows.noting (s := s) (t := s) e rfl rfl) hs.1, hs.2⟩
  exact .storeChange (fun _ hs _ => hs) (fun s _ _ hs _ _ => hnoting s _ _ hs)
    fun s _ _ hs _ _ => hnoting s _ _ hs

/-- What is negotiated was found in the caches, which are as they were, or has
been put there. A failed negotiation leaves them as they were. -/
theorem pristine_negotiate (force : Bool) :
    Triple (c.Pristine s₀) (c.negotiate force) (fun x s => c.Pristine s₀ s ∨ c.Kept x s)
      (c.Pristine s₀) := by
  have hrenew : Triple (c.Pristine s₀) c.renew (fun x s => c.Pristine s₀ s ∨ c.Kept x s)
      (c.Pristine s₀) := kept_renew.post fun _ _ hs => Or.inr hs
  unfold negotiate
  split
  · exact hrenew
  · refine .bind (pristine_local c.keeps_cachedValid same_cachedValid) fun found => ?_
    cases found with
    | some context => exact .pure fun _ hs => Or.inl hs
    | none => exact hrenew

-- ================================================================= rejection

/-- The client's catalog format cannot read the catalog of a context. -/
def Rejects (c : Client) (x : Context) : Prop :=
  ∃ e, Catalog.parse (Handshake.catalogFormat c.identity.protocol) x.catalog = .error e

/-- An authentication fails with the caches as they were, or for the catalog of
a context that it has put into memory. -/
theorem pristine_authenticate (force : Bool) :
    Triple (c.Pristine s₀) (c.authenticate force) (fun _ _ => True)
      (fun s => c.Pristine s₀ s ∨ ∃ x, c.Kept x s ∧ c.Rejects x) := by
  refine .bind ((pristine_negotiate force).conseq (fun _ hs => hs) (fun _ _ hs => hs)
    fun _ hs => Or.inl hs) fun context => ?_
  cases hparse : Catalog.parse (Handshake.catalogFormat c.identity.protocol) context.catalog with
  | ok catalog =>
    exact .bind (.pure (Q := fun _ _ => True) fun _ _ => trivial) fun _ =>
      .bind (.setSession (Q := fun _ _ => True) fun _ _ => trivial) fun _ =>
        .pure fun _ _ => trivial
  | error e =>
    refine .bind (.throw (α := Catalog) (Q := fun _ _ => True) ?_) fun _ => ?_
    · exact fun s hs => hs.imp_right fun hkept => ⟨context, hkept, e, hparse⟩
    · exact .bind (.setSession (Q := fun _ _ => True) fun _ _ => trivial) fun _ =>
        .pure fun _ _ => trivial

/-- A failed authentication does not touch the session but for its memory. -/
theorem keeps_failed_authenticate (force : Bool) :
    Triple (KeepsSession Event.isQuiet s₀) (c.authenticate force) (fun _ _ => True)
      (KeepsSession Event.isQuiet s₀) := by
  refine .bind ((c.keeps_negotiate force).triple fun s s' h hs => IsTrans.trans s₀ s s' hs h)
    fun context => .bind (.attempt_same _) fun catalog => ?_
  exact .bind (.setSession (Q := fun _ _ => True) fun _ _ => trivial) fun _ =>
    .pure fun _ _ => trivial

/-- A scene is as it was: the shared store, all of the session that requests are
made from, and what is found in the caches; and no context that a handshake has
yielded since is left in memory. -/
structure Untouched (c : Client) (before after : Scene) : Prop where
  store : after.outside.store = before.outside.store
  context : after.session.context = before.session.context
  catalog : after.session.catalog = before.session.catalog
  resolved : after.session.resolved = before.session.resolved
  connected : after.session.connected = before.session.connected
  revoked : after.session.forcedRevoked = before.session.forcedRevoked
  cached : (c.cached.outcome after).1 = (c.cached.outcome before).1
  kept : ∀ x, ¬c.Kept x after

/-- Everything is as it was unless the catalog of a granted context was
rejected. -/
theorem untouched_iff {force : Bool} {e : SessionError} {s : Scene}
    (hlog : s₀.outside.log = []) (hfailed : (c.authenticate force).outcome s₀ = (.error e, s)) :
    c.Untouched s₀ s ↔ ¬∃ x, c.Granted s.outside.log x ∧ c.Rejects x := by
  have hnone : ∀ x, ¬c.Granted s₀.outside.log x := by
    intro x hsent
    obtain ⟨request, answer, hsent, -⟩ := hsent
    rw [hlog] at hsent
    exact absurd hsent (by simp)
  have hkeeps := (keeps_failed_authenticate force).error (IsPreorder.toRefl.refl s₀) hfailed
  rcases (pristine_authenticate force).error ⟨.of_eq rfl rfl, hnone⟩ hfailed with
    hpristine | ⟨x, hkept, hrejects⟩
  · refine iff_of_true ⟨hpristine.store, hkeeps.context, hkeeps.catalog, hkeeps.resolved,
      hkeeps.connected, hkeeps.revoked, hpristine.cached,
      fun x hx => hpristine.granted x hx.1⟩ ?_
    intro hx
    obtain ⟨x, hx, -⟩ := hx
    exact hpristine.granted x hx
  · exact iff_of_false (fun huntouched => huntouched.kept x hkept)
      (not_not_intro ⟨x, hkept.1, hrejects⟩)

end Client

variable {ι : Type} {members : ι → Member}

/-- In whatever state a fleet is, an authentication that fails leaves everything
as it was exactly unless its own handshake yielded a context whose catalog is
rejected. -/
theorem authenticate_untouched_iff (f : Fleet ι) (who : ι) {force : Bool} {e : SessionError}
    {s : Scene}
    (hfailed : (f.turn members who (.authenticate force)).outcome members = (.error e, s)) :
    (members who).client.Untouched (f.scene members who) s ↔
      ¬∃ x, (members who).client.Granted s.outside.log x ∧ (members who).client.Rejects x := by
  have hrun : ((do return Yield.context (← (members who).client.authenticate force)) :
    Action Yield).outcome (f.scene members who) = (.error e, s) := hfailed
  rw [outcome_bind] at hrun
  rcases ho : ((members who).client.authenticate force).outcome (f.scene members who) with
    ⟨e' | x, s'⟩
  · rw [ho] at hrun
    obtain rfl : s' = s := (Prod.mk.inj hrun).2
    exact Client.untouched_iff rfl ho
  · rw [ho] at hrun
    exact absurd hrun (by simp)

/-- An authentication that fails because the shared store does. -/
theorem authenticate_untouched_store_down :
    ∃ e s, (((Sample.fleet []).after Sample.pair (.faults ⟨some "down", none, none⟩)).turn
        Sample.pair true (.authenticate false)).outcome Sample.pair = (.error e, s) ∧
      (Sample.pair true).client.Untouched
        (((Sample.fleet []).after Sample.pair (.faults ⟨some "down", none, none⟩)).scene
          Sample.pair true) s := by
  let f : Fleet Bool := (Sample.fleet []).after Sample.pair (.faults ⟨some "down", none, none⟩)
  let t := f.turn Sample.pair true (.authenticate false)
  have hrun : ((t.outcome Sample.pair).1.toOption.isNone &&
      (t.events Sample.pair).all (·.isLocal)) = true := by decide +kernel
  obtain ⟨hfails, hlocal⟩ := Bool.and_eq_true_iff.mp hrun
  rcases ho : t.outcome Sample.pair with ⟨e | y, s⟩
  · refine ⟨e, s, rfl, (authenticate_untouched_iff f true ho).mpr ?_⟩
    intro hsent
    obtain ⟨x, ⟨request, answer, hsent, -⟩, -⟩ := hsent
    rw [Turn.events, ho] at hlocal
    exact absurd (List.all_eq_true.mp hlocal _ hsent) (by simp [Event.isLocal, Event.isHandshake])
  · rw [ho] at hfails
    exact absurd hfails (by simp [Except.toOption])

namespace Sample

/-- Clients whose handshake is answered with a catalog that cannot be read. -/
def unreadable : Fleet Bool := fleet [grant "T" "2999-01-01T00:00:00Z" (.str "none")]

/-- The first authentication of one of them. -/
def rejected : Turn Bool := unreadable.turn pair true (.authenticate false)

/-- Its next one. -/
def rejectedAgain : Turn Bool :=
  (unreadable.after pair (.turn true (.authenticate false))).turn pair true (.authenticate false)

end Sample

/-- A catalog that cannot be read makes an authentication fail, but the context
is cached, and it makes the next authentication fail without a handshake. -/
theorem authenticate_keeps_rejected :
    Sample.unreadable.turns Sample.pair
        [.turn true (.authenticate false), .turn true (.authenticate false)]
        = [Sample.rejected, Sample.rejectedAgain] ∧
      (Sample.rejected.outcome Sample.pair).1.toOption.isNone = true ∧
      (((Sample.rejected.client Sample.pair).cached.outcome Sample.rejected.before).1.map
        (·.map Context.token)).toOption = some none ∧
      (((Sample.rejected.client Sample.pair).cached.outcome
        (Sample.rejected.outcome Sample.pair).2).1.map
          (·.map Context.token)).toOption = some (some "T") ∧
      ¬(Sample.rejected.client Sample.pair).Untouched Sample.rejected.before
        (Sample.rejected.outcome Sample.pair).2 ∧
      (Sample.rejectedAgain.outcome Sample.pair).1.toOption.isNone = true ∧
      (Sample.rejectedAgain.events Sample.pair).any (·.isHandshake) = false := by
  have hrun : ((Sample.rejected.outcome Sample.pair).1.toOption.isNone &&
      ((((Sample.rejected.client Sample.pair).cached.outcome Sample.rejected.before).1.map
        (·.map Context.token)).toOption == some none) &&
      ((((Sample.rejected.client Sample.pair).cached.outcome
        (Sample.rejected.outcome Sample.pair).2).1.map
          (·.map Context.token)).toOption == some (some "T")) &&
      (Sample.rejectedAgain.outcome Sample.pair).1.toOption.isNone &&
      !(Sample.rejectedAgain.events Sample.pair).any (·.isHandshake)) = true := by decide +kernel
  simp only [Bool.and_eq_true, beq_iff_eq, Bool.not_eq_true'] at hrun
  obtain ⟨⟨⟨⟨hfails, hbefore⟩, hafter⟩, hfailsAgain⟩, hnone⟩ := hrun
  refine ⟨rfl, hfails, hbefore, hafter, fun huntouched => ?_, hfailsAgain, hnone⟩
  rw [huntouched.cached, hbefore] at hafter
  exact absurd hafter (by simp)

end CloudSession
