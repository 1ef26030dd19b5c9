/-
What a failed negotiation leaves behind. Nothing is written or cleared in the
shared store before a handshake has succeeded, and after that nothing fails
(`refused_renew`). A forced negotiation that fails has therefore changed no
cache. One that is not forced has looked into the caches first, and may have
copied into memory what the shared store holds (`looked_cached`). As the shared
store is asked before the memory, the copy is not noticed (`Looked.cached_eq`).
-/
import CloudSession.Proofs.Fleet.Rejected

namespace CloudSession

open CloudSession.Action

-- ===================================================================== reads

/-- Whether an event is an attempt to write to the shared store or to clear a
key of it. -/
def Event.isChange : Event → Bool
  | .store .get _ _ => false
  | .store (.put _) _ _ => true
  | .store .clear _ _ => true
  | _ => false

/-- What the shared store answers when it is asked for a key, if there is one. -/
def Scene.answer? (s : Scene) (key : String) : Option (Except StoreFault (Option Context)) :=
  s.outside.store.map (·.get key)

/-- No write or clearing of the shared store is tried, and it stays as it is. -/
structure OnlyReads (s s' : Scene) : Prop extends Grows (!·.isChange) s s' where
  store : s'.outside.store = s.outside.store

instance : IsPreorder Scene OnlyReads where
  refl s := ⟨IsPreorder.toRefl.refl s, rfl⟩
  trans s t u hst htu :=
    ⟨IsTrans.trans s t u hst.toGrows htu.toGrows, htu.store.trans hst.store⟩

theorem OnlyReads.noting {s t : Scene} {e : Event} (he : e.isChange = false)
    (hlog : t.outside.log = s.outside.log) (hnow : t.outside.now = s.outside.now)
    (hstore : t.outside.store = s.outside.store) : OnlyReads s (t.noting e) :=
  ⟨.of_noting (by simp [he]) hlog hnow, hstore⟩

/-- The shared store is only read, and the memory stays as it is. -/
structure SparesMemory (s s' : Scene) : Prop extends OnlyReads s s' where
  memory : s'.session.memory = s.session.memory

instance : IsPreorder Scene SparesMemory where
  refl s := ⟨IsPreorder.toRefl.refl s, rfl⟩
  trans s t u hst htu :=
    ⟨IsTrans.trans s t u hst.toOnlyReads htu.toOnlyReads, htu.memory.trans hst.memory⟩

namespace Client

variable {c : Client} {s₀ : Scene}

theorem spares_isValid (x : Context) : Steps SparesMemory (c.isValid x) := steps_isValid x

theorem spares_handshake : Steps SparesMemory c.handshake :=
  .bind (.attempt _) fun _ => .bind ⟨fun _ => ⟨.noting rfl rfl rfl rfl, rfl⟩⟩ fun _ => .attempt _

/-- A renewal fails only in its handshake. -/
theorem refused_renew {P : Scene → Prop} (hP : ∀ s s', SparesMemory s s' → P s → P s') :
    Triple P c.renew (fun _ _ => True) P := by
  refine .bind (spares_handshake.triple hP) fun context => ?_
  refine .bind (.setSession (Q := fun _ _ => True) fun _ _ => trivial) fun _ => ?_
  refine .bind (.ignoringErrors (Q := fun _ _ => True) ?_) fun _ => .pure fun _ _ => trivial
  exact .storeChange (fun _ _ _ => trivial) (fun _ _ _ _ _ _ => trivial) fun _ _ _ _ _ _ => trivial

-- ==================================================================== a look

/-- The shared store has only been read, and the memory has changed at most by
keeping what the shared store holds for the client. -/
structure Looked (c : Client) (before after : Scene) : Prop
    extends OnlyReads before after where
  memory : after.session.memory = before.session.memory ∨
    ∃ x, before.answer? c.key = some (.ok (some x)) ∧
      after.session.memory = before.session.memory.put c.key x

namespace Looked

theorem of_spares {s : Scene} (h : SparesMemory s₀ s) : c.Looked s₀ s :=
  ⟨h.toOnlyReads, .inl h.memory⟩

theorem spares {s s' : Scene} (hspares : SparesMemory s s') (h : c.Looked s₀ s) :
    c.Looked s₀ s' := by
  refine ⟨IsTrans.trans s₀ s s' h.toOnlyReads hspares.toOnlyReads, ?_⟩
  rw [hspares.memory]
  exact h.memory

/-- Whenever the memory is as it was left and the shared store answers as it did
before, the same is found in the caches. -/
theorem cached_eq {s later : Scene} (h : c.Looked s₀ s)
    (hmemory : later.session.memory = s.session.memory)
    (hanswer : later.answer? c.key = s₀.answer? c.key) :
    (c.cached.outcome later).1 = (c.cached.outcome s₀).1 := by
  have hfound : ∀ s : Scene, (c.cached.outcome s).1 = match s.answer? c.key with
      | none => .ok (s.session.memory.get? c.key)
      | some (.ok (some x)) => .ok (some x)
      | some (.ok none) => .ok (s.session.memory.get? c.key)
      | some (.error fault) => .error (.store fault) := by
    intro s
    rw [Client.cached_eq, Scene.answer?]
    cases s.outside.store with
    | none => rfl
    | some shared => rcases hget : shared.get c.key with fault | _ | x <;> simp [hget]
  rw [hfound, hfound, hanswer]
  cases h.memory with
  | inl hsame => rw [hmemory, hsame]
  | inr hcopied =>
    obtain ⟨x, hx, -⟩ := hcopied
    rw [hx]

end Looked

theorem looked_cached : Triple (· = s₀) c.cached (fun _ => c.Looked s₀) (c.Looked s₀) := by
  have hread : ∀ s ok, s = s₀ → SparesMemory s₀ (s.noting (.store .get c.key ok)) := by
    intro s ok heq
    subst heq
    exact ⟨.noting rfl rfl rfl rfl, rfl⟩
  refine .bind (.storeGet (Q := fun found s => SparesMemory s₀ s ∧
    ∀ x, found = some x → s₀.answer? c.key = some (.ok (some x))) ?_ ?_ ?_) fun found => ?_
  · intro s heq _
    subst heq
    exact ⟨IsPreorder.toRefl.refl s, fun x hx => nomatch hx⟩
  · intro s shared found heq hstore hget
    refine ⟨hread s true heq, fun x hx => ?_⟩
    rw [Scene.answer?, ← heq, hstore, Option.map_some, hget, hx]
  · exact fun s _ _ heq _ _ => .of_spares (hread s false heq)
  cases found with
  | some x =>
    refine .bind (.setSession (Q := fun _ => c.Looked s₀) fun s hs => ?_) fun _ =>
      .pure fun _ hs => hs
    obtain ⟨hspares, hx⟩ := hs
    have hkept : OnlyReads s₀ (s.withSession fun session =>
        { session with memory := session.memory.put c.key x }) :=
      IsTrans.trans s₀ s _ hspares.toOnlyReads ⟨.of_log_eq rfl rfl, rfl⟩
    exact ⟨hkept, .inr ⟨x, hx x rfl, congrArg (·.put c.key x) hspares.memory⟩⟩
  | none => exact .bind .session_same fun _ => .pure fun _ hs => .of_spares hs.1

theorem looked_cachedValid :
    Triple (· = s₀) c.cachedValid (fun _ => c.Looked s₀) (c.Looked s₀) := by
  refine .bind looked_cached fun found => ?_
  split
  · exact .pure fun _ hs => hs
  · refine .bind ((spares_isValid _).triple fun s s' h hs => hs.spares h) fun _ =>
      .pure fun _ hs => hs

-- ================================================================== refusals

/-- What a negotiation leaves that fails: the shared store has only been read,
and with force the memory is as it was. -/
structure Refused (c : Client) (force : Bool) (before after : Scene) : Prop
    extends c.Looked before after where
  forced : force = true → after.session.memory = before.session.memory
  cached : ∀ later : Scene, later.session.memory = after.session.memory →
    later.answer? c.key = before.answer? c.key →
    (c.cached.outcome later).1 = (c.cached.outcome before).1

/-- In whatever state a client is, and whatever the shared store and the network
answer, a negotiation that fails has changed nothing that matters. -/
theorem negotiate_refused {force : Bool} {e : SessionError} {s : Scene}
    (hfailed : (c.negotiate force).outcome s₀ = (.error e, s)) : c.Refused force s₀ s := by
  cases force with
  | true =>
    have hspares : SparesMemory s₀ s :=
      (refused_renew (c := c) fun t t' h ht => IsTrans.trans s₀ t t' ht h).error
        (IsPreorder.toRefl.refl s₀) hfailed
    have hlooked : c.Looked s₀ s := .of_spares hspares
    exact ⟨hlooked, fun _ => hspares.memory, fun _ => hlooked.cached_eq⟩
  | false =>
    have hlooked : Triple (· = s₀) (c.negotiate false) (fun _ _ => True) (c.Looked s₀) := by
      refine .bind looked_cachedValid fun found => ?_
      cases found with
      | some x => exact .pure fun _ _ => trivial
      | none => exact refused_renew fun _ _ h hs => hs.spares h
    have hlooked := hlooked.error rfl hfailed
    exact ⟨hlooked, (nomatch ·), fun _ => hlooked.cached_eq⟩

end Client

namespace Sample

/-- Clients one of which has left an expired context in the store, and whose next
handshake is refused. -/
def expired : Fleet Bool :=
  (fleet [grant "OLD" "2001-01-01T00:00:00Z" (.arr []), status 401]).after pair
    (.turn false (.negotiate false))

end Sample

/-- The other client finds the expired context, and is left with a copy of it. -/
theorem negotiate_refused_expired :
    ∃ e s, ((Sample.pair true).client.negotiate false).outcome
        (Sample.expired.scene Sample.pair true) = (.error e, s) ∧
      (Sample.pair true).client.Refused false (Sample.expired.scene Sample.pair true) s ∧
      (Sample.expired.scene Sample.pair true).session.memory.isEmpty = true ∧
      (s.session.memory.get? (Sample.pair true).client.key).map Context.token = some "OLD" := by
  let before := Sample.expired.scene Sample.pair true
  let o := ((Sample.pair true).client.negotiate false).outcome before
  have hrun : (o.1.toOption.isNone && before.session.memory.isEmpty &&
      ((o.2.session.memory.get? (Sample.pair true).client.key).map Context.token
        == some "OLD")) = true := by decide +kernel
  simp only [Bool.and_eq_true, beq_iff_eq] at hrun
  obtain ⟨⟨hfails, hempty⟩, hcopied⟩ := hrun
  rcases ho : o with ⟨e | x, s⟩
  · rw [ho] at hcopied
    exact ⟨e, s, ho, Client.negotiate_refused ho, hempty, hcopied⟩
  · rw [ho] at hfails
    exact absurd hfails (by simp [Except.toOption])

end CloudSession
