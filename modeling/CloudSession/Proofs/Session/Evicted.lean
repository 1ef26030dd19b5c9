/-
What a rejection is to leave behind. A client whose own session is answered 401
should have nothing of it left, neither installed nor in memory nor, if the
clearing succeeded, in the shared store (`EvictedIfRejected`). Up to its first
rejection it works on sessions of its own (`unrejected_active`). A forced token
that has been revoked stays so (`revoked_call`).
-/
import CloudSession.Proofs.Session.Vouched

namespace CloudSession

open CloudSession.Action

/-- Whether an event is a request to the service that was answered 401. -/
def Event.isRejection : Event → Bool
  | .exchange .service _ (.ok r) => r.status == 401
  | _ => false

theorem Event.isRejection_of_not_isService {e : Event} (h : e.isService = false) :
    e.isRejection = false := by
  unfold Event.isRejection
  split
  · exact absurd h (by simp [Event.isService])
  · rfl

namespace Client

-- ================================================================ revocation

/-- A forced token that was revoked stays revoked. -/
def StaysRevoked (s s' : Scene) : Prop :=
  s.session.forcedRevoked = true → s'.session.forcedRevoked = true

instance : IsPreorder Scene StaysRevoked where
  refl _ h := h
  trans _ _ _ hst htu h := htu (hst h)

theorem Quiet.staysRevoked {s s' : Scene} (h : Quiet s s') : StaysRevoked s s' :=
  fun hs => h.revoked.trans hs

variable {c : Client}

/-- Once no token is forced, none will be. -/
theorem unforced_stays {s s' : Scene} (h : StaysRevoked s s')
    (hs : c.forcedToken? s.session = none) : c.forcedToken? s'.session = none := by
  unfold forcedToken? at *
  split at hs
  · next hrevoked => rw [if_pos (h hrevoked)]
  · split
    · rfl
    · exact hs

theorem revoked_storeChange (call : StoreCall) (key : String)
    (change : SharedStore → Except StoreFault SharedStore) :
    Steps StaysRevoked (storeChange call key change) := by
  refine ⟨fun s => ?_⟩
  rw [outcome_storeChange]
  split
  · exact fun h => h
  · split <;> exact fun h => h

theorem revoked_clearCached : Steps StaysRevoked c.clearCached :=
  .bind (.setSession fun _ h => h) fun _ => revoked_storeChange _ _ _

theorem revoked_settle (forced : Bool) (r : Response) :
    Steps StaysRevoked (c.settle forced r) := by
  have hunauthorized : Steps StaysRevoked (c.onUnauthorized forced) := by
    unfold onUnauthorized
    split
    · exact .bind (.setSession fun _ h => h) fun _ => .ignoringErrors revoked_clearCached
    · split
      · exact .setSession fun _ _ => rfl
      · exact .pure _
  unfold settle
  split
  · exact .pure _
  · split
    · exact .bind hunauthorized fun _ => .throw _
    · exact .throw _

theorem revoked_call (action : String) (method : Method) (headers : Headers)
    (body : Option ByteArray) : Steps StaysRevoked (c.call action method headers body) := by
  have hquiet : ∀ {α : Type} {a : Action α}, Steps Quiet a → Steps StaysRevoked a :=
    fun h => h.mono fun _ _ => Quiet.staysRevoked
  refine .bind (hquiet c.quiet_active) fun active => ?_
  refine .bind (hquiet c.quiet_resolve) fun connection => ?_
  refine .bind (hquiet (quiet_connect connection)) fun _ => .bind ⟨fun s h => h⟩ fun answer => ?_
  split
  · exact .throw _
  · exact revoked_settle _ _

-- =================================================================== eviction

/-- Nothing is left of the client's session, and nothing in the shared store
if its clearing is in the log. -/
structure Evicted (c : Client) (s : Scene) : Prop where
  context : s.session.context = none
  memory : s.session.memory.get? c.key = none
  store : .store .clear c.key true ∈ s.outside.log →
    ∃ shared, s.outside.store = some shared ∧ shared.store.get c.key = .ok none

/-- A client without a forced token that has neither been rejected nor has
cleared anything. -/
structure Unrejected (c : Client) (s : Scene) : Prop where
  unforced : c.forcedToken? s.session = none
  log : ∀ e ∈ s.outside.log, e.isRejection = false ∧ e.isClear = false

/-- A client that has been rejected has been evicted. -/
def EvictedIfRejected (c : Client) (s : Scene) : Prop :=
  (∃ e ∈ s.outside.log, e.isRejection = true) → c.Evicted s

theorem Unrejected.evicted {s : Scene} (h : c.Unrejected s) : c.EvictedIfRejected s := by
  intro he
  obtain ⟨e, he, hrejection⟩ := he
  exact absurd hrejection (by simp [(h.log e he).1])

theorem Unrejected.quiet {s s' : Scene} (hquiet : Quiet s s') (h : c.Unrejected s) :
    c.Unrejected s' := by
  refine ⟨(forcedToken?_quiet hquiet).trans h.unforced, fun e he => ?_⟩
  obtain ⟨new, hnew, hall⟩ := hquiet.log
  rw [hnew] at he
  cases List.mem_append.mp he with
  | inl he => exact h.log e he
  | inr he =>
    exact ⟨Event.isRejection_of_not_isService (Event.not_isService_of_isQuiet (hall e he)),
      Event.not_isClear_of_isQuiet (hall e he)⟩

/-- Every context may have been yielded by some handshake before. -/
theorem traced_anything (s : Scene) : c.Traced (fun _ _ => True) True s where
  store _ _ _ x _ := ⟨x, .refl x, Or.inl trivial⟩
  memory _ x _ := ⟨x, .refl x, Or.inl trivial⟩
  context _ x _ := ⟨x, .refl x, Or.inl trivial⟩

/-- A client without a forced token sends requests with its own session. -/
theorem unrejected_active :
    Triple c.Unrejected c.active (fun a s => c.Unrejected s ∧ a.forced = false)
      c.Unrejected := by
  refine (traced_active.frame c.quiet_active fun s s' h hs => Unrejected.quiet h hs).conseq
    (fun s hs => ⟨traced_anything s, hs⟩) (fun a s hs => ⟨hs.2, ?_⟩) fun s hs => hs.2
  have hready := hs.1.2
  unfold Ready at hready
  rw [hs.2.unforced] at hready
  exact hready.1

/-- A quiet action of a client that has not been rejected. -/
theorem unrejected_quiet {α : Type} {a : Action α} (h : Steps Quiet a) :
    Triple c.Unrejected a (fun _ => c.Unrejected) c.Unrejected :=
  h.triple fun _ _ hquiet hs => hs.quiet hquiet

end Client
end CloudSession
