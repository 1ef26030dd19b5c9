/-
A client with a forced token. It gets no session of its own, so it looks at no
cache, and all that it does outside is to open connections and to send requests
to the service (`Forced`). This ends with a rejection that is to revoke the
token, and with nothing else (`forced_call`).
-/
import CloudSession.Proofs.Session.Linked

namespace CloudSession.Client

open CloudSession.Action

/-- There has been neither a handshake nor a call of the shared store, and both
caches are as they were. -/
structure Alone (s₀ s : Scene) : Prop where
  log : ∀ e ∈ s.outside.log, e.isNegotiation = false
  memory : s.session.memory = s₀.session.memory
  store : s.outside.store = s₀.outside.store

/-- A token is forced, it is all that was used, and no rejection has come that
was to revoke it. -/
structure Forced (c : Client) (token : String) (s₀ s : Scene) : Prop extends Alone s₀ s where
  token : c.forcedToken? s.session = some token
  accepted : c.evictsForced = true → ∀ e ∈ s.outside.log, e.isRejection = false

/-- A forced token is all that was used, and it has been revoked if a rejection
has come that was to do so. -/
structure Answered (c : Client) (s₀ s : Scene) : Prop extends Alone s₀ s where
  revoked : s.session.forcedRevoked = true ↔
    c.evictsForced = true ∧ ∃ e ∈ s.outside.log, e.isRejection = true

/-- The last that was done was done with a forced token. -/
def Did (c : Client) (token : String) (s₀ : Scene) (e : Event) (s : Scene) : Prop :=
  ∃ before, c.Forced token s₀ before ∧ s.session = before.session ∧
    s.outside.store = before.outside.store ∧ s.outside.log = before.outside.log ++ [e]

variable {c : Client} {token : String} {s₀ : Scene}

/-- A token that is forced has not been revoked. -/
theorem not_revoked_of_forced {session : Session} (h : c.forcedToken? session = some token) :
    session.forcedRevoked = false := by
  unfold forcedToken? at h
  split at h
  · exact absurd h (by simp)
  · next hrevoked => exact Bool.eq_false_iff.mpr hrevoked

theorem Forced.answered {s : Scene} (h : c.Forced token s₀ s) : c.Answered s₀ s := by
  refine ⟨h.toAlone, iff_of_false (by simp [not_revoked_of_forced h.token]) ?_⟩
  intro hrejected
  obtain ⟨hevicts, e, he, hrejection⟩ := hrejected
  exact absurd hrejection (by simp [h.accepted hevicts e he])

theorem Forced.withSession {s : Scene} {f : Session → Session} (h : c.Forced token s₀ s)
    (hmemory : (f s.session).memory = s.session.memory)
    (hrevoked : (f s.session).forcedRevoked = s.session.forcedRevoked) :
    c.Forced token s₀ (s.withSession f) := by
  refine ⟨⟨h.log, hmemory.trans h.memory, h.store⟩, ?_, h.accepted⟩
  have htoken := h.token
  unfold forcedToken? at htoken ⊢
  rwa [← hrevoked] at htoken

theorem Forced.did {s : Scene} (h : c.Forced token s₀ s) (network : Network) (e : Event) :
    c.Did token s₀ e ((s.withNetwork network).noting e) :=
  ⟨s, h, rfl, rfl, rfl⟩

theorem Did.alone {s : Scene} {e : Event} (h : c.Did token s₀ e s)
    (he : e.isNegotiation = false) : Alone s₀ s := by
  obtain ⟨before, hbefore, hsession, hstore, hlog⟩ := h
  refine ⟨fun d hd => ?_, hsession ▸ hbefore.memory, hstore.trans hbefore.store⟩
  rw [hlog] at hd
  rcases List.mem_append.mp hd with hd | hd
  · exact hbefore.log d hd
  · exact List.mem_singleton.mp hd ▸ he

/-- The token is forced still if this was no rejection. -/
theorem Did.forced {s : Scene} {e : Event} (h : c.Did token s₀ e s)
    (he : e.isNegotiation = false) (haccepted : e.isRejection = false) :
    c.Forced token s₀ s := by
  have halone := h.alone he
  obtain ⟨before, hbefore, hsession, -, hlog⟩ := h
  refine ⟨halone, hsession ▸ hbefore.token, fun hevicts d hd => ?_⟩
  rw [hlog] at hd
  rcases List.mem_append.mp hd with hd | hd
  · exact hbefore.accepted hevicts d hd
  · exact List.mem_singleton.mp hd ▸ haccepted

-- ================================================================== sessions

/-- The session with a forced token is that token and nothing else. -/
theorem forced_active {E : Scene → Prop} :
    Triple (c.Forced token s₀) c.active
      (fun a s => c.Forced token s₀ s ∧ a = ⟨.ofToken token, true⟩) E := by
  refine .of_outcome fun s hs => ?_
  rw [outcome_active_forced hs.token]
  exact ⟨hs, rfl⟩

theorem upkeep_forced : c.Upkeep (c.Forced token s₀) :=
  .of_active (forced_active.post fun _ _ hs => hs.1) fun _ _ hs => hs.withSession rfl rfl

-- ================================================================== requests

theorem forced_connect (connection : Connection) :
    Triple (c.Forced token s₀) (connect connection) (fun _ => c.Forced token s₀)
      (c.Forced token s₀) := by
  refine .bind .session_same fun session => ?_
  split
  · exact .pure fun _ hs => hs
  · refine .bind (.openConnection (Q := fun _ => c.Forced token s₀) ?_ ?_) fun _ =>
      .setSession fun _ hs => hs.withSession rfl rfl
    · exact fun s network hs => (hs.did network (.connect connection none)).forced rfl rfl
    · exact fun s network message hs =>
        (hs.did network (.connect connection (some message))).forced rfl rfl

/-- A rejection revokes the token if that is its client's setting. -/
theorem answered_onUnauthorized {request : Request} {response : Response}
    (hstatus : response.status = 401) {E : Scene → Prop} :
    Triple (c.Did token s₀ (.exchange .service request (.ok response))) (c.onUnauthorized true)
      (fun _ => c.Answered s₀) E := by
  unfold onUnauthorized
  rw [if_neg (by simp)]
  split
  · next hevicts =>
    refine .setSession fun s hs => ?_
    have halone := hs.alone rfl
    obtain ⟨before, -, -, -, hlog⟩ := hs
    refine ⟨⟨halone.log, halone.memory, halone.store⟩, iff_of_true rfl ⟨hevicts, ?_⟩⟩
    refine ⟨.exchange .service request (.ok response), ?_, by
      simpa [Event.isRejection] using hstatus⟩
    exact hlog ▸ List.mem_append_right _ (List.mem_singleton_self _)
  · next hkeeps =>
    refine .pure fun s hs => ⟨hs.alone rfl, iff_of_false ?_ fun h => hkeeps h.1⟩
    obtain ⟨before, hbefore, hsession, -⟩ := hs
    rw [hsession, not_revoked_of_forced hbefore.token]
    simp

theorem forced_settle (request : Request) (response : Response) :
    Triple (c.Did token s₀ (.exchange .service request (.ok response))) (c.settle true response)
      (fun _ => c.Forced token s₀) (c.Answered s₀) := by
  have hforced : response.status ≠ 401 → ∀ s : Scene,
      c.Did token s₀ (.exchange .service request (.ok response)) s → c.Forced token s₀ s :=
    fun hstatus _ hs => hs.forced rfl (by simpa [Event.isRejection] using hstatus)
  unfold settle
  split
  · next hsuccess =>
    refine .pure (hforced fun hstatus => ?_)
    simp [Response.isSuccess, hstatus] at hsuccess
  · split
    · next hstatus =>
      exact .bind (answered_onUnauthorized (by simpa using hstatus)) fun _ => .throw fun _ hs => hs
    · next hstatus => exact .throw fun s hs => (hforced (by simpa using hstatus) s hs).answered

/-- A call with a forced token touches no cache, and only a rejection can put
an end to the token. -/
theorem forced_call (action : String) (method : Method) (headers : Headers)
    (body : Option ByteArray) :
    Triple (c.Forced token s₀) (c.call action method headers body)
      (fun _ => c.Forced token s₀) (c.Answered s₀) := by
  have hends : ∀ {α : Type} {a : Action α} {Q : α → Scene → Prop},
      Triple (c.Forced token s₀) a Q (c.Forced token s₀) →
      Triple (c.Forced token s₀) a Q (c.Answered s₀) :=
    fun h => h.fail fun _ hs => hs.answered
  refine .bind (hends forced_active) fun current => ?_
  by_cases hcurrent : current.forced = true
  · refine .bind ((hends upkeep_forced.resolve).pre fun _ hs => hs.1) fun connection => ?_
    refine .bind (hends (forced_connect connection)) fun _ => ?_
    refine .bind (.send (Q := fun answer => c.Did token s₀ (.exchange .service _ answer))
      fun s answer network hs _ => hs.did network _) fun answer => ?_
    cases answer with
    | error message => exact .throw fun s hs => (hs.forced rfl rfl).answered
    | ok response =>
      rw [hcurrent]
      exact forced_settle _ response
  · exact .vacuous fun _ hs => hcurrent (by simp [hs.2])

end CloudSession.Client
