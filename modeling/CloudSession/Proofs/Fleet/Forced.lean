/-
A client with a forced token and a base URL in a fleet. Until a rejection that
is to revoke the token, the client uses it alone (`UsesForced`), and afterwards
never again (`GoesWithout`). All the time its requests go to the origin of the
base URL (`forced_token_until_rejected`).
-/
import CloudSession.Proofs.Fleet.Eviction
import CloudSession.Proofs.Fleet.Origin
import CloudSession.Proofs.Session.Forced

namespace CloudSession

open CloudSession.Action

-- ================================================================ operations

/-- Whatever a client with a forced token is asked to do, except to negotiate,
it does with the token alone, and only a rejection can revoke that. -/
theorem forced_run {c : Client} {token : String} {s₀ : Scene} {operation : Operation}
    (hoperation : operation.isNegotiation = false) :
    Triple (c.Forced token s₀) (operation.run c) (fun _ => c.Answered s₀) (c.Answered s₀) :=
  Operation.triple_run Client.upkeep_forced (fun _ hs => hs.answered)
    (fun action method body => Client.forced_call action method _ body)
    fun hnegotiation => absurd (hoperation.symm.trans hnegotiation) (by simp)

theorem forced_ensureSession {c : Client} {token : String} {s : Scene}
    (h : c.forcedToken? s.session = some token) :
    ((Operation.ensureSession.run c).outcome s).1 = .ok (.context (.ofToken token)) := by
  rw [Operation.run, outcome_bind, Client.ensureSession, outcome_bind,
    Client.outcome_active_forced h]
  rfl

-- ===================================================================== turns

variable {ι : Type} (members : ι → Member)

/-- In this turn the client uses its forced token alone. -/
structure Turn.UsesForced (t : Turn ι) (token : String) : Prop where
  alone : Client.Alone t.before (t.outcome members).2
  requests : ∀ r answer, .exchange .service r answer ∈ t.events members →
    (t.client members).Carries t.operation.callerHeaders r token
  session : t.operation = .ensureSession →
    (t.outcome members).1 = .ok (.context (.ofToken token))

/-- The context was found in the shared store by a client that uses it, or a
handshake yielded it, of an earlier turn or of one in the log. -/
def Supplied (start : Fleet ι) (earlier : List (Turn ι)) (who : ι) (log : List Event)
    (x : Context) : Prop :=
  ((members who).sharesStore = true ∧
      start.store.store.get (members who).client.key = .ok (some x) ∨
    GrantedIn members earlier (members who).client.key x) ∨
  (members who).client.Granted log x

/-- In this turn no token is forced. What the client sends and gives out are the
tokens of contexts that it was supplied with. -/
structure Turn.GoesWithout (start : Fleet ι) (earlier : List (Turn ι)) (t : Turn ι) :
    Prop where
  unforced : t.forced? members = none
  requests : ∀ before r answer after,
    t.events members = before ++ .exchange .service r answer :: after →
    ∃ x, Supplied members start earlier t.who before x ∧
      (t.client members).Carries t.operation.callerHeaders r x.token
  contexts : ∀ x, (t.outcome members).1 = .ok (.context x) →
    ∃ y, Context.SameToken y x ∧ Supplied members start earlier t.who (t.events members) y

variable {members} {t : Turn ι} {token : String}

/-- A turn that begins with a forced token uses it alone. -/
theorem usesForced_of_forced (hlog : t.before.outside.log = [])
    (hforced : t.forced? members = some token) (hoperation : t.operation.isNegotiation = false) :
    t.UsesForced members token := by
  refine ⟨?_, fun r answer hsent => ?_, fun hensure => ?_⟩
  · refine ((forced_run hoperation).leaves
      (s := t.before) ⟨⟨by simp [hlog], rfl, rfl⟩, hforced, by simp [hlog]⟩).toAlone
  · have hsound : (t.client members).Sound (fun _ _ => True) True (some token)
        t.before.outside.now t.operation.callerHeaders t.before :=
      ⟨Client.traced_anything _, Client.vouching_of_empty hlog rfl, hforced⟩
    obtain ⟨before, after, hsplit⟩ := List.append_of_mem hsent
    exact ((accounted_run t.operation).leaves hsound).2.requests before r answer after hsplit
  · rw [Turn.outcome, hensure]
    exact forced_ensureSession hforced

/-- A client that began with nothing has what it was supplied with and nothing
else. -/
theorem accountable_start {start : Fleet ι} {who : ι} (hstart : start.sessions who = .initial) :
    Accountable members (fun key x => (members who).sharesStore = true ∧
        start.store.store.get key = .ok (some x))
      ((members who).sharesStore = true) (· = who) start where
  store hshares _ x hx := ⟨x, .refl x, hshares, hx⟩
  memory := by
    intro _ heq x hx
    subst heq
    rw [hstart] at hx
    exact absurd hx (by simp [Session.initial, MemoryStore.empty, MemoryStore.get?])
  context := by
    intro _ heq x hx
    subst heq
    rw [hstart] at hx
    exact absurd hx (by simp [Session.initial])

variable [DecidableEq ι]

-- ====================================================================== runs

/-- The forced token of a client that began with nothing has been revoked if a
rejection has come that was to do so. -/
theorem revoked_split {start : Fleet ι} {steps : List (Step ι)} {earlier later : List (Turn ι)}
    (hstart : start.sessions t.who = .initial)
    (htoken : (t.client members).selector.token = some token)
    (hturns : start.turns members steps = earlier ++ t :: later)
    (hearlier : ∀ u ∈ earlier, u.who = t.who → u.operation.isNegotiation = false) :
    (t.before.session.forcedRevoked = true ↔ (t.client members).evictsForced = true ∧
      ∃ e ∈ Fleet.history members earlier t.who, e.isRejection = true) ∧
    t.before.outside.log = [] := by
  refine Fleet.own_split (A := fun operation _ => operation.isNegotiation = false)
    (P := fun past session => session.forcedRevoked = true ↔
      (t.client members).evictsForced = true ∧ ∃ e ∈ past, e.isRejection = true)
    (fun past operation s hoperation hlog hs => ?_) ?_ hturns rfl hearlier
  · cases hrevoked : s.session.forcedRevoked with
    | true =>
      obtain ⟨hevicts, e, he, hrejection⟩ := hs.mp hrevoked
      exact iff_of_true ((revoked_run operation).step s hrevoked)
        ⟨hevicts, e, List.mem_append_left _ he, hrejection⟩
    | false =>
      have hforced : (t.client members).forcedToken? s.session = some token := by
        simpa [Client.forcedToken?, hrevoked] using htoken
      have hnone : ¬((t.client members).evictsForced = true ∧
          ∃ e ∈ past, e.isRejection = true) := fun h => by simp [hs.mpr h] at hrevoked
      have hanswered := (forced_run hoperation).leaves
        (s := s) ⟨⟨by simp [hlog], rfl, rfl⟩, hforced, by simp [hlog]⟩
      refine hanswered.revoked.trans (and_congr_right fun hevicts => ?_)
      simp only [List.mem_append, or_and_right, exists_or]
      exact (or_iff_right fun h => hnone ⟨hevicts, h⟩).symm
  · rw [hstart]
    simp [Session.initial]

/-- A turn without a forced token uses what the client was supplied with. -/
theorem goesWithout_of_unforced {start : Fleet ι} {steps : List (Step ι)}
    {earlier later : List (Turn ι)} (hstart : start.sessions t.who = .initial)
    (hturns : start.turns members steps = earlier ++ t :: later)
    (hunforced : t.forced? members = none) : t.GoesWithout members start earlier := by
  obtain ⟨g, ht, haccountable⟩ := accountable_split (accountable_start hstart)
    (by rintro _ rfl h; exact h) hturns
  refine ⟨hunforced, fun before r answer after hsent => ?_, fun x hx => ?_⟩
  · obtain ⟨-, hvouching⟩ := haccountable.accounted t.who id t.operation
    rw [← ht] at hvouching
    have hrequest := hvouching.requests before r answer after hsent
    rw [hunforced] at hrequest
    obtain ⟨y, hsource, -, hcarries⟩ := hrequest rfl
    exact ⟨y, hsource, hcarries⟩
  · have hscene : t.before = g.scene members t.who := by rw [ht]; rfl
    have htraced := haccountable.traced fun hshares : (members t.who).sharesStore = true => hshares
    rw [← hscene] at htraced
    rcases ho : t.outcome members with ⟨result, s'⟩
    rw [ho] at hx
    have hx : result = .ok (.context x) := hx
    subst hx
    obtain ⟨y, hcopy, hsource, -⟩ :=
      (usable_run t.operation).ok ⟨htraced, hunforced⟩ ho x rfl rfl
    refine ⟨y, hcopy, ?_⟩
    rw [Turn.events, ho]
    exact hsource

/-- A client that began with nothing, with a forced token and a base URL, that is
never asked to negotiate. All its requests go to the origin of the base URL.
Until the client has been rejected and its setting is to let go of the token
then, it uses the token alone, also in the turn of that rejection. From then on
no token is forced, and what it sends and gives out are tokens of contexts that
were stored or that handshakes have yielded. -/
theorem forced_token_until_rejected {start : Fleet ι} {steps : List (Step ι)}
    {earlier later : List (Turn ι)} {url : String} (hstart : start.sessions t.who = .initial)
    (htoken : (t.client members).selector.token = some token)
    (hurl : (t.client members).selector.baseUrl = some url)
    (hturns : start.turns members steps = earlier ++ t :: later)
    (hearlier : ∀ u ∈ earlier, u.who = t.who → u.operation.isNegotiation = false)
    (hoperation : t.operation.isNegotiation = false) :
    (∀ r answer, .exchange .service r answer ∈ t.events members → ∃ connection rest,
      Connection.ofUrl url = .ok connection ∧ r.url = connection.origin ++ rest ∧
      Url.IsBehindOrigin rest) ∧
    (¬((t.client members).evictsForced = true ∧
        ∃ e ∈ Fleet.history members earlier t.who, e.isRejection = true) →
      t.UsesForced members token) ∧
    ((t.client members).evictsForced = true →
      (∃ e ∈ Fleet.history members earlier t.who, e.isRejection = true) →
      t.GoesWithout members start earlier) := by
  obtain ⟨hrevoked, hlog⟩ := revoked_split hstart htoken hturns hearlier
  refine ⟨fun r answer hsent => ?_, fun hkept => ?_, fun hevicts hrejected => ?_⟩
  · obtain ⟨before, after, hsplit⟩ := List.append_of_mem hsent
    obtain ⟨last, endpoint, rest, -, ⟨hleads, -⟩, hsame, hrest, hbehind⟩ :=
      (linked_split hstart hturns).admitted before _ after hsplit
    refine ⟨endpoint, rest, hleads.ofUrl hurl, ?_, hbehind⟩
    rw [hrest, Connection.origin_eq_of_sameConnection hsame]
  · refine usesForced_of_forced hlog ?_ hoperation
    have hnot : t.before.session.forcedRevoked = false :=
      Bool.eq_false_iff.mpr fun h => hkept (hrevoked.mp h)
    simpa [Turn.forced?, Client.forcedToken?, hnot] using htoken
  · refine goesWithout_of_unforced hstart hturns ?_
    simp [Turn.forced?, Client.forcedToken?, hrevoked.mpr ⟨hevicts, hrejected⟩]

namespace Sample

/-- A client that lets go of its forced token when that is rejected. -/
def holder (_ : Unit) : Member where
  client := { client (some "https://api.example.com") with
    selector := { Selector.none with
      baseUrl := some "https://api.example.com", token := some "F" }
    evictsForced := true }
  sharesStore := true

/-- It is rejected once. -/
def outdated : Fleet Unit :=
  fleet [status 401, grant "T" "2999-01-01T00:00:00Z" (.arr []), status 200]

/-- The call that is rejected. -/
def refused : Turn Unit := outdated.turn holder () call

/-- The call after it. -/
def renewed : Turn Unit := (outdated.after holder (.turn () call)).turn holder () call

end Sample

/-- A client that goes on with a handshake when its forced token is rejected. -/
theorem forced_token_until_rejected_once :
    Sample.outdated.turns Sample.holder [.turn () Sample.call, .turn () Sample.call]
        = [Sample.refused, Sample.renewed] ∧
      Sample.refused.UsesForced Sample.holder "F" ∧
      (Sample.refused.events Sample.holder).any (·.isRejection) = true ∧
      Sample.renewed.GoesWithout Sample.holder Sample.outdated [Sample.refused] ∧
      (Sample.renewed.events Sample.holder).any
        (·.serves fun r => r.headers.get? "X-Auth-Token" == some "T") = true := by
  have hrun : ((Sample.refused.events Sample.holder).any (·.isRejection) &&
      (Sample.renewed.events Sample.holder).any
        (·.serves fun r => r.headers.get? "X-Auth-Token" == some "T")) = true := by
    decide +kernel
  obtain ⟨hrejected, hserves⟩ := Bool.and_eq_true_iff.mp hrun
  have hturns : Sample.outdated.turns Sample.holder [.turn () Sample.call, .turn () Sample.call]
      = [Sample.refused, Sample.renewed] := rfl
  obtain ⟨-, huses, -⟩ := forced_token_until_rejected (t := Sample.refused)
    ((Sample.fleet_initial _).sessions ()) rfl rfl (hturns.trans (List.nil_append _).symm)
    (by simp) rfl
  obtain ⟨-, -, hwithout⟩ := forced_token_until_rejected (t := Sample.renewed)
    ((Sample.fleet_initial _).sessions ()) rfl rfl
    (hturns.trans (List.singleton_append (l := [Sample.renewed])).symm)
    (by intro u hu _; rw [List.mem_singleton.mp hu]; rfl) rfl
  refine ⟨hturns, huses ?_, hrejected, hwithout rfl ?_, hserves⟩
  · simp [Fleet.history]
  · simpa [Fleet.history] using List.any_eq_true.mp hrejected

end CloudSession
