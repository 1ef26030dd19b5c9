/-
What becomes of a rejected token. Whatever a client on a session of its own is
asked to do either takes nothing from the caches or ends with a rejection and
the session gone (`spared_run`). Once a rejected session is gone, and the shared
store has let go of it, the client has no copy left (`evicted_run`), and no step
of any other client brings one back to it: a context that the client uses later
comes from a handshake since then (`evicted_token_not_used`).
-/
import CloudSession.Proofs.Fleet.Provenance
import CloudSession.Proofs.Session.Spared

namespace CloudSession

open CloudSession.Action

-- ================================================================ operations

section Operations

variable {c : Client} {operation : Operation}

/-- What is about the caches and does not clear them is quiet. -/
theorem isQuiet_of_isNegotiation (h : operation.isNegotiation = true)
    (hoperation : operation ≠ .clearCached) : operation.isQuiet = true := by
  cases operation with
  | clearCached => exact absurd rfl hoperation
  | authenticate _ | negotiate _ | cached => rfl
  | _ => exact absurd h (by simp [Operation.isNegotiation])

/-- What is about the caches and does not clear them only puts contexts there. -/
theorem keepsKeys_negotiation {p : String → Prop} (h : operation.isNegotiation = true)
    (hoperation : operation ≠ .clearCached) : Steps (KeepsKeys p) (operation.run c) := by
  cases operation with
  | authenticate force => exact .bind (Client.keepsKeys_authenticate force) fun _ => .pure _
  | negotiate force => exact .bind (Client.keepsKeys_negotiate force) fun _ => .pure _
  | cached => exact .bind Client.keepsKeys_cached fun _ => .pure _
  | clearCached => exact absurd rfl hoperation
  | _ => exact absurd h (by simp [Operation.isNegotiation])

/-- Whatever a client with a session of its own is asked to do, except to clear
the caches, takes nothing from them unless the client is rejected. -/
theorem spared_run {s₀ : Scene} (hoperation : operation ≠ .clearCached) :
    Triple (c.Spared s₀) (operation.run c) (fun _ s => c.Spared s₀ s ∨ c.Cleared s₀ s)
      (fun s => c.Spared s₀ s ∨ c.Cleared s₀ s) := by
  refine Operation.triple_run Client.upkeep_spared (fun _ hs => .inl hs)
    (fun action method body => Client.spared_call action method _ body) fun hnegotiation => ?_
  have hquiet := Operation.quiet_run c (isQuiet_of_isNegotiation hnegotiation hoperation)
  exact (Client.spared_quiet hquiet (keepsKeys_negotiation hnegotiation hoperation)).conseq
    (fun _ hs => hs) (fun _ _ hs => .inl hs) fun _ hs => .inl hs

/-- Clearing the caches does not get a client rejected. -/
theorem evicted_clearCached_run :
    Triple c.Unrejected (Operation.run c .clearCached) (fun _ => c.EvictedIfRejected)
      c.EvictedIfRejected := by
  have hnone : ∀ s s', c.Unrejected s → Grows (!·.isRequest) s s' → c.EvictedIfRejected s' := by
    intro s s' hs hgrows he
    obtain ⟨e, he, hrejection⟩ := he
    obtain ⟨new, hnew, hall⟩ := hgrows.log
    rw [hnew] at he
    cases List.mem_append.mp he with
    | inl he => exact absurd hrejection (by simp [(hs.log e he).1])
    | inr he =>
        have hservice : e.isService = false := by
          simpa using Event.not_isService_of_not_isRequest e (hall e he)
        exact absurd hrejection (by simp [Event.isRejection_of_not_isService hservice])
  refine .bind (Q := fun _ => c.EvictedIfRejected) ⟨fun hs ho => ?_, fun hs ho => ?_⟩
    fun _ => .pure fun _ hs => hs
  · exact hnone _ _ hs (c.grows_clearCached.of_outcome ho)
  · exact hnone _ _ hs (c.grows_clearCached.of_outcome ho)

/-- Whatever a client is asked to do, a rejection evicts it. -/
theorem evicted_run (operation : Operation) :
    Triple c.Unrejected (operation.run c) (fun _ => c.EvictedIfRejected)
      c.EvictedIfRejected := by
  by_cases hoperation : operation = .clearCached
  · rw [hoperation]
    exact evicted_clearCached_run
  · have hends : ∀ s₀ s, c.Spared s₀ s ∨ c.Cleared s₀ s → c.EvictedIfRejected s :=
      fun _ _ hs => hs.elim (·.unrejected.evicted) fun hcleared _ => hcleared.toEvicted
    refine (Triple.of_exists fun s₀ => (spared_run hoperation).conseq (fun _ hs => hs)
      (fun _ => hends s₀) (hends s₀)).pre fun s hs => ?_
    exact ⟨s, hs, refl s⟩

/-- Whatever a client is asked to do, a revoked token stays revoked. -/
theorem revoked_run (operation : Operation) :
    Steps Client.StaysRevoked (operation.run c) := by
  by_cases hoperation : operation = .clearCached
  · rw [hoperation]
    exact .bind Client.revoked_clearCached fun _ => .pure _
  · refine ⟨fun s => (Operation.triple_run (.of_quiet fun _ _ => Client.Quiet.staysRevoked)
      (fun _ hs => hs) (fun action method body =>
        (Client.revoked_call action method _ body).triple fun _ _ h => h)
      fun hnegotiation => ?_).leaves⟩
    have hquiet := Operation.quiet_run c (isQuiet_of_isNegotiation hnegotiation hoperation)
    exact hquiet.triple fun _ _ => Client.Quiet.staysRevoked

/-- A context that a client without a forced token gives out is one that it
can use. -/
theorem usable_run {past : String → Context → Prop} {own : Prop} (operation : Operation) :
    Triple (fun s => c.Traced past own s ∧ c.forcedToken? s.session = none) (operation.run c)
      (fun y s => ∀ x, y = .context x → own → c.Usable past s x) (fun _ => True) := by
  have hother : ∀ {α : Type} {a : Action α} (f : α → Yield), (∀ v x, f v ≠ .context x) →
      Triple (fun s => c.Traced past own s ∧ c.forcedToken? s.session = none)
        (do return f (← a)) (fun y s => ∀ x, y = .context x → own → c.Usable past s x)
        (fun _ => True) :=
    fun f hf => .bind (Q := fun _ _ => True) ⟨fun _ _ => trivial, fun _ _ => trivial⟩
      fun v => .pure fun _ _ x hx => absurd hx (hf v x)
  have huse : ∀ {a : Action Context}, Triple (c.Traced past own) a
      (fun x s => c.Traced past own s ∧ (own → c.Usable past s x)) (c.Traced past own) →
      Triple (fun s => c.Traced past own s ∧ c.forcedToken? s.session = none)
        (do return Yield.context (← a)) (fun y s => ∀ x, y = .context x → own → c.Usable past s x)
        (fun _ => True) := by
    refine fun h => .bind (h.conseq (fun _ hs => hs.1) (fun _ _ hs => hs) fun _ _ => trivial)
      fun x => .pure ?_
    intro s hs _ heq
    obtain ⟨rfl⟩ := heq
    exact hs.2
  cases operation with
  | authenticate force => exact huse (Client.traced_authenticate force)
  | negotiate force => exact huse (Client.traced_negotiate force)
  | ensureSession =>
      have htraced : Triple (c.Traced past own) c.active
          (fun a s => c.Traced past own s ∧ c.Ready past own s a) (c.Traced past own) :=
        Client.traced_active
      have hactive := htraced.frame c.quiet_active
        (F := fun s => c.forcedToken? s.session = none)
        fun s s' h hs => (Client.forcedToken?_quiet h).trans hs
      refine .bind (Q := fun x s => own → c.Usable past s x) (.bind (hactive.conseq
        (fun _ hs => hs) (fun _ _ hs => hs) fun _ _ => trivial) fun a => .pure ?_)
        fun x => .pure ?_
      · intro s hs
        obtain ⟨⟨-, hready⟩, hunforced⟩ := hs
        unfold Client.Ready at hready
        rw [hunforced] at hready
        exact hready.2
      · intro s hs _ heq
        obtain ⟨rfl⟩ := heq
        exact hs
  | invalidate => exact hother (a := Client.invalidate) (fun _ => .done) (by simp)
  | clearCached => exact hother (a := c.clearCached) (fun _ => .done) (by simp)
  | _ => exact hother _ (by simp)

end Operations

-- ==================================================================== fleets

variable {ι : Type} [DecidableEq ι] {members : ι → Member}

/-- A turn does not force a token on anyone. -/
theorem unforced_after_turn {f : Fleet ι} {who : ι}
    (h : (members who).client.forcedToken? (f.sessions who) = none) (other : ι)
    (operation : Operation) :
    (members who).client.forcedToken?
      ((f.after members (.turn other operation)).sessions who) = none := by
  by_cases hother : who = other
  · subst hother
    have hsteps := (revoked_run (c := (members who).client) operation).step (f.scene members who)
    simp only [Fleet.after, Fleet.absorb, if_true]
    exact Client.unforced_stays hsteps h
  · simpa only [Fleet.after, Fleet.absorb, if_neg hother] using h

/-- Once no token of a client is forced, none is in its later turns. -/
theorem unforced_split {f : Fleet ι} {who : ι}
    (h : (members who).client.forcedToken? (f.sessions who) = none) {steps : List (Step ι)}
    {earlier later : List (Turn ι)} {t : Turn ι}
    (hturns : f.turns members steps = earlier ++ t :: later) (hwho : t.who = who) :
    t.forced? members = none := by
  obtain ⟨g, -, hunforced, ht, -⟩ := Fleet.turns_split
    (I := fun _ f => (members who).client.forcedToken? (f.sessions who) = none)
    (fun _ _ other operation hf => unforced_after_turn hf other operation)
    (fun _ _ _ hsessions _ hf => hsessions ▸ hf) h hturns
  subst hwho
  rw [ht]
  exact hunforced

/-- A client that was rejected has no context left within its reach. -/
theorem accountable_evicted {g : Fleet ι} {who : ι} {operation : Operation}
    (hforced : (g.turn members who operation).forced? members = none)
    (hrejected : ∃ e ∈ (g.turn members who operation).events members, e.isRejection = true)
    (hcleared : (members who).sharesStore = false ∨
      .store .clear (members who).client.key true ∈
        (g.turn members who operation).events members) :
    Accountable members (fun key _ => key ≠ (members who).client.key)
      ((members who).sharesStore = true) (· = who)
      (g.after members (.turn who operation)) := by
  have hevicted : (members who).client.Evicted
      ((g.turn members who operation).outcome members).2 :=
    (evicted_run operation).leaves (s := g.scene members who) ⟨hforced, by simp [Fleet.scene]⟩
      hrejected
  refine ⟨fun hshares key x hx => ?_, ?_, ?_⟩
  · refine ⟨x, .refl x, ?_⟩
    intro heq
    subst heq
    have hclear := hcleared.resolve_left (by simp [hshares])
    obtain ⟨shared, hshared, hnone⟩ := hevicted.store hclear
    simp only [Fleet.after, Fleet.absorb, hshared, Option.getD_some] at hx
    exact absurd (hnone.symm.trans hx) (by simp)
  · intro _ heq x hx
    subst heq
    simp only [Fleet.after, Fleet.absorb, if_true] at hx
    exact absurd (hevicted.memory.symm.trans hx) (by simp)
  · intro _ heq x hx
    subst heq
    simp only [Fleet.after, Fleet.absorb, if_true] at hx
    exact absurd (hevicted.context.symm.trans hx) (by simp)

/-- A turn in which a client's own session is answered 401, with the shared
store cleared if the client uses it, ends the use of every token that the
client had. In each later turn of the client, whatever the clients have done
in between, a token that it sends to the service as its own, or gives out with
a context, is one that a handshake under the client's key has yielded since
then. -/
theorem evicted_token_not_used {start : Fleet ι} {steps : List (Step ι)}
    {earlier between later : List (Turn ι)} {evicting t : Turn ι}
    (hturns : start.turns members steps = earlier ++ evicting :: (between ++ t :: later))
    (hwho : t.who = evicting.who) (hforced : evicting.forced? members = none)
    (hrejected : ∃ e ∈ evicting.events members, e.isRejection = true)
    (hcleared : (members evicting.who).sharesStore = false ∨
      .store .clear (evicting.client members).key true ∈ evicting.events members) :
    (∀ before r answer after token,
      t.events members = before ++ .exchange .service r answer :: after →
      t.operation.callerHeaders.contains (t.client members).identity.protocol.tokenHeader = false →
      r.headers.get? (t.client members).identity.protocol.tokenHeader = some token →
      ∃ x, x.token = token ∧ (GrantedIn members between (t.client members).key x ∨
        (t.client members).Granted before x)) ∧
    ∀ x, (t.outcome members).1 = .ok (.context x) →
      ∃ y, y.token = x.token ∧ (GrantedIn members between (t.client members).key y ∨
        (t.client members).Granted (t.events members) y) := by
  obtain ⟨g, rest, -, hevicting, hrest⟩ := Fleet.turns_split
    (I := fun _ _ => True) (fun _ _ _ _ h => h) (fun _ _ _ _ _ h => h) trivial hturns
  rw [hevicting] at hforced hrejected hcleared
  have hforcedLater := unforced_split
    (unforced_after_turn hforced evicting.who evicting.operation) hrest.symm hwho
  obtain ⟨g', ht, haccountable⟩ := accountable_split
    (accountable_evicted hforced hrejected hcleared) (by rintro _ rfl h; exact h) hrest.symm
  have hshares : (members t.who).sharesStore = true →
      (members evicting.who).sharesStore = true := by
    rw [hwho]
    exact id
  have hsince : ∀ {log : List Event} {x : Context},
      ((t.client members).key ≠ (members evicting.who).client.key ∨
        GrantedIn members between (t.client members).key x) ∨
      (t.client members).Granted log x →
      GrantedIn members between (t.client members).key x ∨
        (t.client members).Granted log x :=
    fun h => h.imp_left (·.resolve_left fun hne => hne (by rw [Turn.client, hwho]))
  constructor
  · intro before r answer after token hsent hcaller htoken
    obtain ⟨-, hvouching⟩ := haccountable.accounted t.who hshares t.operation
    rw [← ht] at hvouching
    have hrequest := hvouching.requests before r answer after hsent
    rw [hforcedLater] at hrequest
    obtain ⟨x, hsource, -, hcarries⟩ := hrequest hwho
    refine ⟨x, ?_, hsince hsource⟩
    exact Option.some.inj ((hcarries hcaller).symm.trans htoken)
  · intro x hx
    have hscene : t.before = g'.scene members t.who := by rw [ht]; rfl
    have htraced := haccountable.traced hshares
    rw [← hscene] at htraced
    rcases ho : t.outcome members with ⟨result, s'⟩
    rw [ho] at hx
    have hx : result = .ok (.context x) := hx
    subst hx
    obtain ⟨y, hcopy, hsource, -⟩ :=
      (usable_run t.operation).ok ⟨htraced, hforcedLater⟩ ho x rfl hwho
    refine ⟨y, hcopy.token, ?_⟩
    rw [Turn.events, ho]
    exact hsince hsource

/-- A client whose token is rejected goes on with that of another client's
handshake. -/
theorem evicted_token_not_used_by_either :
    ∃ (evicting other t : Turn Bool) (x : Context),
      (Sample.fleet [Sample.grant "T" "2999-01-01T00:00:00Z" (.arr []), Sample.status 401,
        Sample.grant "U" "2999-01-01T00:00:00Z" (.arr []), Sample.status 200,
        Sample.status 200]).turns Sample.pair
          [.turn true Sample.call, .turn false Sample.call, .turn true Sample.call]
        = [evicting, other, t] ∧
      (∃ e ∈ evicting.events Sample.pair, e.isRejection = true) ∧
      .store .clear (evicting.client Sample.pair).key true ∈ evicting.events Sample.pair ∧
      x.token = "U" ∧ ∃ log, GrantedIn Sample.pair [other] (t.client Sample.pair).key x ∨
        (t.client Sample.pair).Granted log x := by
  let start : Fleet Bool := Sample.fleet
    [Sample.grant "T" "2999-01-01T00:00:00Z" (.arr []), Sample.status 401,
      Sample.grant "U" "2999-01-01T00:00:00Z" (.arr []), Sample.status 200, Sample.status 200]
  let next := start.after Sample.pair (.turn true Sample.call)
  let evicting := start.turn Sample.pair true Sample.call
  let other := next.turn Sample.pair false Sample.call
  let t := (next.after Sample.pair (.turn false Sample.call)).turn Sample.pair true Sample.call
  have hrun : ((evicting.events Sample.pair).any (·.isRejection) &&
      (evicting.events Sample.pair).any (·.clears (evicting.client Sample.pair).key) &&
      (t.events Sample.pair).any
        (·.serves fun r => r.headers.get? "X-Auth-Token" == some "U")) = true := by
    decide +kernel
  simp only [Bool.and_eq_true] at hrun
  obtain ⟨⟨hrejected, hclear⟩, hserves⟩ := hrun
  have hrejected := List.any_eq_true.mp hrejected
  have hclear := Event.mem_of_clears hclear
  obtain ⟨before, r, answer, after, hsent, htoken⟩ := Event.exists_serving hserves
  obtain ⟨hrequests, -⟩ := evicted_token_not_used (t := t)
    (show start.turns Sample.pair
      [.turn true Sample.call, .turn false Sample.call, .turn true Sample.call]
        = [] ++ evicting :: ([other] ++ t :: []) from rfl)
    rfl rfl hrejected (Or.inr hclear)
  obtain ⟨x, hx, hgranted⟩ :=
    hrequests before r answer after "U" hsent (by decide) (beq_iff_eq.mp htoken)
  exact ⟨evicting, other, t, x, rfl, hrejected, hclear, hx, before, hgranted⟩

end CloudSession
