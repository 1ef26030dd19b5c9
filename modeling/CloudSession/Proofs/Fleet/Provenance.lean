/-
Where the tokens of a fleet come from. In every run the contexts that are
stored, remembered or installed are copies of contexts that handshakes of
earlier turns yielded under the same key (`accountable_split`), so the token
of a request to the service is one of those, and it is valid unless it has
just been granted (`service_token_granted`).
-/
import CloudSession.Proofs.Fleet.Basic

namespace CloudSession

open CloudSession.Action

-- ================================================================ operations

section Operations

variable {c : Client} {past : String → Context → Prop} {own : Prop} {forced : Option String}
  {now : Instant} {caller : Headers}

/-- What is quiet and keeps track of the contexts is accounted for. -/
theorem accounted_of_traced {α : Type} {a : Action α} {Q : α → Scene → Prop}
    (h : Triple (c.Traced past own) a (fun x s => c.Traced past own s ∧ Q x s)
      (c.Traced past own)) (hquiet : Steps Quiet a) :
    Triple (c.Sound past own forced now caller) a
      (fun _ => c.Accounted past own forced now caller)
      (c.Accounted past own forced now caller) :=
  (Client.sound_of_traced h hquiet (F := fun _ => True) fun _ _ _ h => h).conseq
    (fun _ hs => ⟨hs, trivial⟩) (fun _ _ hs => hs.1.accounted) fun _ hs => hs

/-- Whatever a client is asked to do, its contexts and requests can be
accounted for. -/
theorem accounted_run (operation : Operation) :
    Triple (c.Sound past own forced now operation.callerHeaders) (operation.run c)
      (fun _ => c.Accounted past own forced now operation.callerHeaders)
      (c.Accounted past own forced now operation.callerHeaders) := by
  refine Operation.triple_run Client.upkeep_sound (fun _ hs => hs.accounted)
    (fun action method body => Client.sound_call action method body) fun hnegotiation => ?_
  cases operation with
  | authenticate force =>
      exact (accounted_of_traced (Client.traced_authenticate force)
        (c.quiet_authenticate force)).returning (fun _ hs => hs) _
  | negotiate force =>
      exact (accounted_of_traced (Client.traced_negotiate force)
        (c.keeps_negotiate force).quiet).returning (fun _ hs => hs) _
  | cached =>
      exact (accounted_of_traced Client.traced_cached c.keeps_cached.ofLocal.quiet).returning
        (fun _ hs => hs) _
  | clearCached =>
      refine .bind (Q := fun _ => c.Accounted past own forced now .empty) ?_
        fun _ => .pure fun _ hs => hs
      exact (Client.traced_clearCached.frame c.grows_clearCached
        fun _ _ => Client.Vouching.unsent).pre fun _ hs => hs.accounted
  | _ => exact absurd hnegotiation (by simp [Operation.isNegotiation])

end Operations

-- ==================================================================== fleets

variable {ι : Type} (members : ι → Member)

/-- Some turn's handshake yielded the context under the key. -/
def GrantedIn (turns : List (Turn ι)) (key : String) (x : Context) : Prop :=
  ∃ t ∈ turns, (t.client members).key = key ∧ (t.client members).Granted (t.events members) x

/-- The contexts in the store, if it is looked at, and in the sessions that
are looked at are copies of ones that are known to have been yielded. -/
structure Accountable (past : String → Context → Prop) (shared : Prop) (own : ι → Prop)
    (f : Fleet ι) : Prop where
  store : shared → ∀ key x, f.store.store.get key = .ok (some x) →
    ∃ y, Context.SameToken y x ∧ past key y
  memory : ∀ who, own who → ∀ x,
    (f.sessions who).memory.get? (members who).client.key = some x →
      ∃ y, Context.SameToken y x ∧ past (members who).client.key y
  context : ∀ who, own who → ∀ x, (f.sessions who).context = some x →
    ∃ y, Context.SameToken y x ∧ past (members who).client.key y

variable {members} {past past' : String → Context → Prop} {shared : Prop} {own : ι → Prop}

theorem Accountable.mono {f : Fleet ι} (h : Accountable members past shared own f)
    (hpast : ∀ key x, past key x → past' key x) : Accountable members past' shared own f where
  store hs key x hx := by
    obtain ⟨y, hcopy, hy⟩ := h.store hs key x hx
    exact ⟨y, hcopy, hpast _ _ hy⟩
  memory who hown x hx := by
    obtain ⟨y, hcopy, hy⟩ := h.memory who hown x hx
    exact ⟨y, hcopy, hpast _ _ hy⟩
  context who hown x hx := by
    obtain ⟨y, hcopy, hy⟩ := h.context who hown x hx
    exact ⟨y, hcopy, hpast _ _ hy⟩

/-- Nothing but the sessions and the stored contexts has to be accounted for. -/
theorem Accountable.of_same {f g : Fleet ι} (h : Accountable members past shared own f)
    (hsessions : g.sessions = f.sessions) (hstore : g.store.store = f.store.store) :
    Accountable members past shared own g where
  store hs key x hx := h.store hs key x (hstore ▸ hx)
  memory who hown x hx := h.memory who hown x (hsessions ▸ hx)
  context who hown x hx := h.context who hown x (hsessions ▸ hx)

/-- A client finds contexts that can be accounted for. -/
theorem Accountable.traced {f : Fleet ι} (h : Accountable members past shared own f) {who : ι}
    (hshares : (members who).sharesStore = true → shared) :
    (members who).client.Traced past (own who) (f.scene members who) where
  store found hfound key x hx := by
    have hfound : (if (members who).sharesStore then some f.store else none) = some found := hfound
    split at hfound
    · next hsharing =>
      obtain rfl := Option.some.inj hfound
      obtain ⟨y, hcopy, hy⟩ := h.store (hshares hsharing) key x hx
      exact ⟨y, hcopy, Or.inl hy⟩
    · exact absurd hfound (by simp)
  memory hown x hx := by
    obtain ⟨y, hcopy, hy⟩ := h.memory who hown x hx
    exact ⟨y, hcopy, Or.inl hy⟩
  context hown x hx := by
    obtain ⟨y, hcopy, hy⟩ := h.context who hown x hx
    exact ⟨y, hcopy, Or.inl hy⟩

/-- Nothing has to be accounted for when nothing has been done. -/
theorem accountable_initial {f : Fleet ι} (h : f.Initial) :
    Accountable members (fun _ _ => False) True (fun _ => True) f where
  store _ key x hx := absurd hx (h.store key x)
  memory who _ x hx := by
    rw [h.sessions who] at hx
    exact absurd hx (by simp [Session.initial, MemoryStore.empty, MemoryStore.get?])
  context who _ x hx := by
    rw [h.sessions who] at hx
    exact absurd hx (by simp [Session.initial])

/-- What a turn leaves behind can be accounted for, and so can its requests. -/
theorem Accountable.accounted {f : Fleet ι} (h : Accountable members past shared own f) (who : ι)
    (hshares : (members who).sharesStore = true → shared) (operation : Operation) :
    (members who).client.Accounted past (own who)
      ((f.turn members who operation).forced? members) f.now operation.callerHeaders
      ((f.turn members who operation).outcome members).2 :=
  (accounted_run operation).leaves
    ⟨h.traced hshares, Client.vouching_of_empty rfl rfl, rfl⟩

variable [DecidableEq ι]

/-- After a turn the contexts that it was granted are accounted for as well. -/
theorem Accountable.after_turn {f : Fleet ι} (h : Accountable members past shared own f)
    (hshares : ∀ who, own who → (members who).sharesStore = true → shared) (who : ι)
    (operation : Operation) :
    Accountable members
      (fun key x => past key x ∨ GrantedIn members [f.turn members who operation] key x)
      shared own (f.after members (.turn who operation)) := by
  have hmono : Accountable members
      (fun key x => past key x ∨ GrantedIn members [f.turn members who operation] key x)
      shared own f := h.mono fun _ _ hx => Or.inl hx
  -- A client whose own session is not looked at can only matter to the store.
  by_cases hwho : (members who).sharesStore = true → shared
  · obtain ⟨htraced, -⟩ := h.accounted who hwho operation
    have hsource : ∀ key x, (members who).client.Sourced past
        ((f.turn members who operation).outcome members).2.outside.log key x →
        ∃ y, Context.SameToken y x ∧
          (past key y ∨ GrantedIn members [f.turn members who operation] key y) := by
      intro key x hcopy
      obtain ⟨y, hcopy, hy | ⟨rfl, hy⟩⟩ := hcopy
      · exact ⟨y, hcopy, Or.inl hy⟩
      · exact ⟨y, hcopy, Or.inr ⟨_, List.mem_singleton_self _, rfl, hy⟩⟩
    refine ⟨fun hs key x hx => ?_, fun other hown x hx => ?_, fun other hown x hx => ?_⟩
    · cases hstore : ((f.turn members who operation).outcome members).2.outside.store with
      | none =>
        refine hmono.store hs key x ?_
        simpa only [Fleet.after, Fleet.absorb, hstore, Option.getD_none] using hx
      | some found =>
        refine hsource key x (htraced.store found hstore key x ?_)
        simpa only [Fleet.after, Fleet.absorb, hstore, Option.getD_some] using hx
    · by_cases hother : other = who
      · subst hother
        refine hsource _ x (htraced.memory hown x ?_)
        simpa only [Fleet.after, Fleet.absorb, if_true] using hx
      · refine hmono.memory other hown x ?_
        simpa only [Fleet.after, Fleet.absorb, if_neg hother] using hx
    · by_cases hother : other = who
      · subst hother
        refine hsource _ x (htraced.context hown x ?_)
        simpa only [Fleet.after, Fleet.absorb, if_true] using hx
      · refine hmono.context other hown x ?_
        simpa only [Fleet.after, Fleet.absorb, if_neg hother] using hx
  · have hother : ∀ other, own other → other ≠ who := by
      intro other hown heq
      subst heq
      exact hwho (hshares other hown)
    refine ⟨fun hs => absurd (fun _ => hs) hwho, fun other hown x hx => ?_,
      fun other hown x hx => ?_⟩
    · refine hmono.memory other hown x ?_
      simpa only [Fleet.after, Fleet.absorb, if_neg (hother other hown)] using hx
    · refine hmono.context other hown x ?_
      simpa only [Fleet.after, Fleet.absorb, if_neg (hother other hown)] using hx

/-- At each turn of a run the contexts come from what was known before the
run and from the handshakes of the turns before. -/
theorem accountable_split {f : Fleet ι} (h : Accountable members past shared own f)
    (hshares : ∀ who, own who → (members who).sharesStore = true → shared)
    {steps : List (Step ι)} {earlier later : List (Turn ι)} {t : Turn ι}
    (hturns : f.turns members steps = earlier ++ t :: later) :
    ∃ g : Fleet ι, t = g.turn members t.who t.operation ∧
      Accountable members (fun key x => past key x ∨ GrantedIn members earlier key x)
        shared own g := by
  have hturn : ∀ taken f who operation,
      Accountable members (fun key x => past key x ∨ GrantedIn members taken key x) shared own f →
      Accountable members (fun key x => past key x ∨
        GrantedIn members (taken ++ [f.turn members who operation]) key x) shared own
        (f.after members (.turn who operation)) := by
    refine fun taken f who operation hf => (hf.after_turn hshares who operation).mono ?_
    intro key x hx
    rcases hx with (hx | ⟨t, ht, hgrant⟩) | ⟨t, ht, hgrant⟩
    · exact Or.inl hx
    · exact Or.inr ⟨t, List.mem_append_left _ ht, hgrant⟩
    · exact Or.inr ⟨t, List.mem_append_right _ ht, hgrant⟩
  obtain ⟨g, -, haccountable, ht, -⟩ := Fleet.turns_split hturn
    (fun _ _ _ hsessions hstore hf => hf.of_same hsessions hstore)
    (h.mono fun _ _ hx => Or.inl hx) hturns
  exact ⟨g, ht, haccountable⟩

-- =================================================================== the token

/-- Clients that begin with nothing take turns in any order. Unless a token is
forced, a request to the service carries the token of a context that a
handshake under the client's key yielded, in an earlier turn of any client or
in this turn before the request; and the context is valid at the time, or that
handshake was the request's own. -/
theorem service_token_granted {start : Fleet ι} (hstart : start.Initial) {steps : List (Step ι)}
    {earlier later : List (Turn ι)} {t : Turn ι}
    (hturns : start.turns members steps = earlier ++ t :: later)
    (hforced : t.forced? members = none) {before after : List Event} {r : Request}
    {answer : Answer}
    (hsent : t.events members = before ++ .exchange .service r answer :: after) :
    ∃ x, (GrantedIn members earlier (t.client members).key x ∨
        (t.client members).Granted before x) ∧
      (x.isValid t.before.outside.now (t.client members).skew = some true ∨
        (t.client members).JustGranted before x) ∧
      (t.client members).Carries t.operation.callerHeaders r x.token := by
  obtain ⟨g, hg, haccountable⟩ :=
    accountable_split (accountable_initial hstart) (fun _ _ _ => trivial) hturns
  obtain ⟨-, hvouching⟩ := haccountable.accounted t.who (fun _ => trivial) t.operation
  rw [← hg] at hvouching
  have hrequest := hvouching.requests before r answer after hsent
  rw [hforced] at hrequest
  obtain ⟨x, hsource, huse, hcarries⟩ := hrequest trivial
  have hnow : t.before.outside.now = g.now := by rw [hg]; rfl
  rw [← hnow] at huse
  exact ⟨x, hsource.imp_left fun h => h.resolve_left id, huse, hcarries⟩

/-- A call of a second client that finds the context of a first one's
handshake in the store. -/
theorem service_token_granted_second :
    ∃ (earlier : List (Turn Bool)) (t : Turn Bool) (before : List Event) (r : Request)
      (answer : Answer) (after : List Event) (x : Context),
      (Sample.fleet [Sample.grant "T" "2999-01-01T00:00:00Z" (.arr []), Sample.status 200,
        Sample.status 200]).turns Sample.pair [.turn true Sample.call, .turn false Sample.call]
          = earlier ++ [t] ∧
      t.events Sample.pair = before ++ .exchange .service r answer :: after ∧
      r.headers.get? "X-Auth-Token" = some "T" ∧
      (t.events Sample.pair).any (·.isHandshake) = false ∧
      (GrantedIn Sample.pair earlier (t.client Sample.pair).key x ∨
        (t.client Sample.pair).Granted before x) ∧
      (x.isValid t.before.outside.now (t.client Sample.pair).skew = some true ∨
        (t.client Sample.pair).JustGranted before x) ∧
      (t.client Sample.pair).Carries t.operation.callerHeaders r x.token := by
  let start : Fleet Bool := Sample.fleet
    [Sample.grant "T" "2999-01-01T00:00:00Z" (.arr []), Sample.status 200, Sample.status 200]
  let t := (start.after Sample.pair (.turn true Sample.call)).turn Sample.pair false Sample.call
  have hrun : ((t.events Sample.pair).any
        (·.serves fun r => r.headers.get? "X-Auth-Token" == some "T") &&
      !(t.events Sample.pair).any (·.isHandshake)) = true := by decide +kernel
  obtain ⟨hany, hnone⟩ := Bool.and_eq_true_iff.mp hrun
  obtain ⟨before, r, answer, after, hsent, htoken⟩ := Event.exists_serving hany
  obtain ⟨x, hx⟩ := service_token_granted (Sample.fleet_initial _)
    (show start.turns Sample.pair [.turn true Sample.call, .turn false Sample.call]
      = [start.turn Sample.pair true Sample.call] ++ [t] from rfl) rfl hsent
  exact ⟨_, t, before, r, answer, after, x, rfl, hsent, beq_iff_eq.mp htoken,
    Bool.not_eq_true' _ |>.mp hnone, hx⟩

end CloudSession
