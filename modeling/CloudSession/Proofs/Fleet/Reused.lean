/-
Whether a client in a fleet gets a context again that it has negotiated. As
long as nothing disturbs it (`Turn.Spares`) every further negotiation gives it
and sends nothing, exactly if the shared store is left with nothing else under
the client's key (`negotiate_reused_iff`). A store that cannot be written may
be left with an older context, which then stands in the way
(`negotiate_not_reused`).
-/
import CloudSession.Proofs.Fleet.Basic
import CloudSession.Proofs.Session.Reused

namespace CloudSession

open CloudSession.Action

-- ================================================================ operations

/-- Whether an operation is to renew the context or to drop it from the caches. -/
def Operation.renews : Operation → Bool
  | .authenticate force => force
  | .negotiate force => force
  | .clearCached => true
  | _ => false

section Operations

variable {c : Client} {x : Context}

/-- Whatever else a client is asked to do, it keeps a context that is valid,
unless it is rejected with a session of its own. -/
theorem retained_run {forced : Option String} {operation : Operation}
    (hoperation : operation.renews = false) :
    Triple (c.Undisturbed x forced) (operation.run c)
      (fun _ => c.RetainedUnlessRejected x forced) (c.RetainedUnlessRejected x forced) := by
  have hreturn : ∀ {α : Type} {a : Action α} (f : α → Yield),
      Triple (c.Retained x) a (fun _ => c.Retained x) (c.Retained x) →
      Triple (c.Undisturbed x forced) (do return f (← a))
        (fun _ => c.RetainedUnlessRejected x forced) (c.RetainedUnlessRejected x forced) :=
    fun f h => ((h.pre fun _ hs => hs.toRetained).fail fun _ => Or.inl).returning
      (fun _ => Or.inl) f
  refine Operation.triple_run Client.upkeep_undisturbed (fun _ hs => Or.inl hs.toRetained)
    (fun action method body => Client.retained_call action method _ body) fun hnegotiation => ?_
  cases operation with
  | authenticate force =>
    obtain rfl : force = false := hoperation
    exact hreturn _ (Client.triple_authenticate (fun _ _ _ _ hs => hs.congr rfl rfl rfl)
      Client.retained_negotiate_same)
  | negotiate force =>
    obtain rfl : force = false := hoperation
    exact hreturn _ Client.retained_negotiate_same
  | cached =>
    exact hreturn _ (Client.retained_cached.conseq (fun _ hs => hs) (fun _ _ hs => hs.1)
      fun _ hs => hs.1)
  | clearCached => exact absurd hoperation (by simp [Operation.renews])
  | _ => exact absurd hnegotiation (by simp [Operation.isNegotiation])

theorem negotiated_run {P E : Scene → Prop} {Q : Context → Scene → Prop} {force : Bool}
    (h : Triple P (c.negotiate force) Q E) :
    Triple P ((Operation.negotiate force).run c) (fun y s => ∃ x, y = .context x ∧ Q x s) E :=
  .bind h fun x => .pure fun _ hs => ⟨x, rfl, hs⟩

end Operations

-- ==================================================================== fleets

variable {ι : Type} (members : ι → Member)

/-- A turn in which a client's context is left alone. Others do not write or
clear its key. In its own turns it is still valid, the store can be read, the
client is not asked for another one nor to drop this one, and is not rejected
with it. -/
structure Turn.Spares (t : Turn ι) (who : ι) (x : Context) : Prop where
  others : t.who ≠ who → ∀ e ∈ t.events members, e.changes (members who).client.key = false
  valid : t.who = who →
    x.isValid t.before.outside.now (members who).client.skew = some true
  readable : t.who = who → (members who).client.Readable (t.outcome members).2
  asked : t.who = who → t.operation.renews = false
  accepted : t.who = who → t.forced? members = none →
    ∀ e ∈ t.events members, e.isRejection = false

/-- A client's memory has a context, and the store nothing else if it is
shared. -/
structure Fleet.Retains (f : Fleet ι) (who : ι) (x : Context) : Prop where
  memory : (f.sessions who).memory.get? (members who).client.key = some x
  store : (members who).sharesStore = true → ∀ y,
    f.store.store.get (members who).client.key = .ok (some y) → y = x

theorem keepsEntry_turn (f : Fleet ι) (who : ι) (operation : Operation) (key : String) :
    KeepsEntry key (f.scene members who) ((f.turn members who operation).outcome members).2 :=
  (Operation.steps_run ((members who).client.pervades_keepsEntry key) operation).step _

variable {members} {f : Fleet ι} {who : ι} {x : Context}

theorem Fleet.Retains.retained (h : f.Retains members who x)
    (hvalid : x.isValid f.now (members who).client.skew = some true) :
    (members who).client.Retained x (f.scene members who) := by
  refine ⟨h.memory, fun shared hshared y hy => ?_, hvalid⟩
  have hshared : (if (members who).sharesStore then some f.store else none) = some shared :=
    hshared
  split at hshared
  · next hshares =>
    obtain rfl := Option.some.inj hshared
    exact h.store hshares y hy
  · exact absurd hshared (by simp)

/-- A context that is retained is given if the shared store can be read. -/
theorem given_of_retains {t : Turn ι} (hretains : f.Retains members who x)
    (ht : t = f.turn members who (.negotiate false)) (hspares : t.Spares members who x) :
    (t.outcome members).1 = .ok (.context x) ∧ ∀ e ∈ t.events members, e.isRequest = false := by
  subst ht
  have htriple := negotiated_run ((members who).client.retained_negotiate (x := x))
  have hstart : (members who).client.Retained x (f.scene members who) ∧
      ∀ e ∈ (f.scene members who).outside.log, e.isRequest = false :=
    ⟨hretains.retained (hspares.valid rfl), by simp [Fleet.scene]⟩
  have hreadable := hspares.readable rfl
  rw [Turn.events]
  rcases ho : (f.turn members who (.negotiate false)).outcome members with ⟨e | y, s⟩
  -- only a failed reading of the store ends it with an error
  · obtain ⟨-, hfailed⟩ := htriple.error hstart ho
    rw [ho] at hreadable
    exact absurd hfailed hreadable
  · obtain ⟨z, rfl, ⟨-, rfl⟩, hunsent⟩ := htriple.ok hstart ho
    exact ⟨rfl, hunsent⟩

/-- A turn that sends nothing to the service is not rejected. -/
theorem accepted_of_isQuiet {t : Turn ι} (hlog : t.before.outside.log = [])
    (hquiet : t.operation.isQuiet = true) : ∀ e ∈ t.events members, e.isRejection = false := by
  obtain ⟨new, hnew, hall⟩ :=
    ((Operation.quiet_run (t.client members) hquiet).step t.before).log
  intro e he
  rw [Turn.events, Turn.outcome, hnew, hlog, List.nil_append] at he
  exact Event.isRejection_of_not_isService (Event.not_isService_of_isQuiet (hall e he))

variable [DecidableEq ι]

variable (members) in
/-- From here on, as long as it is left alone, every negotiation that is not
forced gives the context and sends no request. -/
def Reused (f : Fleet ι) (who : ι) (x : Context) : Prop :=
  ∀ steps earlier t later, f.turns members steps = earlier ++ t :: later →
    (∀ u ∈ earlier ++ [t], u.Spares members who x) →
    t.who = who → t.operation = .negotiate false →
    (t.outcome members).1 = .ok (.context x) ∧ ∀ e ∈ t.events members, e.isRequest = false

/-- A client that shares the store leaves it to the fleet. -/
theorem store_after_turn (hshares : (members who).sharesStore = true) (operation : Operation) :
    ((f.turn members who operation).outcome members).2.outside.store
      = some (f.after members (.turn who operation)).store := by
  have hpresent := (keepsEntry_turn members f who operation "").present
  have hscene : (f.scene members who).outside.store = some f.store := if_pos hshares
  rw [hscene] at hpresent
  obtain ⟨shared, hshared⟩ := Option.isSome_iff_exists.mp hpresent
  simp only [Fleet.after, Fleet.absorb, hshared, Option.getD_some]

/-- A client that does not share the store leaves it alone. -/
theorem store_after_lone_turn (hshares : (members who).sharesStore = false)
    (operation : Operation) : (f.after members (.turn who operation)).store = f.store := by
  have hpresent := (keepsEntry_turn members f who operation "").present
  have hscene : (f.scene members who).outside.store = none := if_neg (by simp [hshares])
  rw [hscene, Option.isSome_none, Option.isSome_eq_false_iff, Option.isNone_iff_eq_none] at hpresent
  simp only [Fleet.after, Fleet.absorb, hpresent, Option.getD_none]

/-- A client keeps a context through its own turn. -/
theorem retains_after_own (h : f.Retains members who x) {operation : Operation}
    (hspares : (f.turn members who operation).Spares members who x) :
    (f.after members (.turn who operation)).Retains members who x := by
  have hretained : (members who).client.Retained x
      ((f.turn members who operation).outcome members).2 := by
    refine ((retained_run (hspares.asked rfl)).leaves (s := f.scene members who)
      ⟨h.retained (hspares.valid rfl), rfl⟩).resolve_right fun hrejected => ?_
    obtain ⟨hforced, e, he, hrejection⟩ := hrejected
    exact absurd hrejection (by simp [hspares.accepted rfl hforced e he])
  refine ⟨?_, fun hshares => hretained.store _ (store_after_turn hshares operation)⟩
  simp only [Fleet.after, Fleet.absorb, if_true]
  exact hretained.memory

/-- A client keeps a context through the turns of others. -/
theorem retains_after_other (h : f.Retains members who x) {other : ι} (hother : other ≠ who)
    {operation : Operation}
    (hspares : (f.turn members other operation).Spares members who x) :
    (f.after members (.turn other operation)).Retains members who x := by
  refine ⟨?_, fun hshares y hy => h.store hshares y ?_⟩
  · simpa only [Fleet.after, Fleet.absorb, if_neg hother.symm] using h.memory
  · cases hlone : (members other).sharesStore with
    | false => rwa [store_after_lone_turn hlone] at hy
    | true =>
      obtain ⟨new, hnew, hkept⟩ :=
        (keepsEntry_turn members f other operation (members who).client.key).entry
      rw [← hkept (fun e he => hspares.others hother e (by rw [Turn.events]; exact hnew ▸ he))
        f.store _ (if_pos hlone) (store_after_turn hlone operation)]
      exact hy

theorem retains_after_turn (h : f.Retains members who x) {other : ι} {operation : Operation}
    (hspares : (f.turn members other operation).Spares members who x) :
    (f.after members (.turn other operation)).Retains members who x := by
  by_cases hother : other = who
  · subst hother
    exact retains_after_own h hspares
  · exact retains_after_other h hother hspares

/-- A context is retained wherever a turn of a run is taken, if those before it
left the context alone. -/
theorem retains_split (h : f.Retains members who x) {steps : List (Step ι)}
    {earlier later : List (Turn ι)} {t : Turn ι}
    (hturns : f.turns members steps = earlier ++ t :: later)
    (hspares : ∀ u ∈ earlier, u.Spares members who x) :
    ∃ g : Fleet ι, g.Retains members who x ∧ t = g.turn members t.who t.operation := by
  obtain ⟨g, -, hg, ht, -⟩ := Fleet.turns_split
    (I := fun taken f => (∀ u ∈ taken, u.Spares members who x) → f.Retains members who x)
    (fun taken f other operation hf htaken =>
      retains_after_turn (hf fun u hu => htaken u (List.mem_append_left _ hu))
        (htaken _ (List.mem_append_right _ (List.mem_singleton_self _))))
    (fun _ _ _ hsessions hstore hf htaken =>
      ⟨hsessions ▸ (hf htaken).memory, hstore ▸ (hf htaken).store⟩)
    (fun _ => h) hturns
  exact ⟨g, hg hspares, ht⟩

/-- A context that is retained is given again and again. -/
theorem reused_of_retains (h : ∀ now, x.isValid now (members who).client.skew = some true →
    f.Retains members who x) : Reused members f who x := by
  intro steps earlier t later hturns hspares hwho hoperation
  have hspared : t.Spares members who x := hspares t (by simp)
  obtain ⟨g, hretains, ht⟩ := retains_split (h _ (hspared.valid hwho)) hturns
    fun u hu => hspares u (List.mem_append_left _ hu)
  rw [hwho, hoperation] at ht
  exact given_of_retains hretains ht hspared

/-- What is given again and again is what the shared store gives. -/
theorem not_reused_of_displaced (hshares : (members who).sharesStore = true) {y : Context}
    (hstored : f.store.store.get (members who).client.key = .ok (some y)) {now : Instant}
    (hvalid : x.isValid now (members who).client.skew = some true)
    (hreused : Reused members f who x) : x = y := by
  -- one more negotiation, when the context is valid and the store can be read
  let t := ((f.after members (.faults .none)).after members (.clock now)).turn members who
    (.negotiate false)
  have hstart : (members who).client.Displaced y t.before :=
    ⟨⟨_, if_pos hshares, hstored⟩, by simp [Client.Readable, t, Fleet.turn, Fleet.scene]⟩
  have htriple := negotiated_run ((members who).client.displaced_negotiate (y := y))
  have hreadable : (members who).client.Readable (t.outcome members).2 := by
    refine (htriple.post fun _ s hs => ?_).leaves hstart
    obtain ⟨-, -, hs, -⟩ := hs
    exact hs
  have hspares : t.Spares members who x :=
    ⟨fun h => absurd rfl h, fun _ => hvalid, fun _ => hreadable, fun _ => rfl,
      fun _ _ => accepted_of_isQuiet rfl rfl⟩
  obtain ⟨hgiven, hunsent⟩ := hreused [.faults .none, .clock now, .turn who (.negotiate false)]
    [] t [] rfl (by simpa using hspares) rfl rfl
  rcases ho : t.outcome members with ⟨result, s⟩
  rw [ho] at hgiven
  have hgiven : result = .ok (.context x) := hgiven
  subst hgiven
  obtain ⟨z, heq, -, hz⟩ := htriple.ok hstart ho
  obtain rfl := Yield.context.inj heq
  refine hz.resolve_right fun hsent => ?_
  obtain ⟨e, he, hrequest⟩ := hsent
  exact absurd hrequest (by simp [hunsent e (by rw [Turn.events, ho]; exact he)])

-- ================================================================ negotiation

/-- Whatever the caches have, and whatever fails: a context that a negotiation
has given is given again, without a request, as long as it is left alone,
exactly if the shared store is then left with nothing else under the client's
key. If the store could be written then, all that it has there is a copy. -/
theorem negotiate_reused_iff (f : Fleet ι) (who : ι) {force : Bool} {x : Context}
    (hgiven : ((f.turn members who (.negotiate force)).outcome members).1 = .ok (.context x)) :
    (Reused members (f.after members (.turn who (.negotiate force))) who x ↔
      ((∃ now, x.isValid now (members who).client.skew = some true) →
        (members who).sharesStore = true → ∀ y,
          (f.after members (.turn who (.negotiate force))).store.store.get
            (members who).client.key = .ok (some y) → y = x)) ∧
    ((∀ y, .store (.put y) (members who).client.key false ∉
        (f.turn members who (.negotiate force)).events members) →
      (members who).sharesStore = true → ∀ y,
        (f.after members (.turn who (.negotiate force))).store.store.get
          (members who).client.key = .ok (some y) → Context.SameToken x y) := by
  have hstored : (members who).client.Stored x
      ((f.turn members who (.negotiate force)).outcome members).2 := by
    rcases ho : (f.turn members who (.negotiate force)).outcome members with ⟨result, s⟩
    rw [ho] at hgiven
    have hgiven : result = .ok (.context x) := hgiven
    subst hgiven
    obtain ⟨z, heq, hz⟩ :=
      (negotiated_run ((members who).client.stored_negotiate force)).ok trivial ho
    obtain rfl := Yield.context.inj heq
    exact hz
  refine ⟨⟨fun hreused hnow hshares y hy => ?_, fun hleft => ?_⟩, fun hput hshares y hy => ?_⟩
  · obtain ⟨now, hvalid⟩ := hnow
    exact (not_reused_of_displaced hshares hy hvalid hreused).symm
  · refine reused_of_retains fun now hvalid => ⟨?_, hleft ⟨now, hvalid⟩⟩
    simp only [Fleet.after, Fleet.absorb, if_true]
    exact hstored.memory
  · refine hstored.store.resolve_left (fun hfailed => ?_) _
      (store_after_turn hshares (.negotiate force)) y hy
    obtain ⟨z, hz⟩ := hfailed
    exact hput z hz

namespace Sample

/-- Nothing can be written to the store. -/
def readOnly : StoreFaults := ⟨none, some "read-only file system", none⟩

/-- Clients with an empty store that cannot be written. -/
def unwritable : Fleet Bool :=
  { fleet [grant "NEW" "2999-01-01T00:00:00Z" (.arr [])] with
    store := ⟨.memory .empty, readOnly⟩ }

/-- Clients with a store that cannot be written any more. One of them has left
a context there that has expired since. -/
def outworn : Fleet Bool :=
  ({ fleet [grant "OLD" "2029-01-01T00:00:00Z" (.arr []),
      grant "NEW" "2999-01-01T00:00:00Z" (.arr [])] with
    store := .ofStore (.memory .empty) }.after pair (.turn true (.negotiate false))).after pair
      (.faults readOnly)

end Sample

/-- With an empty store it does no harm that this cannot be written. -/
theorem negotiate_reused_unwritable :
    ∃ x, ((Sample.unwritable.turn Sample.pair true (.negotiate false)).outcome Sample.pair).1
        = .ok (.context x) ∧
      x.token = "NEW" ∧ x.isValid Sample.unwritable.now 0 = some true ∧
      Reused Sample.pair
        (Sample.unwritable.after Sample.pair (.turn true (.negotiate false))) true x := by
  have hrun : (((Sample.unwritable.turn Sample.pair true (.negotiate false)).outcome
        Sample.pair).1.toOption.any (·.gives fun x =>
          x.token == "NEW" && x.isValid Sample.unwritable.now 0 == some true) &&
      ((Sample.unwritable.after Sample.pair (.turn true (.negotiate false))).store.store.get
        (Sample.pair true).client.key).toOption.any (·.isNone)) = true := by decide +kernel
  obtain ⟨hany, hempty⟩ := Bool.and_eq_true_iff.mp hrun
  obtain ⟨x, hgiven, hx⟩ := Yield.exists_given hany
  obtain ⟨htoken, hvalid⟩ := Bool.and_eq_true_iff.mp hx
  obtain ⟨hiff, -⟩ := negotiate_reused_iff Sample.unwritable true hgiven
  refine ⟨x, hgiven, beq_iff_eq.mp htoken, beq_iff_eq.mp hvalid, hiff.mpr fun _ _ y hy => ?_⟩
  rw [hy] at hempty
  exact absurd hempty (by simp [Except.toOption])

/-- A context that has expired stays in a store that cannot be written. The one
that a handshake has put in its place is valid, but is not used again: the next
negotiation performs another handshake. -/
theorem negotiate_not_reused :
    ∃ x, ((Sample.outworn.turn Sample.pair true (.negotiate false)).outcome Sample.pair).1
        = .ok (.context x) ∧
      x.token = "NEW" ∧ x.isValid Sample.outworn.now 0 = some true ∧
      ¬Reused Sample.pair
        (Sample.outworn.after Sample.pair (.turn true (.negotiate false))) true x ∧
      (((Sample.outworn.after Sample.pair (.turn true (.negotiate false))).turn Sample.pair true
        (.negotiate false)).events Sample.pair).any (·.isHandshake) = true := by
  have hrun : (((Sample.outworn.turn Sample.pair true (.negotiate false)).outcome
        Sample.pair).1.toOption.any (·.gives fun x =>
          x.token == "NEW" && x.isValid Sample.outworn.now 0 == some true) &&
      ((Sample.outworn.after Sample.pair (.turn true (.negotiate false))).store.store.get
        (Sample.pair true).client.key).toOption.any (·.any (·.token == "OLD")) &&
      (((Sample.outworn.after Sample.pair (.turn true (.negotiate false))).turn Sample.pair true
        (.negotiate false)).events Sample.pair).any (·.isHandshake)) = true := by decide +kernel
  obtain ⟨hrun, hhandshake⟩ := Bool.and_eq_true_iff.mp hrun
  obtain ⟨hany, hleft⟩ := Bool.and_eq_true_iff.mp hrun
  obtain ⟨x, hgiven, hx⟩ := Yield.exists_given hany
  obtain ⟨htoken, hvalid⟩ := Bool.and_eq_true_iff.mp hx
  have hvalid := beq_iff_eq.mp hvalid
  refine ⟨x, hgiven, beq_iff_eq.mp htoken, hvalid, fun hreused => ?_, hhandshake⟩
  cases hget : (Sample.outworn.after Sample.pair (.turn true (.negotiate false))).store.store.get
      (Sample.pair true).client.key with
  | error fault => simp [hget, Except.toOption] at hleft
  | ok found =>
    obtain ⟨y, rfl, hy⟩ : ∃ y, found = some y ∧ y.token = "OLD" := by
      simpa [hget, Except.toOption, Option.any_eq_true] using hleft
    obtain rfl := not_reused_of_displaced rfl hget hvalid hreused
    exact absurd (hy.symm.trans (beq_iff_eq.mp htoken)) (by decide)

end CloudSession
