/-
Which turns take something from a cache. In a turn on a session of the client's
own that is answered 401 the client's key is cleared once, from its memory and
from the shared store (`Turn.EvictsOnce`). No other turn takes anything, be it
with a forced token or with a failure of any other kind
(`Turn.EvictsNothing`). So the caches lose an entry exactly where a session was
rejected (`eviction_exact`), unless a client is told to clear them.
-/
import CloudSession.Proofs.Fleet.Forced
import CloudSession.Proofs.Session.Spared

namespace CloudSession

-- ===================================================================== turns

variable {ι : Type} (members : ι → Member)

/-- In this turn one rejection came, and then the client's key was cleared from
its memory and, in one call, from the store if the client uses that. -/
structure Turn.EvictsOnce (t : Turn ι) : Prop where
  log : ∃ before rejection clearing, t.events members = before ++ rejection :: clearing ∧
    rejection.isRejection = true ∧
    (∀ e ∈ before, e.isRejection = false ∧ e.isClear = false) ∧
    (t.client members).Clearing (members t.who).sharesStore clearing
  memory : (t.outcome members).2.remembers (t.client members).key = false
  others : KeepsKeys (· ≠ (t.client members).key) t.before (t.outcome members).2

/-- In this turn no store was asked to clear a key, and nothing was taken from
a cache. -/
structure Turn.EvictsNothing (t : Turn ι) : Prop where
  log : ∀ e ∈ t.events members, e.isClear = false
  keys : KeepsKeys (fun _ => True) t.before (t.outcome members).2

variable {members} {t : Turn ι}

/-- A forced token has nothing to do with the caches. -/
theorem evictsNothing_of_forced {token : String} (hlog : t.before.outside.log = [])
    (hforced : t.forced? members = some token) (hoperation : t.operation ≠ .clearCached) :
    t.EvictsNothing members := by
  -- A negotiation is quiet whatever token is forced, and all else leaves the caches alone.
  cases hnegotiation : t.operation.isNegotiation with
  | true =>
    have hquiet := isQuiet_of_isNegotiation hnegotiation hoperation
    obtain ⟨new, hnew, hall⟩ := ((Operation.quiet_run (t.client members) hquiet).step t.before).log
    refine ⟨fun e he => Event.not_isClear_of_isQuiet (hall e ?_),
      (keepsKeys_negotiation hnegotiation hoperation).step t.before⟩
    rwa [Turn.events, Turn.outcome, hnew, hlog, List.nil_append] at he
  | false =>
    have halone := (usesForced_of_forced hlog hforced hnegotiation).alone
    refine ⟨fun e he => ?_, .of_eq halone.memory halone.store⟩
    have hnone := halone.log e he
    cases e with
    | store call key succeeded => exact absurd hnone (by simp [Event.isNegotiation])
    | _ => rfl

variable [DecidableEq ι]

/-- A turn of a run is taken in the scene that its client finds. -/
theorem Fleet.exists_turn {start : Fleet ι} {steps : List (Step ι)}
    (h : t ∈ start.turns members steps) :
    ∃ g : Fleet ι, t = g.turn members t.who t.operation := by
  obtain ⟨earlier, later, hturns⟩ := List.append_of_mem h
  obtain ⟨g, -, -, ht, -⟩ := Fleet.turns_split (I := fun _ _ => True)
    (fun _ _ _ _ h => h) (fun _ _ _ _ _ h => h) trivial hturns
  exact ⟨g, ht⟩

/-- A turn that clears the caches on nobody's demand clears them of the client's
key once, and it is one in which a session of the client's own was rejected. In
every other turn, however it fails, nothing is taken from a cache. -/
theorem eviction_exact {start : Fleet ι} {steps : List (Step ι)}
    (hturn : t ∈ start.turns members steps) (hoperation : t.operation ≠ .clearCached) :
    (t.forced? members = none → (∃ e ∈ t.events members, e.isRejection = true) →
      t.EvictsOnce members) ∧
    (t.forced? members ≠ none ∨ (∀ e ∈ t.events members, e.isRejection = false) →
      t.EvictsNothing members) := by
  obtain ⟨g, ht⟩ := Fleet.exists_turn hturn
  have hlog : t.before.outside.log = [] := by rw [ht]; rfl
  have hshares : t.before.outside.store.isSome = (members t.who).sharesStore := by
    rw [ht]
    simp only [Fleet.turn, Fleet.scene]
    cases (members t.who).sharesStore <;> rfl
  have hends : t.forced? members = none →
      (t.client members).Spared t.before (t.outcome members).2 ∨
      (t.client members).Cleared t.before (t.outcome members).2 := fun hunforced =>
    (spared_run hoperation).leaves (s := t.before) ⟨⟨hunforced, by simp [hlog]⟩, refl t.before⟩
  constructor
  · intro hunforced hrejected
    obtain ⟨e, he, hrejection⟩ := hrejected
    rcases hends hunforced with hspared | hcleared
    · exact absurd hrejection (by simp [(hspared.unrejected.log e he).1])
    · refine ⟨?_, ?_, hcleared.others⟩
      · rw [← hshares]
        exact hcleared.log
      · rw [Scene.remembers, hcleared.memory]
        rfl
  · intro hkept
    cases hforced : t.forced? members with
    | some token => exact evictsNothing_of_forced hlog hforced hoperation
    | none =>
      have hnone : ∀ e ∈ t.events members, e.isRejection = false :=
        hkept.resolve_left fun h => h hforced
      rcases hends hforced with hspared | hcleared
      · exact ⟨fun e he => (hspared.unrejected.log e he).2, hspared.keys⟩
      · obtain ⟨before, rejection, clearing, hevents, hrejection, -⟩ := hcleared.log
        have hmem : rejection ∈ t.events members := by
          rw [Turn.events, hevents]
          simp
        exact absurd hrejection (by simp [hnone rejection hmem])

namespace Sample

/-- A service that is out of order first and rejects the token then. -/
def failing : Fleet Bool :=
  fleet [grant "T" "2999-01-01T00:00:00Z" (.arr []), status 503, status 401]

/-- The store has begun to fail when it is to be cleared. -/
def broken : Step Bool := .faults ⟨none, none, some "down"⟩

/-- The call that meets the outage. -/
def outage : Turn Bool := failing.turn pair true call

/-- The call that is rejected. -/
def dismissed : Turn Bool :=
  ((failing.after pair (.turn true call)).after pair broken).turn pair true call

end Sample

/-- An outage leaves the context in both caches; the rejection after it takes it
from the memory, and the store is asked to clear it, although in vain. -/
theorem eviction_exact_after_outage :
    Sample.failing.turns Sample.pair
        [.turn true Sample.call, Sample.broken, .turn true Sample.call]
        = [Sample.outage, Sample.dismissed] ∧
      Sample.outage.EvictsNothing Sample.pair ∧
      Sample.dismissed.before.remembers (Sample.pair true).client.key = true ∧
      Sample.dismissed.before.stores (Sample.pair true).client.key = true ∧
      Sample.dismissed.EvictsOnce Sample.pair := by
  have hrun : ((Sample.outage.events Sample.pair).all (!·.isRejection) &&
      Sample.dismissed.before.remembers (Sample.pair true).client.key &&
      Sample.dismissed.before.stores (Sample.pair true).client.key &&
      (Sample.dismissed.events Sample.pair).any (·.isRejection)) = true := by
    decide +kernel
  simp only [Bool.and_eq_true] at hrun
  obtain ⟨⟨⟨hnone, hremembers⟩, hstores⟩, hrejected⟩ := hrun
  have hturns : Sample.failing.turns Sample.pair
      [.turn true Sample.call, Sample.broken, .turn true Sample.call]
      = [Sample.outage, Sample.dismissed] := rfl
  obtain ⟨-, hnothing⟩ := eviction_exact (t := Sample.outage)
    (by rw [hturns]; exact List.mem_cons_self) nofun
  obtain ⟨honce, -⟩ := eviction_exact (t := Sample.dismissed)
    (by rw [hturns]; exact List.mem_cons_of_mem _ List.mem_cons_self) nofun
  refine ⟨hturns, hnothing (.inr fun e he => ?_), hremembers, hstores,
    honce (ite_self none) (List.any_eq_true.mp hrejected)⟩
  simpa using List.all_eq_true.mp hnone e he

end CloudSession
