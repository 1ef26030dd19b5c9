/-
Clients that share a store and the time and nothing else: each has answers of
the network of its own. If the others have other keys than a client has, it goes
as if it were alone (`neighbours_apart`): their turns could be left out. What a
store answered is told by the calls in the log (`Turn.report`), which a client
makes with no key but its own; and the store was left by these calls, of which
those succeeded that the log says did (`Turn.AnsweredBy`).
-/
import CloudSession.Proofs.Fleet.Lockstep
import CloudSession.Proofs.Session.Apart

namespace CloudSession

open CloudSession.Action

-- ================================================================ neighbours

/-- Clients that share a store and the time. -/
structure Neighbours (ι : Type) where
  sessions : ι → Session
  networks : ι → Network
  now : Instant
  store : SharedStore

/-- One client's operation, or time that passes. -/
inductive Move (ι : Type)
  | turn (who : ι) (operation : Operation)
  | clock (now : Instant)

/-- An operation as it is seen, and what the shared store answered in it. -/
structure Report extends Observation where
  answers : List (Except StoreFault (Option Context))

/-- What the shared store of a scene, if there is one, answers to the calls in a
log. -/
def Scene.answers (s : Scene) (log : List Event) : List (Except StoreFault (Option Context)) :=
  match s.outside.store with
  | some shared => shared.answers (storeCalls log)
  | none => []

namespace Turn

variable {ι : Type} (members : ι → Member)

/-- What is seen of a turn. -/
def report (t : Turn ι) : Report where
  operation := t.operation
  result := (t.outcome members).1
  events := t.events members
  answers := t.before.answers (t.events members)

/-- A store gave the answers that are reported of a turn: it was left by the calls
in the log, and those succeeded that the log says did. -/
structure AnsweredBy (t : Turn ι) (shared : SharedStore) : Prop where
  left : (t.outcome members).2.outside.store
    = some (shared.afterCalls (storeCalls (t.events members)))
  successes : (t.events members).filterMap (·.storeSuccess?)
    = (t.report members).answers.map (·.isOk)

end Turn

/-- Whether a move is seen by a client: its own turns, and time that passes. -/
def Move.concerns {ι : Type} [DecidableEq ι] (who : ι) : Move ι → Bool
  | .turn other _ => other = who
  | .clock _ => true

namespace Neighbours

variable {ι : Type} (members : ι → Member)

/-- The scene that a client finds. -/
def scene (n : Neighbours ι) (who : ι) : Scene where
  session := n.sessions who
  outside :=
    { now := n.now, network := n.networks who
      store := if (members who).sharesStore then some n.store else none, log := [] }

/-- The turn of a client. -/
def turn (n : Neighbours ι) (who : ι) (operation : Operation) : Turn ι :=
  ⟨who, operation, n.scene members who⟩

variable [DecidableEq ι]

/-- What is left once a client has left a scene. -/
def absorb (n : Neighbours ι) (who : ι) (s : Scene) : Neighbours ι where
  sessions other := if other = who then s.session else n.sessions other
  networks other := if other = who then s.outside.network else n.networks other
  now := n.now
  store := s.outside.store.getD n.store

/-- What is left by a move. -/
def after (n : Neighbours ι) : Move ι → Neighbours ι
  | .turn who operation => n.absorb who ((n.turn members who operation).outcome members).2
  | .clock now => { n with now := now }

/-- The turns that are taken in a run. -/
def turns (n : Neighbours ι) : List (Move ι) → List (Turn ι)
  | [] => []
  | .turn who operation :: rest =>
    n.turn members who operation :: (n.after members (.turn who operation)).turns rest
  | .clock now :: rest => (n.after members (.clock now)).turns rest

end Neighbours

-- ================================================================ operations

/-- Operations go the same way in scenes that differ in nothing but what the
store has under other keys. -/
theorem lockstep_alike (c : Client) (operation : Operation) :
    Lockstep (Alike c.key) (operation.run c) (operation.run c) := by
  have hmirrors := c.mirrors_alike
  have hresolve : Lockstep (Alike c.key) c.resolve c.resolve := by
    refine hmirrors.resolve fun {s t} hst => ?_
    obtain ⟨store, rfl, -⟩ := hst
    rfl
  rw [Operation.run_eq_runBy]
  exact Operation.lockstep_runBy hmirrors.network (hmirrors.callBy hresolve) fun hcalls =>
    Operation.lockstep_apart hmirrors hcalls fun _ => hresolve

/-- What the store answers in an operation depends on nothing under other keys. -/
theorem answers_alike {c : Client} (operation : Operation) {s t : Scene}
    (hst : Alike c.key s t) (hlog : s.outside.log = []) :
    s.answers ((operation.run c).outcome s).2.outside.log
      = t.answers ((operation.run c).outcome s).2.outside.log := by
  obtain ⟨new, hnew, hkey, -, -⟩ :=
    ((Operation.steps_run c.pervades_replayed operation).step s).log
  rw [hnew, hlog, List.nil_append]
  rcases hst.cases with ⟨-, rfl⟩ | ⟨a, b, ha, rfl, hview⟩
  · rfl
  · rw [Scene.answers, ha]
    exact SharedStore.answers_congr hkey hview

/-- The store that a client finds in its turn is the one that answers. -/
theorem Turn.answeredBy_of_store {ι : Type} {members : ι → Member} {t : Turn ι}
    (hlog : t.before.outside.log = []) {shared : SharedStore}
    (hshared : t.before.outside.store = some shared) : t.AnsweredBy members shared := by
  obtain ⟨new, hnew, -, hstore, hsuccesses⟩ :=
    ((Operation.steps_run (t.client members).pervades_replayed t.operation).step t.before).log
  rw [hlog, List.nil_append] at hnew
  have hevents : t.events members = new := hnew
  refine ⟨?_, ?_⟩
  · rw [hevents, Turn.outcome, hstore, hshared, Option.map_some]
  · rw [Turn.report, Scene.answers, hshared, hevents]
    exact hsuccesses shared hshared

-- ====================================================================== apart

namespace Neighbours

variable {ι : Type} {members : ι → Member} {who : ι}

/-- What a client finds is the same but for what the store has under other
keys. -/
structure SeenAlike (members : ι → Member) (who : ι) (n m : Neighbours ι) : Prop where
  session : m.sessions who = n.sessions who
  network : m.networks who = n.networks who
  now : m.now = n.now
  store : m.store.view (members who).client.key = n.store.view (members who).client.key

namespace SeenAlike

variable {n m : Neighbours ι}

protected theorem refl (n : Neighbours ι) : SeenAlike members who n n := ⟨rfl, rfl, rfl, rfl⟩

theorem alike (h : SeenAlike members who n m) :
    Alike (members who).client.key (n.scene members who) (m.scene members who) := by
  refine ⟨if (members who).sharesStore then some m.store else none, ?_, ?_⟩
  · simp only [scene, Scene.sharing, h.session, h.network, h.now]
  · simp only [Scene.view, scene]
    split
    · exact congrArg some h.store
    · rfl

/-- In its own turn a client that finds the same does and gets the same. -/
theorem report_eq (h : SeenAlike members who n m) (operation : Operation) :
    (n.turn members who operation).report members
      = (m.turn members who operation).report members := by
  have hlockstep := lockstep_alike (members who).client operation
  have hvalue := hlockstep.value h.alike
  have hlog : ((operation.run (members who).client).outcome (n.scene members who)).2.outside.log
      = ((operation.run (members who).client).outcome (m.scene members who)).2.outside.log := by
    obtain ⟨store, hstore, -⟩ := hlockstep.scene h.alike
    rw [hstore]
    rfl
  have hanswers := answers_alike operation h.alike rfl
  simp only [Turn.report, Turn.outcome, Turn.events, Turn.client, turn, hvalue, ← hlog, hanswers]

variable [DecidableEq ι]

theorem clock (h : SeenAlike members who n m) (now : Instant) :
    SeenAlike members who (n.after members (.clock now)) (m.after members (.clock now)) :=
  ⟨h.session, h.network, rfl, h.store⟩

/-- A client's own turn leaves the same to it. -/
theorem own (h : SeenAlike members who n m) (operation : Operation) :
    SeenAlike members who (n.after members (.turn who operation))
      (m.after members (.turn who operation)) := by
  have hleft := (lockstep_alike (members who).client operation).scene h.alike
  have hsame : (((m.turn members who operation).outcome members).2.session
      = ((n.turn members who operation).outcome members).2.session) ∧
      ((m.turn members who operation).outcome members).2.outside.network
        = ((n.turn members who operation).outcome members).2.outside.network := by
    obtain ⟨store, hstore, -⟩ := hleft
    simp only [Turn.outcome, Turn.client, turn, hstore, Scene.sharing, and_self]
  obtain ⟨hsession, hnetwork⟩ := hsame
  refine ⟨?_, ?_, h.now, ?_⟩
  · simpa only [after, absorb, if_true] using hsession
  · simpa only [after, absorb, if_true] using hnetwork
  · show (((m.turn members who operation).outcome members).2.outside.store.getD m.store).view _
      = (((n.turn members who operation).outcome members).2.outside.store.getD n.store).view _
    exact hleft.getD_view h.store

/-- A turn of another client, with another key, leaves the same to it. -/
theorem other (h : SeenAlike members who n m) {other : ι} (hother : other ≠ who)
    (hkey : (members other).client.key ≠ (members who).client.key) (operation : Operation) :
    SeenAlike members who (n.after members (.turn other operation)) m := by
  obtain ⟨new, hnew, hcalls, hstore, -⟩ :=
    ((Operation.steps_run (members other).client.pervades_replayed operation).step
      (n.scene members other)).log
  refine ⟨?_, ?_, h.now, ?_⟩
  · simpa only [after, absorb, if_neg hother.symm] using h.session
  · simpa only [after, absorb, if_neg hother.symm] using h.network
  · show _ = (((operation.run (members other).client).outcome
      (n.scene members other)).2.outside.store.getD n.store).view _
    rw [hstore, h.store]
    simp only [scene]
    split
    · refine (SharedStore.view_afterCalls_of_ne (fun call hcall => ?_) n.store).symm
      rw [hcalls call hcall]
      exact hkey
    · rfl

end SeenAlike

variable [DecidableEq ι]

/-- Where the turns of others are left out, the same is seen of a client. -/
theorem reports_eq (hkey : ∀ other, other ≠ who →
      (members other).client.key ≠ (members who).client.key)
    {n m : Neighbours ι} (h : SeenAlike members who n m) (moves : List (Move ι)) :
    ((n.turns members moves).filter (·.who = who)).map (·.report members)
      = (m.turns members (moves.filter (·.concerns who))).map (·.report members) := by
  induction moves generalizing n m with
  | nil => rfl
  | cons move rest ih =>
    cases move with
    | clock now =>
      rw [turns, List.filter_cons_of_pos rfl, turns]
      exact ih (h.clock now)
    | turn other operation =>
      by_cases hother : other = who
      · subst hother
        rw [turns, List.filter_cons_of_pos (by simp [turn]),
          List.filter_cons_of_pos (by simp [Move.concerns]), turns, List.map_cons, List.map_cons,
          h.report_eq operation, ih (h.own operation)]
      · rw [turns, List.filter_cons_of_neg (by simp [turn, hother]),
          List.filter_cons_of_neg (by simp [Move.concerns, hother])]
        exact ih (h.other hother (hkey other hother) operation)

/-- Each turn of a run is one that its client takes as the run has left things. -/
theorem mem_turns {n : Neighbours ι} {moves : List (Move ι)} {t : Turn ι}
    (ht : t ∈ n.turns members moves) :
    ∃ m : Neighbours ι, t = m.turn members t.who t.operation := by
  induction moves generalizing n with
  | nil => exact absurd ht List.not_mem_nil
  | cons move rest ih =>
    cases move with
    | clock now => exact ih ht
    | turn who operation =>
      rcases List.mem_cons.mp ht with rfl | hlater
      · exact ⟨n, rfl⟩
      · exact ih hlater

theorem answeredBy_of_mem_turns {n : Neighbours ι} {moves : List (Move ι)} {t : Turn ι}
    (ht : t ∈ n.turns members moves) {shared : SharedStore}
    (hshared : t.before.outside.store = some shared) : t.AnsweredBy members shared := by
  obtain ⟨m, hm⟩ := mem_turns ht
  refine Turn.answeredBy_of_store ?_ hshared
  rw [hm]
  rfl

end Neighbours

variable {ι : Type} [DecidableEq ι] {members : ι → Member} {who : ι}

/-- However clients that share a store and the time take turns: if no other has
the key of a client, then what each operation of this client gives, the requests
it sends, the connections it opens, the calls of the store it makes, and the
answers to all of these are what they would be if the others did nothing. And the
answers of the store are those that the store gave that the client found. -/
theorem neighbours_apart
    (hkey : ∀ other, other ≠ who → (members other).client.key ≠ (members who).client.key)
    (n : Neighbours ι) (moves : List (Move ι)) :
    ((n.turns members moves).filter (·.who = who)).map (·.report members)
        = (n.turns members (moves.filter (·.concerns who))).map (·.report members) ∧
      ∀ t ∈ n.turns members moves, ∀ shared, t.before.outside.store = some shared →
        t.AnsweredBy members shared :=
  ⟨Neighbours.reports_eq hkey (.refl n) moves,
    fun _ ht _ hshared => Neighbours.answeredBy_of_mem_turns ht hshared⟩

namespace Sample

/-- A client with a secret of its own that shares the store. -/
def guest (secret : String) : Member where
  client := { client none with
    identity := ⟨.keystone .v2Password, "https://id.example.com", ⟨"alice", secret⟩, .default⟩ }
  sharesStore := true

/-- Two clients that differ in their secret. -/
def guests (first : Bool) : Member := if first then guest "secret" else guest "other secret"

/-- Two clients that have done nothing, each of which is going to be granted a
token, and an empty store. -/
def neighbours : Neighbours Bool where
  sessions _ := .initial
  networks first := ⟨[grant (if first then "T" else "U") "2999-01-01T00:00:00Z" (.arr [])], []⟩
  now := ⟨1893456000, 0⟩
  store := .ofStore (.memory .empty)

/-- Both clients get a token. One of them then removes its own from the store,
and the other looks for its own there. -/
def visits : List (Move Bool) :=
  [.turn true (.negotiate false), .turn false (.negotiate false), .turn false .clearCached,
    .clock ⟨1893459600, 0⟩, .turn true .cached]

end Sample

/-- A client finds its context in the store, where another has removed its own. The
store answers both of them. -/
theorem neighbours_apart_guests :
    (Sample.guests false).client.key ≠ (Sample.guests true).client.key ∧
      ((Sample.neighbours.turns Sample.guests Sample.visits).filter (·.who = true)).map
          (·.report Sample.guests)
        = (Sample.neighbours.turns Sample.guests
            (Sample.visits.filter (·.concerns true))).map (·.report Sample.guests) ∧
      (((Sample.neighbours.turns Sample.guests Sample.visits).filter (·.who = true)).map
          (·.report Sample.guests)).map (fun r => (r.result.toOption.isSome, r.answers.map
            (·.toOption.any (·.any (·.token == "T")))))
        = [(true, [false, false]), (true, [true])] ∧
      ∀ t ∈ Sample.neighbours.turns Sample.guests Sample.visits, ∃ shared,
        t.before.outside.store = some shared ∧ t.AnsweredBy Sample.guests shared := by
  have hkey : (Sample.guests false).client.key ≠ (Sample.guests true).client.key := by
    decide +kernel
  have halone : ((Sample.neighbours.turns Sample.guests
      (Sample.visits.filter (·.concerns true))).map (·.report Sample.guests)).map
        (fun r => (r.result.toOption.isSome, r.answers.map
          (·.toOption.any (·.any (·.token == "T")))))
      = [(true, [false, false]), (true, [true])] := by decide +kernel
  have hother : ∀ other, other ≠ true →
      (Sample.guests other).client.key ≠ (Sample.guests true).client.key := by
    intro other hother
    obtain rfl : other = false := by simpa using hother
    exact hkey
  obtain ⟨happart, hanswered⟩ := neighbours_apart hother Sample.neighbours Sample.visits
  refine ⟨hkey, happart, happart.symm ▸ halone, fun t ht => ?_⟩
  obtain ⟨m, hm⟩ := Neighbours.mem_turns ht
  have hshared : t.before.outside.store = some m.store := by
    rw [hm]
    cases t.who <;> rfl
  exact ⟨m.store, hshared, hanswered t ht m.store hshared⟩

end CloudSession
