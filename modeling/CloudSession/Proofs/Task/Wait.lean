/-
How long a wait is. A waiter's round is a poll and, if the task goes on and
there is time left, a sleep; `Watch` puts the clock and a tally of polls and
sleeps beside the polled world. The waiter in `Task.waitFrom` is a run of such
rounds that keeps the world only (`run_waitFrom`). Before the last poll each
round goes on (`rounds_goOn`), and the last one ends the wait (`round_ends`),
so that the number of polls is known from what the polls tell and from the
times alone (`LastPoll.exact`). Nothing here depends on the unit of time.
-/
import CloudSession.Proofs.Session.Triple
import CloudSession.Task.Wait
import Mathlib.Algebra.Order.Floor.Div

namespace CloudSession.Task

variable {σ : Type}

-- ===================================================================== polls

/-- A poll of some world, which it may change. -/
abbrev Poll (σ : Type) := ExceptT SessionError (StateM σ) Status

/-- The worlds in which polls are made, one after the other. -/
def worldAt (poll : Poll σ) (world : σ) : Nat → σ
  | 0 => world
  | i + 1 => (poll.run.run (worldAt poll world i)).2

/-- What the polls tell, one after the other. -/
def told (poll : Poll σ) (world : σ) (i : Nat) : Except SessionError Status :=
  (poll.run.run (worldAt poll world i)).1

theorem run_poll (poll : Poll σ) (world : σ) (i : Nat) :
    poll.run.run (worldAt poll world i) = (told poll world i, worldAt poll world (i + 1)) := rfl

/-- Whether nothing is left to wait for after a poll: it failed, or the task
will not move any more. -/
def Ends : Except SessionError Status → Prop
  | .error _ => True
  | .ok status => status.state.isTerminal = true

instance : DecidablePred Ends
  | .error _ => isTrue trivial
  | .ok status => inferInstanceAs (Decidable (status.state.isTerminal = true))

/-- The first poll to end a wait, by how many were made before it. -/
def FirstEnd (told : Nat → Except SessionError Status) (i : Nat) : Prop :=
  Ends (told i) ∧ ∀ j < i, ¬Ends (told j)

/-- How many polls a wait makes: one more than there are intervals in the
timeout, the last of them begun, or as many as it takes to see the end. -/
structure LastPoll (timeout interval : Nat) (told : Nat → Except SessionError Status) (k : Nat) :
    Prop where
  ended : ∀ i, FirstEnd told i → k = min (1 + timeout ⌈/⌉ interval) (i + 1)
  endless : (∀ i, ¬FirstEnd told i) → k = 1 + timeout ⌈/⌉ interval

/-- What a wait of `polls` polls gives when the last of them told `last`. -/
def ending (ref : String) (timeout interval polls : Nat) (last : Except SessionError Status) :
    Except SessionError Watched :=
  match last with
  | .error e => .error e
  | .ok ⟨.success, _⟩ => .ok ⟨ref, .success, polls, timeout, interval⟩
  | .ok ⟨.error, message⟩ => .error (.task ref (message.getD "Unknown error"))
  | .ok ⟨.canceled, _⟩ => .error (.taskCanceled ref)
  | .ok _ => .error (.taskTimeout ref timeout)

/-- There is no status word for a task that timed out. -/
theorem state_ne_timedOut {format : Format} {r : Response} {status : Status}
    (h : parseStatus format r = .ok status) : status.state ≠ .timedOut := by
  have hwords : ∀ entry ∈ State.words, entry.2 ≠ .timedOut := by decide
  unfold parseStatus at h
  split at h
  · exact nomatch h
  · next word message hreport =>
    cases hstate : State.ofWord? word with
    | none => exact absurd h (by simp [hstate])
    | some state =>
      rw [hstate] at h
      obtain rfl : ⟨state, message⟩ = status := Except.ok.inj h
      obtain ⟨before, after, hsplit, -⟩ := List.lookup_eq_some_iff.mp hstate
      exact hwords _ (hsplit ▸ List.mem_append_right _ List.mem_cons_self)

-- ==================================================================== rounds

/-- What a waiter has before it: the world, the time, and how many polls and
sleeps there have been. -/
structure Watch (σ : Type) where
  world : σ
  clock : Nat
  polls : Nat
  sleeps : Nat

namespace Watch

variable (poll : Poll σ) (ref : String) (timeout interval started : Nat)

/-- One round of a waiter that started at some time. Without a result it goes
on. -/
def round (w : Watch σ) : Option (Except SessionError Watched) × Watch σ :=
  let polled : Watch σ :=
    { w with world := (poll.run.run w.world).2, polls := w.polls + 1 }
  match (poll.run.run w.world).1 with
  | .error e => (some (.error e), polled)
  | .ok status =>
    match verdict ref status with
    | some (.ok ()) => (some (.ok ⟨ref, status.state, polled.polls, timeout, interval⟩), polled)
    | some (.error e) => (some (.error e), polled)
    | none =>
      if timeout ≤ polled.clock - started then (some (.error (.taskTimeout ref timeout)), polled)
      else (none, { polled with clock := polled.clock + interval, sleeps := polled.sleeps + 1 })

/-- So many rounds, or fewer if one of them has a result. -/
def rounds : Nat → Watch σ → Option (Except SessionError Watched) × Watch σ
  | 0, w => (none, w)
  | n + 1, w =>
    match w.round poll ref timeout interval started with
    | (some result, w') => (some result, w')
    | (none, w') => rounds n w'

/-- The waiter makes the rounds, and out of rounds it is out of time. -/
theorem run_waitFrom (bound : Nat) : ∀ w : Watch σ, started ≤ w.clock →
    (waitFrom poll ref timeout interval bound w.polls (w.clock - started)).run.run w.world
      = (((w.rounds poll ref timeout interval started bound).1.getD
          (.error (.taskTimeout ref timeout))),
        (w.rounds poll ref timeout interval started bound).2.world) := by
  induction bound with
  | zero => exact fun w _ => rfl
  | succ bound ih =>
    intro w hstarted
    simp only [waitFrom, rounds, round]
    rw [Action.run_bind]
    rcases hpoll : poll.run.run w.world with ⟨e | status, world⟩
    · rfl
    · cases hverdict : verdict ref status with
      | some outcome =>
        simp only [hverdict]
        rcases outcome with e | _ <;> rfl
      | none =>
        have hnext := ih ⟨world, w.clock + interval, w.polls + 1, w.sleeps + 1⟩
          (Nat.le_add_right_of_le hstarted)
        have helapsed : w.clock - started + interval = w.clock + interval - started := by omega
        by_cases htime : timeout ≤ w.clock - started
        · simp only [hverdict, htime, if_true]
          rfl
        · simpa only [hverdict, htime, if_false, helapsed] using hnext

-- ==================================================================== a wait

variable (world : σ)

/-- Where a waiter stands that has gone on `n` times. -/
def goneOn (n : Nat) : Watch σ :=
  ⟨worldAt poll world n, started + n * interval, n, n⟩

variable {poll world timeout interval}

/-- While the task goes on and there is time left, so does the waiter. -/
theorem round_goesOn {n : Nat} (hend : ¬Ends (told poll world n)) (htime : n * interval < timeout) :
    (goneOn poll interval started world n).round poll ref timeout interval started
      = (none, goneOn poll interval started world (n + 1)) := by
  have hlate : ¬timeout ≤ started + n * interval - started := by omega
  have hclock : started + n * interval + interval = started + (n + 1) * interval := by
    rw [Nat.add_mul, Nat.one_mul, Nat.add_assoc]
  simp only [round, goneOn, run_poll]
  cases htold : told poll world n with
  | error e => exact absurd (by rw [htold]; trivial) hend
  | ok status =>
    have hstate : status.state.isTerminal = false := by simpa [Ends, htold] using hend
    have hverdict : verdict ref status = none := by
      cases h : status.state <;> simp_all [verdict, State.isTerminal]
    simp only [hverdict, hlate, if_false, hclock]

/-- A round ends the wait if the task is at an end or the time is up, and the
end of the task is what counts. -/
theorem round_ends {n : Nat} (hpolled : ∀ status, told poll world n = .ok status →
    status.state ≠ .timedOut) (h : Ends (told poll world n) ∨ timeout ≤ n * interval) :
    (goneOn poll interval started world n).round poll ref timeout interval started
      = (some (ending ref timeout interval (n + 1) (told poll world n)),
        ⟨worldAt poll world (n + 1), started + n * interval, n + 1, n⟩) := by
  simp only [round, goneOn, run_poll]
  cases htold : told poll world n with
  | error e => rfl
  | ok status =>
    have hne := hpolled status htold
    have hlate : status.state.isTerminal = false → timeout ≤ n * interval := fun hstate =>
      h.resolve_left (by simp [Ends, htold, hstate])
    rcases status with ⟨state, message⟩
    cases state with
    | pending => simp [verdict, ending, hlate rfl]
    | running => simp [verdict, ending, hlate rfl]
    | success => rfl
    | error => rfl
    | canceled => rfl
    | timedOut => exact absurd rfl hne

/-- Rounds that all go on lead to where the last of them goes on. -/
theorem rounds_goOn {n : Nat} (hgoesOn : ∀ i < n, ¬Ends (told poll world i) ∧
    i * interval < timeout) (more : Nat) :
    (goneOn poll interval started world 0).rounds poll ref timeout interval started (n + more)
      = (goneOn poll interval started world n).rounds poll ref timeout interval started more := by
  induction n generalizing more with
  | zero => rw [Nat.zero_add]
  | succ n ih =>
    obtain ⟨hend, htime⟩ := hgoesOn n (Nat.lt_succ_self n)
    have hbefore := ih (fun i hi => hgoesOn i (Nat.lt_succ_of_lt hi)) (more + 1)
    rw [show n + 1 + more = n + (more + 1) by omega, hbefore, rounds,
      round_goesOn ref started hend htime]

end Watch

-- ============================================================= the last poll

namespace LastPoll

variable {timeout interval k : Nat} {told : Nat → Except SessionError Status}

/-- There is a last poll, whether or not the task ever ends. -/
theorem exists_last (timeout interval : Nat) (told : Nat → Except SessionError Status) :
    ∃ k, LastPoll timeout interval told k := by
  by_cases h : ∃ i, FirstEnd told i
  · obtain ⟨i, hi⟩ := h
    refine ⟨min (1 + timeout ⌈/⌉ interval) (i + 1), fun j hj => ?_, fun hnone => absurd hi (hnone i)⟩
    have hij : i = j := by
      rcases Nat.lt_trichotomy i j with hlt | heq | hlt
      · exact absurd hi.1 (hj.2 i hlt)
      · exact heq
      · exact absurd hj.1 (hi.2 j hlt)
    rw [hij]
  · exact ⟨1 + timeout ⌈/⌉ interval, fun i hi => absurd ⟨i, hi⟩ h, fun _ => rfl⟩

/-- Among the outcomes that end a wait there is a first. -/
theorem exists_firstEnd {i : Nat} (h : Ends (told i)) : ∃ j ≤ i, FirstEnd told j := by
  induction i using Nat.strong_induction_on with
  | _ i ih =>
    by_cases hbefore : ∃ j < i, Ends (told j)
    · obtain ⟨j, hj, hend⟩ := hbefore
      obtain ⟨first, hle, hfirst⟩ := ih j hj hend
      exact ⟨first, hle.trans hj.le, hfirst⟩
    · exact ⟨i, le_rfl, h, fun j hj hend => hbefore ⟨j, hj, hend⟩⟩

/-- The last poll comes after `n` others: none of these told of an end, and
after none of them was the time up. -/
theorem exists_before (h : LastPoll timeout interval told k) (hinterval : 0 < interval) :
    ∃ n, k = n + 1 ∧ n ≤ timeout ⌈/⌉ interval ∧
      (∀ i < n, ¬Ends (told i) ∧ i * interval < timeout) ∧
      (Ends (told n) ∨ timeout ≤ n * interval) := by
  have hceil : ∀ n, timeout ⌈/⌉ interval ≤ n ↔ timeout ≤ n * interval := by
    intro n
    rw [ceilDiv_le_iff_le_mul hinterval, Nat.mul_comm]
  have hgoesOn : ∀ n, n ≤ timeout ⌈/⌉ interval → (∀ j < n, ¬Ends (told j)) →
      ∀ i < n, ¬Ends (told i) ∧ i * interval < timeout := by
    intro n hn hnone i hi
    have hearly := mt (hceil i).mpr (by omega)
    exact ⟨hnone i hi, by omega⟩
  by_cases hend : ∃ i, FirstEnd told i
  · obtain ⟨i, hi⟩ := hend
    have hk := h.ended i hi
    rcases Nat.lt_or_ge (timeout ⌈/⌉ interval) i with hlt | hge
    · refine ⟨timeout ⌈/⌉ interval, by omega, le_rfl,
        hgoesOn _ le_rfl fun j hj => hi.2 j (hj.trans hlt), .inr ((hceil _).mp le_rfl)⟩
    · exact ⟨i, by omega, hge, hgoesOn i hge hi.2, .inl hi.1⟩
  · have hnone : ∀ j, ¬Ends (told j) := fun j hj =>
      hend ((exists_firstEnd hj).imp fun _ h => h.2)
    exact ⟨timeout ⌈/⌉ interval, by have := h.endless fun i hi => hend ⟨i, hi⟩; omega, le_rfl,
      hgoesOn _ le_rfl fun j _ => hnone j, .inr ((hceil _).mp le_rfl)⟩

/-- The waiter's bound leaves room for the last poll. -/
theorem le_pollBound (h : LastPoll timeout interval told k) (hinterval : 0 < interval)
    (pending : Nat) : k ≤ pollBound timeout interval pending := by
  obtain ⟨n, rfl, hn, -⟩ := h.exists_before hinterval
  have hceil : timeout ⌈/⌉ interval ≤ timeout / interval + 1 := by
    rw [ceilDiv_le_iff_le_mul hinterval]
    exact (Nat.lt_mul_div_succ timeout hinterval).le
  rw [pollBound, if_neg hinterval.ne']
  omega

end LastPoll

-- ================================================================ exactness

/-- A wait of `k` polls is known to the last detail. It sleeps once between
each two of them. With fewer rounds it goes on, more rounds change nothing, and
the waiter's own bound is not reached. -/
structure Exact (poll : Poll σ) (world : σ) (ref : String) (timeout interval k : Nat) : Prop where
  last : LastPoll timeout interval (told poll world) k
  goesOn : ∀ started bound, bound < k →
    (Watch.goneOn poll interval started world 0).rounds poll ref timeout interval started bound
      = (none, Watch.goneOn poll interval started world bound)
  ends : ∀ started bound, k ≤ bound →
    (Watch.goneOn poll interval started world 0).rounds poll ref timeout interval started bound
      = (some (ending ref timeout interval k (told poll world (k - 1))),
        ⟨worldAt poll world k, started + (k - 1) * interval, k, k - 1⟩)
  waits : ∀ pending,
    (waitFrom poll ref timeout interval (pollBound timeout interval pending) 0 0).run.run world
      = (ending ref timeout interval k (told poll world (k - 1)), worldAt poll world k)

/-- What the polls tell says how a wait runs, if none tells that time is up. -/
theorem LastPoll.exact {poll : Poll σ} {world : σ} {timeout interval k : Nat}
    (h : LastPoll timeout interval (told poll world) k) (hinterval : 0 < interval)
    (hpolled : ∀ i status, told poll world i = .ok status → status.state ≠ .timedOut)
    (ref : String) : Exact poll world ref timeout interval k := by
  have hbound := h.le_pollBound hinterval
  obtain ⟨n, rfl, -, hgoesOn, hend⟩ := h.exists_before hinterval
  have hends : ∀ started bound, n + 1 ≤ bound →
      (Watch.goneOn poll interval started world 0).rounds poll ref timeout interval started bound
        = (some (ending ref timeout interval (n + 1) (told poll world n)),
          ⟨worldAt poll world (n + 1), started + n * interval, n + 1, n⟩) := by
    intro started bound hle
    obtain ⟨more, rfl⟩ := Nat.exists_eq_add_of_le hle
    rw [show n + 1 + more = n + (more + 1) by omega, Watch.rounds_goOn ref started hgoesOn,
      Watch.rounds, Watch.round_ends ref started (hpolled n) hend]
  refine ⟨h, fun started bound hlt => ?_, hends, fun pending => ?_⟩
  · have hbefore := Watch.rounds_goOn ref started (n := bound)
      (fun i hi => hgoesOn i (by omega)) 0
    rwa [Nat.add_zero] at hbefore
  · have hrun := Watch.run_waitFrom poll ref timeout interval 0
      (pollBound timeout interval pending) (Watch.goneOn poll interval 0 world 0) (Nat.zero_le _)
    rw [hends 0 _ (hbound pending)] at hrun
    simpa [Watch.goneOn, worldAt] using hrun

/-- A poll whose requests are given answers from a list without end. The world
is how many of them have been given. -/
def scripted (format : Format) (answers : Nat → Except SessionError Response) : Poll Nat :=
  ExceptT.mk fun i => ((answers i).bind (parseStatus format), i + 1)

theorem worldAt_scripted (format : Format) (answers : Nat → Except SessionError Response)
    (i : Nat) : worldAt (scripted format answers) 0 i = i := by
  induction i with
  | zero => rfl
  | succ i ih => exact congrArg (· + 1) ih

theorem told_scripted (format : Format) (answers : Nat → Except SessionError Response) :
    told (scripted format answers) 0 = fun i => (answers i).bind (parseStatus format) := by
  funext i
  change (answers (worldAt (scripted format answers) 0 i)).bind (parseStatus format) = _
  rw [worldAt_scripted]

end CloudSession.Task

namespace CloudSession

open CloudSession.Task

/-- A client's poll never tells that time is up. -/
theorem Client.triple_poll_state (c : Client) (format : Format) (ref : String) :
    Action.Triple (fun _ => True) (c.poll format ref) (fun status _ => status.state ≠ .timedOut)
      (fun _ => True) :=
  .bind (.trace _ _) fun _ =>
    .attempt (fun _ _ hparsed _ => state_ne_timedOut hparsed) fun _ _ => trivial

/-- A wait is over after exactly as many polls as its times and what the polls
tell make it, whatever the polls tell, and gives what the last of them tells. -/
theorem wait_exact (format : Format) (ref : String) (timeout interval : Nat)
    (hinterval : 0 < interval) :
    (∀ answers : Nat → Except SessionError Response, ∃ k,
      LastPoll timeout interval (fun i => (answers i).bind (parseStatus format)) k ∧
      Exact (scripted format answers) 0 ref timeout interval k) ∧
    ∀ (c : Client) (s : Scene), ∃ k, Exact (c.poll format ref) s ref timeout interval k ∧
      (c.wait format ref timeout interval).outcome s
        = (ending ref timeout interval k (told (c.poll format ref) s (k - 1)),
          worldAt (c.poll format ref) s k) := by
  refine ⟨fun answers => ?_, fun c s => ?_⟩
  · obtain ⟨k, hlast⟩ := LastPoll.exists_last timeout interval (told (scripted format answers) 0)
    have hpolled : ∀ i status, told (scripted format answers) 0 i = .ok status →
        status.state ≠ .timedOut := by
      intro i status h
      rw [told_scripted] at h
      cases hanswer : answers i with
      | error e => exact absurd h (by simp [hanswer, Except.bind])
      | ok r => exact state_ne_timedOut (by simpa [hanswer, Except.bind] using h)
    exact ⟨k, told_scripted format answers ▸ hlast, hlast.exact hinterval hpolled ref⟩
  · obtain ⟨k, hlast⟩ := LastPoll.exists_last timeout interval (told (c.poll format ref) s)
    have hpolled : ∀ i status, told (c.poll format ref) s i = .ok status →
        status.state ≠ .timedOut := fun i status h =>
      (c.triple_poll_state format ref).ok trivial
        (Prod.ext h rfl : (c.poll format ref).outcome (worldAt _ s i) = (.ok status, _))
    have hexact := hlast.exact hinterval hpolled ref
    exact ⟨k, hexact, hexact.waits _⟩

namespace Sample

/-- A task that is running until the time is up, and is then found done. -/
def doneInTime (i : Nat) : Except SessionError Response :=
  .ok ⟨200, .empty, (Json.obj [("status", .str (if i < 5 then "running" else "success"))]
    ).compact.toUTF8⟩

end Sample

/-- In five intervals there are six polls, and a task that the last of them
finds done has not timed out. -/
theorem wait_exact_doneInTime :
    0 < 200 ∧
      (waitFrom (scripted .json Sample.doneInTime) "/tasks/7" 1000 200 (pollBound 1000 200 0)
        0 0).run.run 0 = (.ok ⟨"/tasks/7", .success, 6, 1000, 200⟩, 6) := by
  obtain ⟨k, hlast, hexact⟩ := (wait_exact .json "/tasks/7" 1000 200 (by decide)).1
    Sample.doneInTime
  have hfirst : FirstEnd (fun i => (Sample.doneInTime i).bind (parseStatus .json)) 5 :=
    ⟨by decide +kernel, by decide +kernel⟩
  obtain rfl : k = 6 := (hlast.ended 5 hfirst).trans (by decide +kernel)
  have htold : told (scripted .json Sample.doneInTime) 0 5 = .ok ⟨.success, none⟩ := by
    rw [told_scripted]
    decide +kernel
  have hwaits := hexact.waits 0
  rw [htold, worldAt_scripted] at hwaits
  exact ⟨by decide, hwaits⟩

end CloudSession
