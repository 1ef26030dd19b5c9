/-
The session of every client in a fleet fits together. Each operation keeps
this, also one that fails (`fits_run`), and so it holds of every state that a
client gets to (`session_coherent`).
-/
import CloudSession.Proofs.Fleet.Basic

namespace CloudSession

open CloudSession.Action

-- ================================================================ operations

/-- Whatever a client is asked to do, its session fits together. -/
theorem fits_run {c : Client} (operation : Operation) :
    Triple c.Fits (operation.run c) (fun _ => c.Fits) c.Fits := by
  refine Operation.triple_run Client.upkeep_fits (fun _ hs => hs)
    (fun action method body => Client.fits_call action method _ body) fun hnegotiation => ?_
  cases operation with
  | authenticate force => exact (Client.fits_authenticate force).returning (fun _ hs => hs) _
  | negotiate force =>
      exact (Client.fits_of_keeps (c.keeps_negotiate force)).returning (fun _ hs => hs) _
  | cached => exact (Client.fits_of_keeps c.keeps_cached).returning (fun _ hs => hs) _
  | clearCached => exact .bind Client.fits_clearCached fun _ => .pure fun _ hs => hs
  | _ => exact absurd hnegotiation (by simp [Operation.isNegotiation])

-- ====================================================================== runs

variable {ι : Type} [DecidableEq ι] {members : ι → Member}

/-- A turn leaves every client's session fitting together. -/
theorem coherent_after_turn {f : Fleet ι} {other : ι}
    (h : (members other).client.Coherent (f.sessions other)) (who : ι) (operation : Operation) :
    (members other).client.Coherent ((f.after members (.turn who operation)).sessions other) := by
  by_cases hother : other = who
  · subst hother
    simp only [Fleet.after, Fleet.absorb, if_true]
    exact (fits_run operation).leaves (s := f.scene members other) h
  · simpa only [Fleet.after, Fleet.absorb, if_neg hother] using h

/-- In every turn of a run the client's session fits together. -/
theorem coherent_split {start : Fleet ι} (hstart : start.Initial) {steps : List (Step ι)}
    {earlier later : List (Turn ι)} {t : Turn ι}
    (hturns : start.turns members steps = earlier ++ t :: later) :
    (t.client members).Fits t.before ∧ t.before.outside.log = [] := by
  obtain ⟨g, -, hcoherent, ht, -⟩ := Fleet.turns_split
    (I := fun _ f => ∀ who, (members who).client.Coherent (f.sessions who))
    (fun _ _ who operation hf other => coherent_after_turn (hf other) who operation)
    (fun _ _ _ hsessions _ hf => hsessions ▸ hf)
    (fun who => hstart.sessions who ▸ Client.coherent_initial) hturns
  rw [ht]
  exact ⟨hcoherent t.who, rfl⟩

/-- Whatever is done by a client that began with nothing, by others and around
them: the client has a catalog in use if and only if it has a context in use,
and it is the one that this context's own is read as; and the connection that
it remembers for its requests is that of its base URL or, without one, of the
endpoint that this catalog gives for its selector and defaults. -/
theorem session_coherent {start : Fleet ι} {who : ι} (hstart : start.sessions who = .initial)
    (steps : List (Step ι)) :
    (members who).client.Coherent ((start.afterAll members steps).sessions who) := by
  refine Fleet.afterAll_keeps (I := fun f => (members who).client.Coherent (f.sessions who))
    (fun f step hf => ?_) (hstart ▸ Client.coherent_initial) steps
  cases step with
  | turn other operation => exact coherent_after_turn hf other operation
  | clock now => exact hf
  | network network => exact hf
  | faults faults => exact hf

/-- A client after a call, when it has all of these. -/
theorem session_coherent_called :
    ∃ s, ((Sample.fleet [Sample.grant "T" "2999-01-01T00:00:00Z"
        (Sample.catalog "https://a.example.com/v2"), Sample.status 200]).afterAll Sample.lone
        [.turn () Sample.call]).sessions () = s ∧
      s.context.isSome = true ∧ s.resolved.isSome = true ∧ (Sample.client none).Coherent s := by
  let start : Fleet Unit := Sample.fleet [Sample.grant "T" "2999-01-01T00:00:00Z"
    (Sample.catalog "https://a.example.com/v2"), Sample.status 200]
  have hrun :
      (((start.afterAll Sample.lone [.turn () Sample.call]).sessions ()).context.isSome &&
        ((start.afterAll Sample.lone [.turn () Sample.call]).sessions ()).resolved.isSome)
        = true := by
    decide +kernel
  obtain ⟨hcontext, hresolved⟩ := Bool.and_eq_true_iff.mp hrun
  have hcoherent : (Sample.lone ()).client.Coherent
      ((start.afterAll Sample.lone [.turn () Sample.call]).sessions ()) :=
    session_coherent rfl [.turn () Sample.call]
  exact ⟨_, rfl, hcontext, hresolved, hcoherent⟩

end CloudSession
