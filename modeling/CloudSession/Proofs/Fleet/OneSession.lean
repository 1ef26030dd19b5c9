/-
What one call does in a fleet. The session that it finds fits together, so a
call keeps to one handshake, one request and one session exactly unless that
session has expired on arrival and its catalog is needed
(`call_oneSession_iff`). It then sends the token of one session to an
endpoint of another (`call_two_sessions`).
-/
import CloudSession.Proofs.Fleet.Coherence
import CloudSession.Proofs.Session.OneSession

namespace CloudSession

open CloudSession.Action

variable {ι : Type} [DecidableEq ι] {members : ι → Member}

/-- Wherever a client gets its turn in a run of clients that begin with nothing,
a call performs at most one handshake and sends at most one request, which goes
with the installed token to an endpoint from the installed catalog, exactly if
a base URL is forced or the session that the call gets has not expired on
arrival. -/
theorem call_oneSession_iff {start : Fleet ι} (hstart : start.Initial) {steps : List (Step ι)}
    {earlier later : List (Turn ι)} {t : Turn ι}
    (hturns : start.turns members steps = earlier ++ t :: later) (action : String)
    (method : Method) (headers : Headers) (body : Option ByteArray) :
    (t.client members).OneSession action method headers body t.before ↔
      (t.client members).selector.baseUrl ≠ none ∨
        ¬(t.client members).ExpiredOnArrival t.before := by
  obtain ⟨hfits, hlog⟩ := coherent_split hstart hturns
  exact Client.oneSession_iff_lasting hfits hlog

/-- A client whose session lasts. -/
theorem call_oneSession_lasting :
    ∃ t : Turn Unit, (Sample.fleet [Sample.grant "T" "2999-01-01T00:00:00Z"
        (Sample.catalog "https://a.example.com/v2"), Sample.status 200]).turns Sample.lone
          [.turn () Sample.call] = [t] ∧
      (t.events Sample.lone).any (·.isService) = true ∧
      (Sample.client none).OneSession "/servers" .get .empty none t.before := by
  let start : Fleet Unit := Sample.fleet [Sample.grant "T" "2999-01-01T00:00:00Z"
    (Sample.catalog "https://a.example.com/v2"), Sample.status 200]
  let t := start.turn Sample.lone () Sample.call
  have hrun : ((t.events Sample.lone).any (·.isService) &&
      ((Sample.client none).active.outcome t.before).1.toOption.all fun a =>
        a.context.isValid t.before.outside.now 0 == some true) = true := by decide +kernel
  obtain ⟨hsent, hactive⟩ := Bool.and_eq_true_iff.mp hrun
  refine ⟨t, rfl, hsent, (call_oneSession_iff (t := t) (Sample.fleet_initial _)
    (show start.turns Sample.lone [.turn () Sample.call] = [] ++ t :: [] from rfl)
    "/servers" .get .empty none).mpr (Or.inr ?_)⟩
  intro houtcome
  obtain ⟨x, s', houtcome, hinvalid⟩ := houtcome
  have houtcome : (Sample.client none).active.outcome t.before = (.ok ⟨x, false⟩, s') := houtcome
  rw [houtcome] at hactive
  exact absurd ((beq_iff_eq.mp hactive).symm.trans hinvalid) (by simp)

/-- With a token that has expired on arrival a call performs two handshakes and
sends the first one's token to an endpoint from the second one's catalog. -/
theorem call_two_sessions :
    ∃ t : Turn Unit, (Sample.fleet [
        Sample.grant "OLD" "2029-01-01T00:00:00Z" (Sample.catalog "https://a.example.com/v2"),
        Sample.grant "NEW" "2999-01-01T00:00:00Z" (Sample.catalog "https://b.example.com/v2"),
        Sample.status 200]).turns Sample.lone [.turn () Sample.call] = [t] ∧
      (∃ r answer, .exchange .service r answer ∈ (((Sample.client none).call "/servers" .get
          .empty none).outcome t.before).2.outside.log ∧
        r.headers.get? "X-Auth-Token" = some "OLD" ∧
        r.url = "https://b.example.com/v2/servers") ∧
      ¬(Sample.client none).OneSession "/servers" .get .empty none t.before := by
  let start : Fleet Unit := Sample.fleet [
    Sample.grant "OLD" "2029-01-01T00:00:00Z" (Sample.catalog "https://a.example.com/v2"),
    Sample.grant "NEW" "2999-01-01T00:00:00Z" (Sample.catalog "https://b.example.com/v2"),
    Sample.status 200]
  let t := start.turn Sample.lone () Sample.call
  have hrun : ((((Sample.client none).call "/servers" .get .empty none).outcome
        t.before).2.handshakes == 2 &&
      (((Sample.client none).call "/servers" .get .empty none).outcome
        t.before).2.outside.log.any (·.serves fun r =>
          r.headers.get? "X-Auth-Token" == some "OLD" &&
            r.url == "https://b.example.com/v2/servers")) = true := by decide +kernel
  obtain ⟨htwice, hserves⟩ := Bool.and_eq_true_iff.mp hrun
  obtain ⟨r, answer, hsent, hr⟩ := Event.mem_of_serves hserves
  obtain ⟨htoken, hurl⟩ := Bool.and_eq_true_iff.mp hr
  refine ⟨t, rfl, ⟨r, answer, hsent, beq_iff_eq.mp htoken, beq_iff_eq.mp hurl⟩, fun hone => ?_⟩
  have := hone.handshakes
  rw [beq_iff_eq.mp htwice] at this
  exact absurd this (by decide)

end CloudSession
