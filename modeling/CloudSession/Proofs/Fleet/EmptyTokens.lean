/-
Empty tokens. A handshake yields one exactly when the answer to it grants it,
and whatever the clients of a fleet cache and send comes from handshakes. So a
run is free of empty tokens (`FreeOfEmpty`) if and only if none of its answers
grants one: that the clients' contexts have other tokens is kept by every turn
without such an answer (`accountable_turn`), and the requests of a turn carry
the tokens of these contexts (`sent_full`).
-/
import CloudSession.Proofs.Fleet.Provenance
import CloudSession.Proofs.Handshake.Answers

namespace CloudSession

open CloudSession.Action

variable {ι : Type} (members : ι → Member)

-- ===================================================================== turns

/-- Whether the answer to a handshake of the turn granted the empty token. -/
def Turn.AnsweredEmpty (t : Turn ι) : Prop :=
  ∃ request answer, .exchange .handshake request answer ∈ t.events members ∧
    Handshake.GrantsEmpty (t.client members).identity answer

/-- Whether an event is an answer that yielded the empty token. -/
def Event.yieldsEmpty (i : Identity) : Event → Bool
  | .exchange .handshake _ answer =>
    (Handshake.conclude i answer).toOption.any (·.token == "")
  | _ => false

theorem Event.yieldsEmpty_iff {i : Identity} {e : Event} :
    e.yieldsEmpty i = true ↔
      ∃ request answer, e = .exchange .handshake request answer ∧
        Handshake.GrantsEmpty i answer := by
  constructor
  · intro hyields
    unfold Event.yieldsEmpty at hyields
    split at hyields
    · next request answer =>
      refine ⟨request, answer, rfl, Handshake.conclude_empty_iff.mp ?_⟩
      cases hconclude : Handshake.conclude i answer with
      | error _ => simp [hconclude, Except.toOption] at hyields
      | ok x => exact ⟨x, rfl, by simpa [hconclude, Except.toOption] using hyields⟩
    · exact absurd hyields (by simp)
  · rintro ⟨request, answer, rfl, hgrants⟩
    obtain ⟨x, hconclude, htoken⟩ := Handshake.conclude_empty_iff.mpr hgrants
    simp [Event.yieldsEmpty, hconclude, htoken, Except.toOption]

theorem Turn.answeredEmpty_iff {t : Turn ι} :
    t.AnsweredEmpty members ↔
      (t.events members).any (·.yieldsEmpty (t.client members).identity) = true := by
  simp only [List.any_eq_true, Event.yieldsEmpty_iff]
  constructor
  · rintro ⟨request, answer, hmem, hgrants⟩
    exact ⟨_, hmem, request, answer, rfl, hgrants⟩
  · rintro ⟨_, hmem, request, answer, rfl, hgrants⟩
    exact ⟨request, answer, hmem, hgrants⟩

instance (t : Turn ι) : Decidable (t.AnsweredEmpty members) :=
  decidable_of_iff _ (Turn.answeredEmpty_iff members).symm

/-- A token that is not empty, under whatever key. -/
def HasToken (_ : String) (x : Context) : Prop := x.token ≠ ""

variable {members}

/-- What a turn is granted has a token unless an answer withheld it. -/
theorem hasToken_of_granted {t : Turn ι} (h : ¬t.AnsweredEmpty members) {log : List Event}
    (hlog : ∀ e ∈ log, e ∈ t.events members) {x : Context}
    (hgranted : (t.client members).Granted log x) : x.token ≠ "" := by
  obtain ⟨request, answer, hmem, hconclude⟩ := hgranted
  exact fun htoken => h ⟨request, answer, hlog _ hmem,
    (Handshake.token_empty_iff hconclude).mp htoken⟩

/-- A request that is sent without a forced token carries one that is not
empty, unless its caller names the header. -/
theorem sent_full {f : Fleet ι} (h : Accountable members HasToken True (fun _ => True) f)
    {who : ι} {operation : Operation} {t : Turn ι} (ht : t = f.turn members who operation)
    (hempty : ¬t.AnsweredEmpty members) (hforced : t.forced? members = none)
    {r : Request} {answer : Answer} (hsent : .exchange .service r answer ∈ t.events members) :
    ∃ token, token ≠ "" ∧ (t.client members).Carries t.operation.callerHeaders r token := by
  obtain ⟨before, after, hsplit⟩ := List.append_of_mem hsent
  subst ht
  obtain ⟨-, hvouching⟩ := h.accounted who (fun _ => trivial) operation
  have hrequest := hvouching.requests before r answer after hsplit
  rw [hforced] at hrequest
  obtain ⟨x, hsource, -, hcarries⟩ := hrequest trivial
  refine ⟨x.token, hsource.elim id fun hgranted => ?_, hcarries⟩
  refine hasToken_of_granted hempty (fun e he => ?_) hgranted
  rw [hsplit]
  exact List.mem_append_left _ he

variable [DecidableEq ι]

/-- The contexts that a turn leaves have tokens, if those that it found have
and no answer withheld one. -/
theorem accountable_turn {f : Fleet ι} (h : Accountable members HasToken True (fun _ => True) f)
    {who : ι} {operation : Operation}
    (hempty : ¬(f.turn members who operation).AnsweredEmpty members) :
    Accountable members HasToken True (fun _ => True) (f.after members (.turn who operation)) := by
  refine (h.after_turn (fun _ _ _ => trivial) who operation).mono fun key x hx => ?_
  rcases hx with hx | ⟨t, ht, -, hgranted⟩
  · exact hx
  · obtain rfl := List.mem_singleton.mp ht
    exact hasToken_of_granted hempty (fun _ he => he) hgranted

-- ====================================================================== runs

variable (members) in
/-- There is no empty token in a run: no handshake yields one, no cache and no
session has one at any time between turns, and no request carries one unless a
token is forced or its caller names the header. -/
structure FreeOfEmpty (start : Fleet ι) (steps : List (Step ι)) : Prop where
  yielded : ∀ t ∈ start.turns members steps, ∀ x,
    (t.client members).Granted (t.events members) x → x.token ≠ ""
  stored : ∀ first, first <+: steps → ∀ key x,
    (start.afterAll members first).store.store.get key = .ok (some x) → x.token ≠ ""
  remembered : ∀ first, first <+: steps → ∀ who x,
    ((start.afterAll members first).sessions who).memory.get? (members who).client.key = some x →
      x.token ≠ ""
  installed : ∀ first, first <+: steps → ∀ who x,
    ((start.afterAll members first).sessions who).context = some x → x.token ≠ ""
  sent : ∀ t ∈ start.turns members steps, t.forced? members = none → ∀ r answer,
    .exchange .service r answer ∈ t.events members →
      ∃ token, token ≠ "" ∧ (t.client members).Carries t.operation.callerHeaders r token

theorem freeOfEmpty_of_answers {start : Fleet ι} (hstart : start.Initial)
    {steps : List (Step ι)} (h : ∀ t ∈ start.turns members steps, ¬t.AnsweredEmpty members) :
    FreeOfEmpty members start steps := by
  have hinitial : Accountable members HasToken True (fun _ => True) start :=
    (accountable_initial hstart).mono fun _ _ hx => hx.elim
  have hreached : ∀ first, first <+: steps →
      Accountable members HasToken True (fun _ => True) (start.afterAll members first) := by
    rintro first ⟨rest, rfl⟩
    refine Fleet.afterAll_keeps_of_turns (P := fun t => ¬t.AnsweredEmpty members)
      (fun _ _ _ hempty hf => accountable_turn hf hempty)
      (fun _ _ hsessions hstore hf => hf.of_same hsessions hstore) hinitial
      fun t ht => h t ?_
    rw [Fleet.turns_append]
    exact List.mem_append_left _ ht
  refine ⟨fun t ht x hx => hasToken_of_granted (h t ht) (fun _ he => he) hx,
    fun first hfirst key x hx => ?_, fun first hfirst who x hx => ?_,
    fun first hfirst who x hx => ?_, fun t ht hforced r answer hsent => ?_⟩
  · obtain ⟨y, hcopy, hy⟩ := (hreached first hfirst).store trivial key x hx
    exact hcopy.token ▸ hy
  · obtain ⟨y, hcopy, hy⟩ := (hreached first hfirst).memory who trivial x hx
    exact hcopy.token ▸ hy
  · obtain ⟨y, hcopy, hy⟩ := (hreached first hfirst).context who trivial x hx
    exact hcopy.token ▸ hy
  · obtain ⟨earlier, later, hturns⟩ := List.append_of_mem ht
    have hearlier : ∀ u ∈ earlier, ¬u.AnsweredEmpty members := fun u hu =>
      h u (hturns ▸ List.mem_append_left _ hu)
    obtain ⟨g, -, hg, hgt, -⟩ := Fleet.turns_split
      (I := fun taken f => (∀ u ∈ taken, ¬u.AnsweredEmpty members) →
        Accountable members HasToken True (fun _ => True) f)
      (fun taken f who operation hf htaken =>
        accountable_turn (hf fun u hu => htaken u (List.mem_append_left _ hu))
          (htaken _ (by simp)))
      (fun _ _ _ hsessions hstore hf htaken => (hf htaken).of_same hsessions hstore)
      (fun _ => hinitial) hturns
    exact sent_full (hg hearlier) hgt (h t ht) hforced hsent

/-- A handshake yields a token that is not empty, unless the answer to it grants
the empty one in its body. Clients that begin with nothing have and send no
empty token in a run if and only if none is granted in it. -/
theorem token_full_iff {start : Fleet ι} (hstart : start.Initial) (steps : List (Step ι)) :
    (∀ (c : Client) (s s' : Scene) (x : Context), c.handshake.outcome s = (.ok x, s') →
      (x.token ≠ "" ↔ ¬Handshake.GrantsEmpty c.identity s.outside.network.send.1)) ∧
    (FreeOfEmpty members start steps ↔
      ∀ t ∈ start.turns members steps, ¬t.AnsweredEmpty members) := by
  refine ⟨fun c s s' x ho => ?_, fun hfree t ht hempty => ?_, freeOfEmpty_of_answers hstart⟩
  · cases hrequest : Handshake.request c.identity with
    | error e => exact nomatch (Client.outcome_handshake_unsent hrequest s).symm.trans ho
    | ok request =>
      have hconclude := congrArg Prod.fst ((Client.outcome_handshake hrequest s).symm.trans ho)
      exact not_congr (Handshake.token_empty_iff hconclude)
  · obtain ⟨request, answer, hmem, hgrants⟩ := hempty
    obtain ⟨x, hconclude, htoken⟩ := Handshake.conclude_empty_iff.mpr hgrants
    exact hfree.yielded t ht x ⟨request, answer, hmem, hconclude⟩ htoken

namespace Sample

/-- Two clients in whose first handshake a token is granted. -/
def granting (token : String) : Fleet Bool :=
  fleet [grant token "2999-01-01T00:00:00Z" (.arr []), status 200]

/-- The call of the first of them. -/
def firstCall (token : String) : Turn Bool := (granting token).turn pair true call

end Sample

/-- A call with a token, in a run without an empty one. -/
theorem token_full_iff_granted :
    (Sample.granting "T").Initial ∧
      ((Sample.firstCall "T").events Sample.pair).any
        (·.serves fun r => r.headers.get? "X-Auth-Token" == some "T") = true ∧
      FreeOfEmpty Sample.pair (Sample.granting "T") [.turn true Sample.call] := by
  refine ⟨Sample.fleet_initial _, by decide +kernel,
    ((token_full_iff (Sample.fleet_initial _) _).2).mpr fun t ht => ?_⟩
  obtain rfl : t = Sample.firstCall "T" := List.mem_singleton.mp ht
  decide +kernel

/-- An answer that grants the empty token. It is yielded, installed, cached
everywhere and sent to the service. -/
theorem token_not_full :
    (Sample.granting "").Initial ∧
      (Sample.firstCall "").forced? Sample.pair = none ∧
      ((Sample.pair true).client.handshake.outcome (Sample.firstCall "").before).1.toOption.any
        (·.token == "") = true ∧
      ((Sample.firstCall "").outcome Sample.pair).2.session.context.any (·.token == "") = true ∧
      ((Sample.firstCall "").outcome Sample.pair).2.session.memory.entries.any
        (·.2.token == "") = true ∧
      ((Sample.firstCall "").events Sample.pair).any (fun
        | .store (.put x) _ succeeded => x.token == "" && succeeded
        | _ => false) = true ∧
      ((Sample.firstCall "").events Sample.pair).any
        (·.serves fun r => r.headers.get? "X-Auth-Token" == some "") = true := by
  refine ⟨Sample.fleet_initial _, rfl, ?_, ?_, ?_, ?_, ?_⟩ <;> decide +kernel

end CloudSession
